import Wayfare.Json.Scan
import Wayfare.Proofs.Except
import Wayfare.Proofs.Text.Span

/-!
Numbers in the text of a document, by the grammar of the JSON standard. A numeral has a sign, a whole
part, a fraction and an exponent; it is read as far as it goes, and has a value unless it is too large.
-/
namespace Wayfare.Json

open Scan

/-! ## Numerals -/

/-- At least one digit, and nothing else. -/
def AreDigits (ds : List UInt8) : Prop :=
  ds ≠ [] ∧ ∀ b ∈ ds, isDigit b = true

structure Exponent where
  letter : UInt8
  sign : Option UInt8
  digits : List UInt8
  letter_fits : isExponentLetter letter = true
  sign_fits : ∀ b ∈ sign, b = 0x2B ∨ b = 0x2D
  digits_fit : AreDigits digits

/-- A whole part begins with a zero only where it is a zero. -/
structure Numeral where
  minus : Bool
  whole : List UInt8
  fraction : Option (List UInt8)
  exponent : Option Exponent
  whole_fits : AreDigits whole
  zero_alone : whole.head? = some 0x30 → whole = [0x30]
  fraction_fits : ∀ ds ∈ fraction, AreDigits ds

def Exponent.bytes (x : Exponent) : List UInt8 :=
  x.letter :: (x.sign.toList ++ x.digits)

/-- What an exponent adds to a numeral. -/
def Exponent.bytesOf : Option Exponent → List UInt8
  | none => []
  | some x => x.bytes

namespace Numeral

def fractionBytes (n : Numeral) : List UInt8 :=
  match n.fraction with
  | none => []
  | some ds => 0x2E :: ds

def bytes (n : Numeral) : List UInt8 :=
  (if n.minus then [0x2D] else []) ++ (n.whole ++ (n.fractionBytes ++ Exponent.bytesOf n.exponent))

end Numeral

/-! ## Values -/

/-- The number that digits write behind others. -/
def decimal (n : Nat) (ds : List UInt8) : Nat :=
  ds.foldl (fun n b => 10 * n + digitValue b) n

/-- The digits of a whole part that make up the significand, as a number, and how many are left. -/
def significand : Nat → List UInt8 → Nat × Nat
  | n, [] => (n, 0)
  | n, b :: ds =>
    if maxWhole < 10 * n + digitValue b then (n, ds.length + 1)
    else significand (10 * n + digitValue b) ds

/-- A significand and its power of ten with the digits of a fraction, as far as they fit. -/
def withFraction : Nat → Int → List UInt8 → Nat × Int
  | n, e, [] => (n, e)
  | n, e, b :: ds =>
    if maxWhole < 10 * n + digitValue b then (n, e)
    else withFraction (10 * n + digitValue b) (e - 1) ds

/-- The double of a decimal. -/
def double? (minus : Bool) (n : Nat) (e : Int) : Option Number :=
  (Double.ofDecimal? minus n e).map .double

/-- The number of a whole numeral: exact where it fits, except for minus zero. -/
def wholeNumber? (minus : Bool) (n left : Nat) : Option Number :=
  if left ≠ 0 then double? minus n left
  else if !minus then some (.whole n)
  else if n = 0 ∨ Nat.pow 2 63 < n then double? true n 0
  else some (.whole (-n))

/-- The number `n · 10^e` with a further power of ten. A power out of bounds makes zero of it, or
nothing. -/
def powered? (minus : Bool) (n : Nat) (e : Int) (down : Bool) (power : Nat) : Option Number :=
  if maxExponent < power then if n ≠ 0 ∧ !down then none else double? minus 0 0
  else double? minus n (if down then e - power else e + power)

def scaled? (minus : Bool) (n : Nat) (e : Int) (x : Exponent) : Option Number :=
  powered? minus n e (x.sign == some 0x2D) (decimal 0 x.digits)

/-- The number of a numeral with a fraction or an exponent. -/
def withExponent? (minus : Bool) (n : Nat) (e : Int) : Option Exponent → Option Number
  | none => double? minus n e
  | some x => scaled? minus n e x

/-- The number that a numeral stands for, unless it is too large. -/
def Numeral.value? (n : Numeral) : Option Number :=
  let (start, left) := significand 0 n.whole
  match n.fraction with
  | none =>
    match n.exponent with
    | none => wholeNumber? n.minus start left
    | some x => scaled? n.minus start left x
  | some ds =>
    let (m, e) := withFraction start left ds
    withExponent? n.minus m e n.exponent

/-! ## Where a numeral ends -/

/-- What follows does not go on with the numeral. -/
structure Numeral.Ends (n : Numeral) (rest : List UInt8) : Prop where
  digit : rest.head?.all (!isDigit ·)
  point : rest.head? = some 0x2E → n.fraction.isSome ∨ n.exponent.isSome
  letter : rest.head?.any isExponentLetter → n.exponent.isSome

/-! ## Reading digits -/

variable {minus : Bool} {ds rest : List UInt8} {n : Nat} {e : Int}

theorem AreDigits.exists_cons (h : AreDigits ds) :
    ∃ b more, ds = b :: more ∧ isDigit b = true ∧ ∀ c ∈ more, isDigit c = true := by
  obtain ⟨hne, hdigits⟩ := h
  obtain ⟨b, more, rfl⟩ := List.exists_cons_of_ne_nil hne
  exact ⟨b, more, rfl, List.forall_mem_cons.mp hdigits⟩

theorem ne_of_isDigit {b c : UInt8} (hb : isDigit b = true) (hc : isDigit c = false) :
    (b == c) = false := by
  rw [beq_eq_false_iff_ne]
  rintro rfl
  exact absurd (hb.symm.trans hc) (by decide)

theorem not_isExponentLetter_point : isExponentLetter 0x2E = false := by decide

theorem not_isDigit_of_letter {b : UInt8} (h : isExponentLetter b = true) : isDigit b = false := by
  rcases Bool.or_eq_true_iff.mp h with hb | hb <;> obtain rfl := beq_iff_eq.mp hb <;> decide

theorem longWhole_append (hds : ∀ b ∈ ds, isDigit b = true) :
    longWhole minus n e (ds ++ rest) = longWhole minus n (e + ds.length) rest := by
  induction ds generalizing e with
  | nil => simp
  | cons b ds ih =>
    obtain ⟨hb, hds'⟩ := List.forall_mem_cons.mp hds
    rw [List.cons_append, longWhole, if_pos hb, ih hds', List.length_cons]
    congr 1
    omega

theorem wholeDigits_append (hds : ∀ b ∈ ds, isDigit b = true)
    (hrest : rest.head?.all (!isDigit ·)) :
    wholeDigits minus n (ds ++ rest) =
      if (significand n ds).2 = 0 then afterWhole minus (significand n ds).1 rest
      else longWhole minus (significand n ds).1 (significand n ds).2 rest := by
  induction ds generalizing n with
  | nil =>
    cases rest with
    | nil => rfl
    | cons c rest =>
      have hc : isDigit c = false := by simpa using hrest
      simp [wholeDigits, significand, hc]
  | cons b ds ih =>
    obtain ⟨hb, hds'⟩ := List.forall_mem_cons.mp hds
    simp only [List.cons_append, wholeDigits, hb, if_true, significand, GT.gt]
    split
    · rw [longWhole_append hds', if_neg (by omega)]
      congr 1
      push_cast
      omega
    · exact ih hds'

theorem fraction_append (hds : ∀ b ∈ ds, isDigit b = true) (hrest : rest.head?.all (!isDigit ·))
    {any : Bool} (hany : any = true ∨ ds ≠ []) :
    fraction minus n e any (ds ++ rest) =
      afterFraction minus (withFraction n e ds).1 (withFraction n e ds).2 rest := by
  induction ds generalizing n e any with
  | nil =>
    have hany' : any = true := by simpa using hany
    cases rest with
    | nil => simp [fraction, withFraction, hany']
    | cons c rest =>
      have hc : isDigit c = false := by simpa using hrest
      simp [fraction, withFraction, hc, hany']
  | cons b ds ih =>
    obtain ⟨hb, hds'⟩ := List.forall_mem_cons.mp hds
    simp only [List.cons_append, fraction, hb, if_true, withFraction, GT.gt]
    split
    · rw [List.dropWhile_cons, if_pos hb, Text.dropWhile_append_of_head hrest,
        List.dropWhile_eq_nil_iff.mpr hds', List.nil_append]
    · exact ih hds' (.inl rfl)

/-! ## Reading an exponent -/

theorem toOption_finishDouble (minus : Bool) (n : Nat) (e : Int) (rest : List UInt8) :
    (finishDouble minus n e rest).toOption = (double? minus n e).map fun x => (x, rest) := by
  rw [finishDouble, double?]
  cases Double.ofDecimal? minus n e <;> rfl

theorem le_decimal (n : Nat) (ds : List UInt8) : n ≤ decimal n ds := by
  induction ds generalizing n with
  | nil => exact Nat.le_refl n
  | cons b ds ih =>
    calc n ≤ 10 * n + digitValue b := by omega
      _ ≤ decimal n (b :: ds) := ih _

theorem toOption_exponentDigits {down : Bool} {power : Nat} (hpower : power ≤ maxExponent)
    (hds : ∀ b ∈ ds, isDigit b = true) (hrest : rest.head?.all (!isDigit ·)) :
    (exponentDigits minus n e down power (ds ++ rest)).toOption =
      (powered? minus n e down (decimal power ds)).map fun x => (x, rest) := by
  induction ds generalizing power with
  | nil =>
    have hfinish : exponentDigits minus n e down power rest =
        finishDouble minus n (if down then e - power else e + power) rest := by
      cases rest with
      | nil => rfl
      | cons c rest =>
        have hc : isDigit c = false := by simpa using hrest
        simp [exponentDigits, hc]
    rw [List.nil_append, hfinish, toOption_finishDouble, show decimal power [] = power from rfl,
      powered?, if_neg (Nat.not_lt.mpr hpower)]
  | cons b ds ih =>
    obtain ⟨hb, hds'⟩ := List.forall_mem_cons.mp hds
    have hdecimal : decimal power (b :: ds) = decimal (10 * power + digitValue b) ds := rfl
    simp only [List.cons_append, exponentDigits, hb, if_true, GT.gt, hdecimal]
    split
    · next hlarge =>
      rw [powered?, if_pos (Nat.lt_of_lt_of_le hlarge (le_decimal _ _)),
        Text.dropWhile_append_of_head hrest, List.dropWhile_eq_nil_iff.mpr hds', List.nil_append]
      by_cases hzero : n = 0
      · simp [hzero, toOption_finishDouble]
      · cases down with
        | false => simp [hzero, Except.toOption]
        | true => simp [hzero, toOption_finishDouble]
    · next hsmall => exact ih (Nat.not_lt.mp hsmall) hds'

theorem toOption_exponent (x : Exponent) (hrest : rest.head?.all (!isDigit ·)) :
    (exponent minus n e (x.sign.toList ++ x.digits ++ rest)).toOption =
      (scaled? minus n e x).map fun v => (v, rest) := by
  obtain ⟨letter, sign, digits, -, hsign, hdigits⟩ := x
  obtain ⟨b, ds, rfl, hb, hds⟩ := hdigits.exists_cons
  have hunsigned : ∀ down, (unsignedExponent minus n e down (b :: ds ++ rest)).toOption =
      (powered? minus n e down (decimal 0 (b :: ds))).map fun v => (v, rest) := by
    intro down
    have hone : digitValue b ≤ maxExponent := by
      have := b.toNat_lt
      simp only [digitValue, maxExponent, Nat.pow_eq]
      omega
    have hstart : decimal 0 (b :: ds) = decimal (digitValue b) ds := by simp [decimal]
    rw [List.cons_append, unsignedExponent, if_pos hb, toOption_exponentDigits hone hds hrest, hstart]
  cases sign with
  | none =>
    have hplus : (b == 0x2B) = false := ne_of_isDigit hb (by decide)
    have hminus : (b == 0x2D) = false := ne_of_isDigit hb (by decide)
    simp only [Option.toList_none, List.nil_append, List.cons_append, exponent, hplus, hminus]
    exact hunsigned false
  | some b' =>
    rcases hsign b' rfl with rfl | rfl
    · exact hunsigned false
    · exact hunsigned true

/-! ## Reading a numeral -/

section

variable {start left : Nat}

/-- What follows a whole part is read in one way, whether all its digits fit or not. -/
def afterDigits (minus : Bool) (start left : Nat) (rest : List UInt8) : Read Number :=
  if left = 0 then afterWhole minus start rest else longWhole minus start left rest

theorem afterDigits_point (minus : Bool) (start left : Nat) (rest : List UInt8) :
    afterDigits minus start left (0x2E :: rest) = fraction minus start left false rest := by
  rw [afterDigits]
  split
  · next hleft => rw [hleft]; rfl
  · rfl

theorem afterDigits_letter {b : UInt8} (hb : isExponentLetter b = true) (minus : Bool)
    (start left : Nat) (rest : List UInt8) :
    afterDigits minus start left (b :: rest) = exponent minus start left rest := by
  have hpoint : (b == 0x2E) = false := by
    rw [beq_eq_false_iff_ne]
    rintro rfl
    exact absurd hb (by decide)
  rw [afterDigits]
  split
  · next hleft => simp [afterWhole, hpoint, hb, hleft]
  · simp [longWhole, not_isDigit_of_letter hb, hpoint, afterFraction, hb]

theorem toOption_finishWhole (minus : Bool) (n : Nat) (rest : List UInt8) :
    (finishWhole minus n rest).toOption = (wholeNumber? minus n 0).map fun x => (x, rest) := by
  cases minus with
  | false => rfl
  | true =>
    simp only [finishWhole, wholeNumber?, Bool.not_true, Bool.false_eq_true, if_false, ne_eq,
      not_true_eq_false, Bool.or_eq_true, beq_iff_eq, decide_eq_true_eq, GT.gt]
    split
    · exact toOption_finishDouble true n 0 rest
    · rfl

theorem toOption_afterDigits_end (hdigit : rest.head?.all (!isDigit ·))
    (hpoint : rest.head? ≠ some 0x2E) (hletter : rest.head?.all (!isExponentLetter ·)) :
    (afterDigits minus start left rest).toOption =
      (wholeNumber? minus start left).map fun x => (x, rest) := by
  rw [afterDigits]
  split
  · next hleft =>
    have hafter : afterWhole minus start rest = finishWhole minus start rest := by
      cases rest with
      | nil => rfl
      | cons c rest => simp_all [afterWhole]
    rw [hafter, toOption_finishWhole, hleft]
  · next hleft =>
    have hafter : longWhole minus start left rest = finishDouble minus start left rest := by
      cases rest with
      | nil => rfl
      | cons c rest => simp_all [longWhole, afterFraction]
    rw [hafter, toOption_finishDouble, wholeNumber?, if_pos hleft]

theorem toOption_afterFraction (x : Option Exponent) (hdigit : rest.head?.all (!isDigit ·))
    (hletter : rest.head?.any isExponentLetter → x.isSome) :
    (afterFraction minus n e (Exponent.bytesOf x ++ rest)).toOption =
      (withExponent? minus n e x).map fun v => (v, rest) := by
  cases x with
  | none =>
    have hafter : afterFraction minus n e rest = finishDouble minus n e rest := by
      cases rest with
      | nil => rfl
      | cons c rest => simp_all [afterFraction]
    exact hafter ▸ toOption_finishDouble minus n e rest
  | some x =>
    simp only [Exponent.bytesOf, Exponent.bytes, List.cons_append, afterFraction, x.letter_fits,
      if_true]
    exact toOption_exponent x hdigit

end

theorem significand_one (b : UInt8) (ds : List UInt8) :
    significand 0 (b :: ds) = significand (digitValue b) ds := by
  have hsmall : ¬ maxWhole < 10 * 0 + digitValue b := by
    have := b.toNat_lt
    simp only [digitValue, maxWhole, Nat.pow_eq]
    omega
  rw [significand, if_neg hsmall, Nat.mul_zero, Nat.zero_add]

namespace Numeral

theorem head?_exponentBytes (n : Numeral) (h : n.Ends rest) :
    (Exponent.bytesOf n.exponent ++ rest).head?.all (!isDigit ·) := by
  cases n.exponent with
  | none => exact h.digit
  | some x => simp [Exponent.bytesOf, Exponent.bytes, not_isDigit_of_letter x.letter_fits]

theorem head?_fractionBytes (n : Numeral) (h : n.Ends rest) :
    (n.fractionBytes ++ (Exponent.bytesOf n.exponent ++ rest)).head?.all (!isDigit ·) := by
  rw [fractionBytes]
  cases n.fraction with
  | none => exact n.head?_exponentBytes h
  | some ds =>
    simp only [List.cons_append, List.head?_cons, Option.all_some]
    decide

theorem toOption_afterDigits (n : Numeral) (h : n.Ends rest) :
    (afterDigits n.minus (significand 0 n.whole).1 (significand 0 n.whole).2
        (n.fractionBytes ++ (Exponent.bytesOf n.exponent ++ rest))).toOption =
      n.value?.map fun v => (v, rest) := by
  have htail := n.head?_exponentBytes h
  simp only [fractionBytes, value?]
  cases hfraction : n.fraction with
  | none =>
    cases hexponent : n.exponent with
    | none =>
      have hpoint : rest.head? ≠ some 0x2E := by
        intro hhead
        simpa [hfraction, hexponent] using h.point hhead
      have hletter : rest.head?.all (!isExponentLetter ·) := by
        have := h.letter
        cases hhead : rest.head? <;> simp_all
      simpa [Exponent.bytesOf] using toOption_afterDigits_end h.digit hpoint hletter
    | some x =>
      simp only [Exponent.bytesOf, List.nil_append, Exponent.bytes, List.cons_append,
        afterDigits_letter x.letter_fits]
      exact toOption_exponent x h.digit
  | some ds =>
    obtain ⟨hne, hds⟩ := n.fraction_fits ds hfraction
    simp only [List.cons_append, afterDigits_point]
    rw [fraction_append hds htail (.inr hne)]
    exact toOption_afterFraction n.exponent h.digit h.letter

theorem toOption_unsignedNumber (n : Numeral) (h : n.Ends rest) :
    (unsignedNumber n.minus (n.whole ++ (n.fractionBytes ++ (Exponent.bytesOf n.exponent ++ rest)))).toOption =
      n.value?.map fun v => (v, rest) := by
  have htail := n.head?_fractionBytes h
  rw [← n.toOption_afterDigits h]
  generalize n.fractionBytes ++ (Exponent.bytesOf n.exponent ++ rest) = tail at htail
  obtain ⟨b, ds, hwhole, hb, hds⟩ := n.whole_fits.exists_cons
  cases hzero : b == 0x30 with
  | true =>
    obtain rfl := beq_iff_eq.mp hzero
    obtain rfl : ds = [] := by
      simpa [hwhole] using n.zero_alone (by rw [hwhole]; rfl)
    have hnext : (tail.head?.map isDigit).getD false = false := by
      cases hhead : tail.head? <;> simp_all
    rw [hwhole, List.cons_append, List.nil_append, unsignedNumber, hnext]
    rfl
  | false =>
    rw [hwhole, List.cons_append, unsignedNumber, hzero, if_neg Bool.false_ne_true, if_pos hb,
      wholeDigits_append hds htail, significand_one]
    rfl

theorem toOption_numberAt (n : Numeral) (h : n.Ends rest) :
    (numberAt (n.bytes ++ rest)).toOption = n.value?.map fun v => (v, rest) := by
  rw [← n.toOption_unsignedNumber h, bytes, List.append_assoc, List.append_assoc,
    List.append_assoc]
  cases hminus : n.minus with
  | true => rfl
  | false =>
    obtain ⟨b, ds, hwhole, hb, -⟩ := n.whole_fits.exists_cons
    have hsign : (b == 0x2D) = false := ne_of_isDigit hb (by decide)
    simp [hwhole, numberAt, hsign]

end Numeral

/-! ## Finding a numeral -/

theorem exists_digits {b : UInt8} (hb : isDigit b = true) (bs : List UInt8) :
    ∃ ds rest, bs = ds ++ rest ∧ AreDigits (b :: ds) ∧ rest.head?.all (!isDigit ·) := by
  refine ⟨bs.takeWhile isDigit, bs.dropWhile isDigit, List.takeWhile_append_dropWhile.symm,
    ⟨by simp, ?_⟩, Text.head?_dropWhile isDigit bs⟩
  exact List.forall_mem_cons.mpr ⟨hb, fun c hc => List.mem_takeWhile_imp hc⟩

theorem digit_of_unsignedExponent {down : Bool} {bs : List UInt8} {y : Number × List UInt8}
    (h : unsignedExponent minus n e down bs = .ok y) : ∃ b ds, bs = b :: ds ∧ isDigit b = true := by
  match bs with
  | [] => cases h
  | b :: ds =>
    rw [unsignedExponent] at h
    split at h
    · next hb => exact ⟨b, ds, rfl, hb⟩
    · cases h

theorem exists_exponent {b : UInt8} {bs : List UInt8} {y : Number × List UInt8}
    (hb : isExponentLetter b = true) (h : exponent minus n e bs = .ok y) :
    ∃ (x : Exponent) (rest : List UInt8), b :: bs = x.bytes ++ rest ∧
      rest.head?.all (!isDigit ·) := by
  have hplain : ∀ (sign : Option UInt8) (down : Bool) (ds : List UInt8),
      (∀ c ∈ sign, c = 0x2B ∨ c = 0x2D) → bs = sign.toList ++ ds →
      unsignedExponent minus n e down ds = .ok y →
      ∃ (x : Exponent) (rest : List UInt8), b :: bs = x.bytes ++ rest ∧
        rest.head?.all (!isDigit ·) := by
    rintro sign down ds hsign rfl hds
    obtain ⟨c, more, rfl, hc⟩ := digit_of_unsignedExponent hds
    obtain ⟨digits, rest, rfl, hdigits, hrest⟩ := exists_digits hc more
    refine ⟨⟨b, sign, c :: digits, hb, hsign, hdigits⟩, rest, ?_, hrest⟩
    rw [Exponent.bytes, List.cons_append, List.append_assoc, List.cons_append]
  match bs with
  | [] => exact hplain none false [] (by simp) rfl h
  | c :: more =>
    rw [exponent] at h
    split at h
    · next hc => exact hplain (some c) false more (by simp [beq_iff_eq.mp hc]) rfl h
    · split at h
      · next hc => exact hplain (some c) true more (by simp [beq_iff_eq.mp hc]) rfl h
      · exact hplain none false (c :: more) (by simp) rfl h

theorem exists_afterFraction {bs : List UInt8} {y : Number × List UInt8}
    (hbs : bs.head?.all (!isDigit ·)) (h : afterFraction minus n e bs = .ok y) :
    ∃ (x : Option Exponent) (rest : List UInt8), bs = Exponent.bytesOf x ++ rest ∧
      rest.head?.all (!isDigit ·) ∧ (rest.head?.any isExponentLetter → x.isSome) := by
  match bs with
  | [] => exact ⟨none, [], rfl, rfl, by simp⟩
  | b :: more =>
    cases hb : isExponentLetter b with
    | true =>
      rw [afterFraction, if_pos hb] at h
      obtain ⟨x, rest, hsplit, hrest⟩ := exists_exponent hb h
      exact ⟨some x, rest, hsplit, hrest, fun _ => rfl⟩
    | false => exact ⟨none, b :: more, rfl, hbs, by simp [hb]⟩

theorem digit_of_fraction {bs : List UInt8} {y : Number × List UInt8}
    (h : fraction minus n e false bs = .ok y) : ∃ b ds, bs = b :: ds ∧ isDigit b = true := by
  match bs with
  | [] => cases h
  | b :: ds =>
    rw [fraction] at h
    split at h
    · next hb => exact ⟨b, ds, rfl, hb⟩
    · cases h

/-- A whole part with something behind it that can be read is the start of a numeral. -/
theorem exists_numeral_of_whole {ds bs : List UInt8} {y : Number × List UInt8}
    (hds : AreDigits ds) (hzero : ds.head? = some 0x30 → ds = [0x30])
    (hbs : bs.head?.all (!isDigit ·)) (start left : Nat)
    (h : afterDigits minus start left bs = .ok y) :
    ∃ (m : Numeral) (rest : List UInt8), m.minus = minus ∧ m.whole = ds ∧
      bs = m.fractionBytes ++ (Exponent.bytesOf m.exponent ++ rest) ∧ m.Ends rest := by
  by_cases hpoint : bs.head? = some 0x2E
  · obtain ⟨more, rfl⟩ : ∃ more, bs = 0x2E :: more := by
      cases bs <;> simp_all
    rw [afterDigits_point] at h
    obtain ⟨b, tail, rfl, hb⟩ := digit_of_fraction h
    obtain ⟨digits, behind, rfl, hdigits, hbehind⟩ := exists_digits hb tail
    rw [← List.cons_append, fraction_append hdigits.2 hbehind (.inr hdigits.1)] at h
    obtain ⟨x, rest, rfl, hrest, hletter⟩ := exists_afterFraction hbehind h
    exact ⟨⟨minus, ds, some (b :: digits), x, hds, hzero, by simpa using hdigits⟩, rest, rfl, rfl,
      rfl, hrest, fun _ => .inl rfl, hletter⟩
  · by_cases hletter : bs.head?.any isExponentLetter
    · obtain ⟨b, more, rfl⟩ : ∃ b more, bs = b :: more := by
        cases bs <;> simp_all
      have hb : isExponentLetter b = true := by simpa using hletter
      rw [afterDigits_letter hb] at h
      obtain ⟨x, rest, hsplit, hrest⟩ := exists_exponent hb h
      exact ⟨⟨minus, ds, none, some x, hds, hzero, by simp⟩, rest, rfl, rfl, hsplit, hrest,
        fun _ => .inr rfl, fun _ => rfl⟩
    · exact ⟨⟨minus, ds, none, none, hds, hzero, by simp⟩, bs, rfl, rfl, rfl, hbs,
        fun h => absurd h hpoint, fun h => absurd h hletter⟩

theorem exists_numeral_unsigned {bs : List UInt8} {y : Number × List UInt8}
    (h : unsignedNumber minus bs = .ok y) :
    ∃ (m : Numeral) (rest : List UInt8), m.minus = minus ∧
      bs = m.whole ++ (m.fractionBytes ++ (Exponent.bytesOf m.exponent ++ rest)) ∧ m.Ends rest := by
  match bs with
  | [] => cases h
  | b :: more =>
    cases hzero : b == 0x30 with
    | true =>
      obtain rfl := beq_iff_eq.mp hzero
      rw [unsignedNumber, if_pos hzero] at h
      split at h
      · cases h
      next hnext =>
      have hmore : more.head?.all (!isDigit ·) := by
        cases hhead : more.head? <;> simp_all
      have hdigits : AreDigits [0x30] := ⟨List.cons_ne_nil _ _, List.forall_mem_singleton.mpr rfl⟩
      obtain ⟨m, rest, hminus, hwhole, hsplit, hends⟩ :=
        exists_numeral_of_whole hdigits (fun _ => rfl) hmore 0 0 h
      exact ⟨m, rest, hminus, by rw [hwhole, hsplit]; rfl, hends⟩
    | false =>
      rw [unsignedNumber, hzero, if_neg Bool.false_ne_true] at h
      split at h
      · next hb =>
        obtain ⟨ds, behind, rfl, hdigits, hbehind⟩ := exists_digits hb more
        have hds : ∀ c ∈ ds, isDigit c = true := (List.forall_mem_cons.mp hdigits.2).2
        have hstart : (b :: ds).head? = some 0x30 → b :: ds = [0x30] := by simp_all
        rw [wholeDigits_append hds hbehind] at h
        obtain ⟨m, rest, hminus, hwhole, rfl, hends⟩ :=
          exists_numeral_of_whole hdigits hstart hbehind _ _ h
        exact ⟨m, rest, hminus, by rw [hwhole, List.cons_append], hends⟩
      · cases h

/-- What is read as a number is a numeral up to where it ends, and the number is its value. -/
theorem numberAt_eq_ok_iff {bs : List UInt8} {x : Number} :
    numberAt bs = .ok (x, rest) ↔
      ∃ m : Numeral, bs = m.bytes ++ rest ∧ m.Ends rest ∧ m.value? = some x := by
  constructor
  · intro h
    obtain ⟨m, more, hsplit, hends⟩ : ∃ (m : Numeral) (more : List UInt8),
        bs = m.bytes ++ more ∧ m.Ends more := by
      match bs with
      | [] => cases h
      | b :: tail =>
        rw [numberAt] at h
        split at h
        · next hb =>
          obtain ⟨m, more, hminus, rfl, hends⟩ := exists_numeral_unsigned h
          refine ⟨m, more, ?_, hends⟩
          simp [Numeral.bytes, hminus, beq_iff_eq.mp hb]
        · obtain ⟨m, more, hminus, hsplit, hends⟩ := exists_numeral_unsigned h
          refine ⟨m, more, ?_, hends⟩
          simp [Numeral.bytes, hminus, hsplit]
    have hvalue := m.toOption_numberAt hends
    rw [← hsplit, h] at hvalue
    obtain ⟨y, hy, heq⟩ := Option.map_eq_some_iff.mp hvalue.symm
    cases heq
    exact ⟨m, hsplit, hends, hy⟩
  · rintro ⟨m, rfl, hends, hvalue⟩
    rw [← toOption_eq_some_iff, m.toOption_numberAt hends, hvalue]
    rfl

end Wayfare.Json
