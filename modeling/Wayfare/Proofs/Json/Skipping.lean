import Wayfare.Json.Skip
import Wayfare.Proofs.Json.Reading

/-!
Passing over a value. Every text of a value is passed over up to where it ends, so that what follows
is read from the same place, whether the value is kept or not.
-/
namespace Wayfare.Json

open Scan

variable {bs rest w t text : List UInt8} {v : Json} {first : Bool}

/-! ## Strings -/

theorem skipString_plain {b : UInt8} (hb : isPlain b = true) (rest : List UInt8) :
    skipString (b :: rest) = skipString rest := by
  simp only [isPlain, Bool.and_eq_true, bne_iff_ne, decide_eq_true_eq] at hb
  obtain ⟨⟨hquote, hslash⟩, hcontrol⟩ := hb
  rw [skipString.eq_def]
  simp [hquote, hslash, UInt8.not_lt.mpr hcontrol]

theorem skipString_short {b : UInt8} {c : Char} (h : (b, c) ∈ shortEscapes) (rest : List UInt8) :
    skipString (0x5C :: b :: rest) = skipString rest := by
  obtain ⟨e, he, -⟩ := shortEscape?_of_mem h
  rw [skipString.eq_def]
  simp [he]

theorem skipString_quad {q : List UInt8} {n : Nat} (hq : Quad q n) (rest : List UInt8) :
    skipString (0x5C :: 0x75 :: (q ++ rest)) = skipString rest := by
  obtain ⟨ha, hb, hc, hd⟩ := hq
  rw [skipString.eq_def]
  simp [shortEscape?_eq_none_of_unicode, ha, hb, hc, hd]

theorem Escaped.skip {c : Char} (h : Escaped t c) (rest : List UInt8) :
    skipString (0x5C :: (t ++ rest)) = skipString rest := by
  cases h with
  | short h => exact skipString_short h rest
  | unit hq hn => exact skipString_quad hq rest
  | pair hq hn hr hm =>
    rw [List.cons_append, List.append_assoc, skipString_quad hq]
    exact skipString_quad hr rest

theorem Spelled.skip {bytes : List UInt8} (h : Spelled text bytes) (rest : List UInt8) :
    skipString (text ++ 0x22 :: rest) = .ok rest := by
  induction h with
  | nil => exact skipString_quote rest
  | plain hb h ih => rw [List.cons_append, skipString_plain hb, ih]
  | escape hc h ih => rw [List.cons_append, List.append_assoc, hc.skip, ih]

/-! ## Numbers -/

theorem dropWhile_digits {ds : List UInt8} (hds : ∀ b ∈ ds, isDigit b = true)
    (hrest : rest.head?.all (!isDigit ·)) : (ds ++ rest).dropWhile isDigit = rest := by
  rw [Text.dropWhile_append_of_head hrest, List.dropWhile_eq_nil_iff.mpr hds, List.nil_append]

theorem Exponent.skip (x : Exponent) (hrest : rest.head?.all (!isDigit ·)) :
    skipExponent (x.sign.toList ++ x.digits ++ rest) = .ok rest := by
  obtain ⟨letter, sign, digits, -, hsign, hdigits⟩ := x
  obtain ⟨b, ds, rfl, hb, hds⟩ := hdigits.exists_cons
  cases sign with
  | none =>
    have hplus : b ≠ 0x2B := beq_eq_false_iff_ne.mp (ne_of_isDigit hb (by decide))
    have hminus : b ≠ 0x2D := beq_eq_false_iff_ne.mp (ne_of_isDigit hb (by decide))
    simp [skipExponent, hplus, hminus, hb, dropWhile_digits hds hrest]
  | some c =>
    have hc : c = 0x2B ∨ c = 0x2D := hsign c rfl
    simp [skipExponent, hc, hb, dropWhile_digits hds hrest]

theorem skipAfterDigits_point {ds : List UInt8} (hds : AreDigits ds)
    (hrest : rest.head?.all (!isDigit ·)) :
    skipAfterDigits true (0x2E :: (ds ++ rest)) =
      if rest.head?.any isExponentLetter then skipExponent rest.tail else .ok rest := by
  obtain ⟨b, ds, rfl, hb, hds⟩ := hds.exists_cons
  simp only [skipAfterDigits, List.cons_append, Bool.true_and, beq_self_eq_true, if_true, hb,
    dropWhile_digits hds hrest]
  cases rest <;> rfl

namespace Numeral

theorem skipAfterDigits (m : Numeral) (h : m.Ends rest) :
    Scan.skipAfterDigits true (m.fractionBytes ++ (Exponent.bytesOf m.exponent ++ rest)) =
      .ok rest := by
  have hpart := m.head?_exponentBytes h
  rw [fractionBytes]
  cases hfraction : m.fraction with
  | none =>
    cases hexponent : m.exponent with
    | none =>
      -- what follows begins neither a fraction nor an exponent
      cases rest with
      | nil => rfl
      | cons b rest =>
        have hpoint : b ≠ 0x2E := by
          rintro rfl
          simpa [hfraction, hexponent] using h.point rfl
        have hletter : isExponentLetter b = false := by simpa [hexponent] using h.letter
        simp [Exponent.bytesOf, Scan.skipAfterDigits, hpoint, hletter]
    | some x =>
      simp only [Exponent.bytesOf, Exponent.bytes, List.nil_append, List.cons_append]
      rw [skipAfterDigits_letter x.letter_fits, x.skip h.digit]
  | some ds =>
    rw [List.cons_append, skipAfterDigits_point (m.fraction_fits ds hfraction) hpart]
    cases hexponent : m.exponent with
    | none =>
      rw [Exponent.bytesOf, List.nil_append, if_neg fun hletter => by
        simpa [hexponent] using h.letter hletter]
    | some x =>
      simp only [Exponent.bytesOf, Exponent.bytes, List.cons_append, List.head?_cons, Option.any_some,
        x.letter_fits, if_true, List.tail_cons]
      exact x.skip h.digit

theorem skip (m : Numeral) (h : m.Ends rest) :
    skipUnsigned (m.whole ++ (m.fractionBytes ++ (Exponent.bytesOf m.exponent ++ rest))) =
      .ok rest := by
  have hpart := m.head?_fractionBytes h
  rw [← m.skipAfterDigits h]
  generalize m.fractionBytes ++ (Exponent.bytesOf m.exponent ++ rest) = tail at hpart
  obtain ⟨b, ds, hwhole, hb, hds⟩ := m.whole_fits.exists_cons
  by_cases hzero : b = 0x30
  · subst hzero
    obtain rfl : ds = [] := by simpa [hwhole] using m.zero_alone (by rw [hwhole]; rfl)
    have hnext : (tail.head?.map isDigit).getD false = false := by
      cases hhead : tail.head? <;> simp_all
    rw [hwhole, List.cons_append, List.nil_append, skipUnsigned, hnext]
    rfl
  · rw [hwhole, List.cons_append, skipUnsigned, if_neg (by simpa using hzero), if_pos hb,
      dropWhile_digits hds hpart]

end Numeral

/-! ## Values -/

theorem skipSpace_cons {b : UInt8} (hw : Spaces w) (hb : isSpace b = false) (rest : List UInt8) :
    skipSpace (w ++ b :: rest) = b :: rest :=
  skipSpace_append hw (by simp [hb])

/-- Where passing over has come: what is expected, in which open containers, and what follows. -/
structure Place where
  expect : Expect
  frames : List Frame
  bytes : List UInt8

def Place.skip (steps : Nat) (p : Place) : Except Fault (List UInt8) :=
  skipOpen steps p.expect p.frames p.bytes

/-- From one place to another in at most `cost` steps, whatever steps are left then. -/
def Leads (cost : Nat) (p q : Place) : Prop :=
  ∃ n ≤ cost, ∀ steps, p.skip (steps + n) = q.skip steps

theorem Leads.trans {p q r : Place} {m n : Nat} (h : Leads m p q) (h' : Leads n q r) :
    Leads (m + n) p r := by
  obtain ⟨i, hi, hpq⟩ := h
  obtain ⟨j, hj, hqr⟩ := h'
  refine ⟨j + i, by omega, fun steps => ?_⟩
  rw [← Nat.add_assoc, hpq, hqr]

theorem Leads.le {p q : Place} {m n : Nat} (h : Leads m p q) (hle : m ≤ n) : Leads n p q := by
  obtain ⟨i, hi, hpq⟩ := h
  exact ⟨i, by omega, hpq⟩

theorem Leads.one {p q : Place} (h : ∀ steps, p.skip (steps + 1) = q.skip steps) : Leads 1 p q :=
  ⟨1, Nat.le_refl 1, h⟩

/-- What is expected at the start of a part of a container, or at the end of the container. -/
def partExpected (first : Bool) : Expect :=
  if first then .firstPart else .nextPart

/-- A text that is passed over where a value is expected, up to where it ends. -/
def Skipped (t : List UInt8) : Prop :=
  ∀ {w rest : List UInt8} (frames : List Frame), Spaces w → Stops t rest →
    Leads (2 * t.length - 1) ⟨.value, frames, w ++ (t ++ rest)⟩ ⟨.nextPart, frames, rest⟩

theorem Scalar.skip (h : Scalar t v) : Skipped t := by
  intro w rest frames hw hstops
  obtain ⟨b, more, hcons, hblank, -⟩ := h.begins
  have hskip : skipSpace (w ++ (t ++ rest)) = t ++ rest :=
    skipSpace_append hw (by simp [hcons, not_isSpace_of_not_isBlankByte hblank])
  have hlength : 1 ≤ 2 * t.length - 1 := by
    rw [hcons, List.length_cons]
    omega
  refine (Leads.one fun steps => ?_).le hlength
  simp only [Place.skip]
  cases h with
  | nullWord =>
    rw [skipOpen, hskip, show Text.utf8 "null" ++ rest = 0x6E :: (afterN ++ rest) from rfl]
    simp [word_append, Except.map]
  | trueWord =>
    rw [skipOpen, hskip, show Text.utf8 "true" ++ rest = 0x74 :: (afterT ++ rest) from rfl]
    simp [word_append, Except.map]
  | falseWord =>
    rw [skipOpen, hskip, show Text.utf8 "false" ++ rest = 0x66 :: (afterF ++ rest) from rfl]
    simp [word_append, Except.map]
  | string hs =>
    have hdigit : isDigit 0x22 = false := rfl
    rw [skipOpen, hskip]
    simp [hdigit, hs.spelled.skip]
  | @number m x hx =>
    have hnumber := m.skip (stops_bytes_iff.mp hstops)
    cases hminus : m.minus with
    | true =>
      have hbytes : m.bytes ++ rest =
          0x2D :: (m.whole ++ (m.fractionBytes ++ (Exponent.bytesOf m.exponent ++ rest))) := by
        simp [Numeral.bytes, hminus]
      rw [skipOpen, hskip, hbytes]
      simp [hnumber]
    | false =>
      obtain ⟨c, ds, hwhole, hc, -⟩ := m.whole_fits.exists_cons
      have hbytes : m.bytes ++ rest =
          m.whole ++ (m.fractionBytes ++ (Exponent.bytesOf m.exponent ++ rest)) := by
        simp [Numeral.bytes, hminus]
      have hne : ∀ d : UInt8, isDigit d = false → c ≠ d := fun d hd =>
        beq_eq_false_iff_ne.mp (ne_of_isDigit hc hd)
      rw [skipOpen, hskip, hbytes]
      rw [hwhole, List.cons_append] at hnumber ⊢
      simp [hne 0x6E rfl, hne 0x74 rfl, hne 0x66 rfl, hne 0x2D rfl, hc, hnumber]

/-! ## Containers -/

section

variable {frame : Frame} {P : List UInt8 → Json → Prop}

theorem leads_close (hw : Spaces w) (frame : Frame) (outer : List Frame) (rest : List UInt8) :
    Leads 1 ⟨partExpected first, frame :: outer, w ++ frame.closing :: rest⟩
      ⟨.nextPart, outer, rest⟩ := by
  have hspace : isSpace frame.closing = false := by cases frame <;> decide
  have hcomma : frame.closing ≠ 0x2C := by cases frame <;> decide
  have hskip := skipSpace_cons hw hspace rest
  refine .one fun steps => ?_
  cases first <;> simp [Place.skip, partExpected, skipOpen, hskip, hcomma]

/-- A part of a container is led up to by what stands between it and the part in front of it. -/
theorem leads_part {b : UInt8} {g more after : List UInt8} (hg : Gap first g)
    (hspace : isSpace b = false) (hend : b ≠ frame.closing)
    (hname : ∀ {w}, Spaces w →
      ∃ w', Spaces w' ∧ skipName frame (w ++ b :: more) = .ok (w' ++ after))
    (outer : List Frame) :
    ∃ w', Spaces w' ∧
      Leads 1 ⟨partExpected first, frame :: outer, g ++ b :: more⟩
        ⟨.value, frame :: outer, w' ++ after⟩ := by
  cases hg with
  | front hw =>
    obtain ⟨w', hw', hstart⟩ := hname spaces_nil
    have hskip := skipSpace_cons hw hspace more
    rw [List.nil_append] at hstart
    refine ⟨w', hw', .one fun steps => ?_⟩
    simp [Place.skip, partExpected, skipOpen, hskip, hend, hstart]
  | @comma v v' hv hv' =>
    obtain ⟨w', hw', hstart⟩ := hname hv'
    have hskip := skipSpace_cons (b := 0x2C) hv rfl (v' ++ b :: more)
    refine ⟨w', hw', .one fun steps => ?_⟩
    simp [Place.skip, partExpected, skipOpen, hskip, hstart]

theorem skipName_label {l : List UInt8} {name : String} (hl : Label l name) (hw : Spaces w)
    (rest : List UInt8) :
    ∃ w', Spaces w' ∧ skipName .object (w ++ (l ++ rest)) = .ok (w' ++ rest) := by
  obtain @⟨text, u, u', _, hletters, hu, hu'⟩ := hl
  have hquote :=
    skipSpace_cons (b := 0x22) hw rfl (text ++ 0x22 :: (u ++ 0x3A :: (u' ++ rest)))
  have hcolon := skipSpace_cons (b := 0x3A) hu rfl (u' ++ rest)
  refine ⟨u', hu', ?_⟩
  simp [skipName, hquote, hletters.spelled.skip, hcolon]

theorem Items.skip {vs : List Json}
    (hbegins : ∀ {t v}, P t v → ∃ b more, t = b :: more ∧ Text.isBlankByte b = false ∧ b ≠ 0x5D)
    (hP : ∀ {t v}, P t v → Skipped t) (h : Items P first text vs) (outer : List Frame)
    (rest : List UInt8) :
    Leads (2 * text.length) ⟨partExpected first, .list :: outer, text ++ rest⟩
      ⟨.nextPart, outer, rest⟩ := by
  induction h with
  | @close first w hw =>
    rw [List.append_assoc]
    refine (leads_close hw .list outer rest).le ?_
    simp only [List.length_append, List.length_singleton]
    omega
  | @item first g t text v vs hg ht h ih =>
    have hvalue : Skipped t := hP ht
    have hstops := h.stops t rest
    obtain ⟨b, more, rfl, hblank, hend⟩ := hbegins ht
    have hname : ∀ {w}, Spaces w → ∃ w', Spaces w' ∧
        skipName .list (w ++ b :: (more ++ (text ++ rest))) =
          .ok (w' ++ b :: (more ++ (text ++ rest))) :=
      fun hw => ⟨_, hw, rfl⟩
    have hclosing : b ≠ Frame.closing .list := hend
    obtain ⟨w', hw', hstart⟩ :=
      leads_part hg (not_isSpace_of_not_isBlankByte hblank) hclosing hname outer
    have hall := (hstart.trans (hvalue (.list :: outer) hw' hstops)).trans ih
    simp only [List.append_assoc, List.cons_append] at hall ⊢
    refine hall.le ?_
    simp only [List.length_append, List.length_cons]
    omega

theorem Members.skip {fields : List (String × Json)} (hP : ∀ {t v}, P t v → Skipped t)
    (h : Members P first text fields) (outer : List Frame) (rest : List UInt8) :
    Leads (2 * text.length) ⟨partExpected first, .object :: outer, text ++ rest⟩
      ⟨.nextPart, outer, rest⟩ := by
  induction h with
  | @close first w hw =>
    rw [List.append_assoc]
    refine (leads_close hw .object outer rest).le ?_
    simp only [List.length_append, List.length_singleton]
    omega
  | @member first g l t text name v fields hg hl ht h ih =>
    obtain ⟨more, rfl⟩ : ∃ more, l = 0x22 :: more := by
      cases hl
      exact ⟨_, rfl⟩
    have hname : ∀ {w}, Spaces w → ∃ w', Spaces w' ∧
        skipName .object (w ++ 0x22 :: (more ++ (t ++ (text ++ rest)))) =
          .ok (w' ++ (t ++ (text ++ rest))) :=
      fun hw => skipName_label hl hw _
    have hclosing : (0x22 : UInt8) ≠ Frame.closing .object := by decide
    obtain ⟨w', hw', hstart⟩ := leads_part hg rfl hclosing hname outer
    have hall := (hstart.trans (hP ht (.object :: outer) hw' (h.stops t rest))).trans ih
    simp only [List.append_assoc, List.cons_append] at hall ⊢
    refine hall.le ?_
    simp only [List.length_append, List.length_cons]
    omega

end

theorem leads_open {frame : Frame} {b : UInt8}
    (hb : b = 0x5B ∧ frame = .list ∨ b = 0x7B ∧ frame = .object) (hw : Spaces w)
    (outer : List Frame) (rest : List UInt8) :
    Leads 1 ⟨.value, outer, w ++ b :: rest⟩ ⟨.firstPart, frame :: outer, rest⟩ := by
  refine .one fun steps => ?_
  rcases hb with ⟨rfl, rfl⟩ | ⟨rfl, rfl⟩
  · have hskip := skipSpace_cons (b := 0x5B) hw rfl rest
    simp [Place.skip, skipOpen, hskip, isDigit]
  · have hskip := skipSpace_cons (b := 0x7B) hw rfl rest
    simp [Place.skip, skipOpen, hskip, isDigit]

theorem value_skipped {depth : Nat} (h : Value depth t v) : Skipped t := by
  induction depth generalizing t v with
  | zero => exact Scalar.skip h
  | succ depth ih =>
    rcases h with h | h
    · exact h.skip
    · intro w rest frames hw hstops
      cases h with
      | @array text vs h =>
        have hinside := h.skip value_begins ih frames rest
        have hall := (leads_open (.inl ⟨rfl, rfl⟩) hw frames (text ++ rest)).trans hinside
        exact hall.le (by simp only [List.length_cons]; omega)
      | @object text fields h =>
        have hinside := h.skip ih frames rest
        have hall := (leads_open (.inr ⟨rfl, rfl⟩) hw frames (text ++ rest)).trans hinside
        exact hall.le (by simp only [List.length_cons]; omega)

/-- What can be read as a value can be passed over, and leaves the same behind it. -/
theorem skipValue_of_read {depth : Nat} (h : value depth bs = .ok (v, rest)) :
    skipValue bs = .ok rest := by
  obtain ⟨w, t, rfl, hw, ht, hstops⟩ := (value_agrees depth).sound h
  obtain ⟨n, hn, hleads⟩ := value_skipped ht [] hw hstops
  obtain ⟨steps, hsteps⟩ : ∃ steps, 2 * (w ++ (t ++ rest)).length + 2 = steps + 1 + n := by
    refine ⟨2 * (w ++ (t ++ rest)).length + 1 - n, ?_⟩
    simp only [List.length_append]
    omega
  rw [skipValue, hsteps]
  exact (hleads (steps + 1)).trans (skipOpen_done steps rest)

end Wayfare.Json
