import Wayfare.Json.Reader
import Wayfare.Proofs.Json.Numeral
import Wayfare.Proofs.Json.Quotation

/-!
The texts of documents, by the grammar of the JSON standard, and where they end. A text is that of a
value up to some depth; lists and objects are rows of parts with commas between, and blanks may stand
around each token.
-/
namespace Wayfare.Json

open Scan

/-! ## The grammar -/

/-- Nothing but blanks. -/
def Spaces (w : List UInt8) : Prop :=
  ∀ b ∈ w, isSpace b = true

/-- What stands in front of a part of a container: a comma, unless it is the first. -/
inductive Gap : (first : Bool) → List UInt8 → Prop where
  | front {w : List UInt8} (hw : Spaces w) : Gap true w
  | comma {w w' : List UInt8} (hw : Spaces w) (hw' : Spaces w') : Gap false (w ++ 0x2C :: w')

/-- A list behind its opening bracket, or from the end of an item on. -/
inductive Items (P : List UInt8 → Json → Prop) : (first : Bool) → List UInt8 → List Json → Prop where
  | close {first : Bool} {w : List UInt8} (hw : Spaces w) : Items P first (w ++ [0x5D]) []
  | item {first : Bool} {g t text : List UInt8} {v : Json} {vs : List Json} (hg : Gap first g)
      (ht : P t v) (h : Items P false text vs) : Items P first (g ++ (t ++ text)) (v :: vs)

/-- The name of a field and the colon behind it, with the blanks around the colon. -/
inductive Label : List UInt8 → String → Prop where
  | mk {text w w' : List UInt8} {name : String} (hname : Chars text name.toList) (hw : Spaces w)
      (hw' : Spaces w') : Label (0x22 :: (text ++ 0x22 :: (w ++ 0x3A :: w'))) name

/-- An object behind its opening brace, or from the end of a field on, with its fields as they are
written. -/
inductive Members (P : List UInt8 → Json → Prop) :
    (first : Bool) → List UInt8 → List (String × Json) → Prop where
  | close {first : Bool} {w : List UInt8} (hw : Spaces w) : Members P first (w ++ [0x7D]) []
  | member {first : Bool} {g l t text : List UInt8} {name : String} {v : Json}
      {fields : List (String × Json)} (hg : Gap first g) (hl : Label l name) (ht : P t v)
      (h : Members P false text fields) :
      Members P first (g ++ (l ++ (t ++ text))) ((name, v) :: fields)

/-- The texts of values without parts. -/
inductive Scalar : List UInt8 → Json → Prop where
  | nullWord : Scalar (Text.utf8 "null") .null
  | trueWord : Scalar (Text.utf8 "true") (.bool true)
  | falseWord : Scalar (Text.utf8 "false") (.bool false)
  | number {m : Numeral} {x : Number} (hx : m.value? = some x) : Scalar m.bytes (.number x)
  | string {text : List UInt8} {s : String} (hs : Chars text s.toList) :
      Scalar (0x22 :: (text ++ [0x22])) (.string s)

/-- The texts of values with parts. Of two fields with one name the later counts. -/
inductive Container (P : List UInt8 → Json → Prop) : List UInt8 → Json → Prop where
  | array {text : List UInt8} {vs : List Json} (h : Items P true text vs) :
      Container P (0x5B :: text) (.array vs)
  | object {text : List UInt8} {fields : List (String × Json)} (h : Members P true text fields) :
      Container P (0x7B :: text) (.object (Fields.ofList fields))

/-- The texts of values that nest no deeper than `depth`. -/
def Value : (depth : Nat) → List UInt8 → Json → Prop
  | 0 => Scalar
  | depth + 1 => fun text v => Scalar text v ∨ Container (Value depth) text v

/-- The texts that hold one value, with nothing but blanks around it. -/
def Document (text : List UInt8) (v : Json) : Prop :=
  ∃ w t w', text = w ++ (t ++ w') ∧ Spaces w ∧ Value maxDepth t v ∧ Spaces w'

/-! ## Blanks -/

variable {bs w rest t : List UInt8} {v : Json} {first : Bool}

theorem spaces_nil : Spaces [] := by simp [Spaces]

theorem Spaces.append {w' : List UInt8} (hw : Spaces w) (hw' : Spaces w') : Spaces (w ++ w') :=
  List.forall_mem_append.mpr ⟨hw, hw'⟩

theorem skipSpace_append (hw : Spaces w) (hbs : bs.head?.all (!isSpace ·)) :
    skipSpace (w ++ bs) = bs := by
  rw [skipSpace, List.dropWhile_append_of_pos hw]
  cases bs with
  | nil => rfl
  | cons b bs =>
    have hb : isSpace b = false := by simpa using hbs
    rw [List.dropWhile_cons, if_neg (by simp [hb])]

theorem skipSpace_spaces (hw : Spaces w) : skipSpace w = [] := by
  rw [← List.append_nil w]
  exact skipSpace_append hw rfl

theorem exists_skipSpace (bs : List UInt8) : ∃ w, Spaces w ∧ bs = w ++ skipSpace bs :=
  ⟨bs.takeWhile isSpace, fun _ hb => List.mem_takeWhile_imp hb,
    List.takeWhile_append_dropWhile.symm⟩

theorem spaces_of_skipSpace (h : skipSpace bs = []) : Spaces bs := by
  obtain ⟨w, hw, hbs⟩ := exists_skipSpace bs
  rw [hbs, h, List.append_nil]
  exact hw

theorem skipSpace_eq_cons_iff {b : UInt8} :
    skipSpace bs = b :: rest ↔ ∃ w, Spaces w ∧ bs = w ++ b :: rest ∧ isSpace b = false := by
  constructor
  · intro h
    obtain ⟨w, hw, hbs⟩ := exists_skipSpace bs
    have hhead : (skipSpace bs).head?.all (!isSpace ·) := Text.head?_dropWhile isSpace bs
    rw [h] at hbs hhead
    exact ⟨w, hw, hbs, by simpa using hhead⟩
  · rintro ⟨w, hw, rfl, hb⟩
    exact skipSpace_append hw (by simp [hb])

theorem isBlankByte_of_isSpace {b : UInt8} (h : isSpace b = true) : Text.isBlankByte b = true := by
  simp only [isSpace, Bool.or_eq_true, beq_iff_eq] at h
  rcases h with ((rfl | rfl) | rfl) | rfl <;> decide

theorem not_isSpace_of_not_isBlankByte {b : UInt8} (h : Text.isBlankByte b = false) :
    isSpace b = false := by
  rw [Bool.eq_false_iff]
  exact fun hspace => Bool.false_ne_true (h.symm.trans (isBlankByte_of_isSpace hspace))

theorem Gap.append_spaces {g : List UInt8} (hg : Gap first g) (hw : Spaces w) :
    Gap first (g ++ w) := by
  cases hg with
  | front hg => exact .front (hg.append hw)
  | @comma v v' hv hv' =>
    rw [List.append_assoc, List.cons_append]
    exact .comma hv (hv'.append hw)

/-! ## Where a text ends -/

/-- What follows does not go on with the text. Only a number can go on: with a digit, with a fraction
unless it has one or an exponent, or with an exponent unless it has one. -/
def Stops (t rest : List UInt8) : Prop :=
  t.head?.any startsNumber → rest.head?.all (!isDigit ·) ∧
    (rest.head? = some 0x2E → 0x2E ∈ t ∨ t.any isExponentLetter) ∧
    (rest.head?.any isExponentLetter → t.any isExponentLetter)

theorem Stops.of_head (h : rest.head?.all fun b => !isDigit b && b != 0x2E && !isExponentLetter b) :
    Stops t rest := by
  intro _
  cases rest with
  | nil => simp
  | cons b rest =>
    simp only [List.head?_cons, Option.all_some, Bool.and_eq_true, Bool.not_eq_true', bne_iff_ne]
      at h
    simp [h]

theorem Stops.spaces_append (hw : Spaces w)
    (h : rest.head?.all fun b => !isDigit b && b != 0x2E && !isExponentLetter b) (t : List UInt8) :
    Stops t (w ++ rest) := by
  cases w with
  | nil => exact .of_head h
  | cons b w =>
    have hb : isSpace b = true := hw b List.mem_cons_self
    simp only [isSpace, Bool.or_eq_true, beq_iff_eq] at hb
    rcases hb with ((rfl | rfl) | rfl) | rfl <;> exact .of_head rfl

theorem Spaces.stops (hw : Spaces w) (t : List UInt8) : Stops t w := by
  rw [← List.append_nil w]
  exact .spaces_append hw rfl t

theorem Gap.stops {g : List UInt8} (hg : Gap false g) (t rest : List UInt8) :
    Stops t (g ++ rest) := by
  generalize hfirst : false = first at hg
  cases hg with
  | front hw => cases hfirst
  | comma hw hw' =>
    rw [List.append_assoc]
    exact .spaces_append hw rfl t

section

variable {m : Numeral}

theorem head?_bytes (m : Numeral) : m.bytes.head?.any startsNumber := by
  obtain ⟨b, ds, hwhole, hb, -⟩ := m.whole_fits.exists_cons
  cases hminus : m.minus <;> simp [Numeral.bytes, hminus, hwhole, startsNumber, hb]

theorem any_isExponentLetter_bytes (m : Numeral) :
    m.bytes.any isExponentLetter = m.exponent.isSome := by
  have hdigits : ∀ ds : List UInt8, (∀ b ∈ ds, isDigit b = true) →
      ds.any isExponentLetter = false := by
    intro ds hds
    rw [List.any_eq_false]
    intro b hb hletter
    exact Bool.false_ne_true ((not_isDigit_of_letter hletter).symm.trans (hds b hb))
  have hminus : (if m.minus then [0x2D] else []).any isExponentLetter = false := by
    cases m.minus <;> rfl
  have hfraction : m.fractionBytes.any isExponentLetter = false := by
    rw [Numeral.fractionBytes]
    cases hm : m.fraction with
    | none => rfl
    | some ds => simp [not_isExponentLetter_point, hdigits ds (m.fraction_fits ds hm).2]
  have hexponent : (Exponent.bytesOf m.exponent).any isExponentLetter = m.exponent.isSome := by
    cases m.exponent with
    | none => rfl
    | some x => simp [Exponent.bytesOf, Exponent.bytes, x.letter_fits]
  simp only [Numeral.bytes, List.any_append, hminus, hdigits _ m.whole_fits.2, hfraction, hexponent,
    Bool.false_or]

theorem point_notMem_digits {ds : List UInt8} (hds : ∀ b ∈ ds, isDigit b = true) : 0x2E ∉ ds :=
  fun hmem => absurd (hds _ hmem) (by decide)

theorem point_notMem_exponent (x : Exponent) : 0x2E ∉ x.bytes := by
  have hletter : x.letter ≠ 0x2E := by
    intro h
    exact absurd (h ▸ x.letter_fits) (by decide)
  have hsign : 0x2E ∉ x.sign.toList := by
    intro hmem
    rcases x.sign_fits 0x2E (by simpa using hmem) with h | h <;> exact absurd h (by decide)
  simp [Exponent.bytes, hletter.symm, hsign, point_notMem_digits x.digits_fit.2]

theorem point_mem_bytes_iff (m : Numeral) : 0x2E ∈ m.bytes ↔ m.fraction.isSome := by
  have hminus : (0x2E : UInt8) ∉ if m.minus then [0x2D] else [] := by
    cases m.minus <;> decide
  have hexponent : 0x2E ∉ Exponent.bytesOf m.exponent := by
    cases m.exponent with
    | none => exact List.not_mem_nil
    | some x => exact point_notMem_exponent x
  have hfraction : 0x2E ∈ m.fractionBytes ↔ m.fraction.isSome := by
    rw [Numeral.fractionBytes]
    cases m.fraction <;> simp
  simp only [Numeral.bytes, List.mem_append, hminus, point_notMem_digits m.whole_fits.2, hexponent,
    hfraction, false_or, or_false]

theorem stops_bytes_iff : Stops m.bytes rest ↔ m.Ends rest := by
  constructor
  · intro h
    obtain ⟨hdigit, hpoint, hletter⟩ := h (head?_bytes m)
    rw [any_isExponentLetter_bytes] at hpoint hletter
    rw [point_mem_bytes_iff] at hpoint
    exact ⟨hdigit, hpoint, hletter⟩
  · rintro ⟨hdigit, hpoint, hletter⟩ -
    rw [any_isExponentLetter_bytes, point_mem_bytes_iff]
    exact ⟨hdigit, hpoint, hletter⟩

end

end Wayfare.Json
