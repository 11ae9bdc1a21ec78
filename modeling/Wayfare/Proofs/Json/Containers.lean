import Wayfare.Proofs.Json.Grammar

/-!
Lists and objects in the text of a document. Where the reader of one part agrees with a grammar of
parts, lists and objects are read from exactly the rows of such parts.
-/
namespace Wayfare.Json

open Scan

/-! ## Between the parts of a container -/

variable {bs start text rest tail : List UInt8} {first : Bool}

theorem endList_eq_ok_iff : endList bs = .ok ((), rest) ↔ skipSpace bs = 0x5D :: rest := by
  constructor
  · intro h
    rw [endList] at h
    split at h
    · cases h
    next b more hskip =>
    split at h
    · next hb =>
      cases h
      rw [hskip, beq_iff_eq.mp hb]
    · split at h
      · split at h
        · split at h <;> cases h
        · cases h
      · cases h
  · intro h
    simp [endList, h]

theorem endObject_eq_ok_iff : endObject bs = .ok ((), rest) ↔ skipSpace bs = 0x7D :: rest := by
  constructor
  · intro h
    rw [endObject] at h
    split at h
    · cases h
    next b more hskip =>
    split at h
    · next hb =>
      cases h
      rw [hskip, beq_iff_eq.mp hb]
    · split at h <;> cases h
  · intro h
    simp [endObject, h]

theorem colon_eq_ok_iff : colon bs = .ok ((), rest) ↔ skipSpace bs = 0x3A :: rest := by
  constructor
  · intro h
    rw [colon] at h
    split at h
    · cases h
    next b more hskip =>
    split at h
    · next hb =>
      cases h
      rw [hskip, beq_iff_eq.mp hb]
    · cases h
  · intro h
    simp [colon, h]

theorem nextItem_close (h : skipSpace bs = 0x5D :: rest) : nextItem first bs = .ok none := by
  simp [nextItem, h]

theorem nextKey_close (h : skipSpace bs = 0x7D :: rest) : nextKey first bs = .ok none := by
  simp [nextKey, h]

theorem nextItem_gap {g : List UInt8} {b : UInt8} (hg : Gap first g) (hspace : isSpace b = false)
    (hend : b ≠ 0x5D) (rest : List UInt8) :
    nextItem first (g ++ b :: rest) = .ok (some (b :: rest)) := by
  have hskip : ∀ {w}, Spaces w → skipSpace (w ++ b :: rest) = b :: rest := fun hw =>
    skipSpace_append hw (by simp [hspace])
  cases hg with
  | front hw => simp [nextItem, hskip hw, hend]
  | @comma w w' hw hw' =>
    have hcomma : skipSpace (w ++ 0x2C :: (w' ++ b :: rest)) = 0x2C :: (w' ++ b :: rest) :=
      skipSpace_append hw rfl
    simp [nextItem, hcomma, hskip hw', hend]

theorem gap_of_nextItem (h : nextItem first bs = .ok (some start)) :
    ∃ g, Gap first g ∧ bs = g ++ start := by
  rw [nextItem] at h
  split at h
  · cases h
  next b more hskip =>
  obtain ⟨w, hw, rfl, -⟩ := skipSpace_eq_cons_iff.mp hskip
  split at h
  · cases h
  split at h
  · next hfirst =>
    cases h
    exact ⟨w, hfirst ▸ .front hw, rfl⟩
  next hfirst =>
  obtain rfl : first = false := by simpa using hfirst
  split at h
  · next hcomma =>
    obtain rfl := beq_iff_eq.mp hcomma
    split at h
    · cases h
    next c more' hskip' =>
    obtain ⟨w', hw', rfl, -⟩ := skipSpace_eq_cons_iff.mp hskip'
    split at h
    · cases h
    · cases h
      exact ⟨w ++ 0x2C :: w', .comma hw hw', by simp⟩
  · cases h

theorem nextKey_gap {g : List UInt8} (hg : Gap first g) (rest : List UInt8) :
    nextKey first (g ++ 0x22 :: rest) = .ok (some rest) := by
  have hskip : ∀ {w}, Spaces w → skipSpace (w ++ 0x22 :: rest) = 0x22 :: rest := fun hw =>
    skipSpace_append hw rfl
  cases hg with
  | front hw => simp [nextKey, hskip hw]
  | @comma w w' hw hw' =>
    have hcomma : skipSpace (w ++ 0x2C :: (w' ++ 0x22 :: rest)) = 0x2C :: (w' ++ 0x22 :: rest) :=
      skipSpace_append hw rfl
    simp [nextKey, hcomma, hskip hw']

theorem gap_of_nextKey (h : nextKey first bs = .ok (some start)) :
    ∃ g, Gap first g ∧ bs = g ++ 0x22 :: start := by
  simp only [nextKey] at h
  split at h
  · cases h
  next b more hskip =>
  obtain ⟨w, hw, rfl, -⟩ := skipSpace_eq_cons_iff.mp hskip
  split at h
  · cases h
  split at h
  · next hfirst =>
    split at h
    · next hquote =>
      cases h
      exact ⟨w, hfirst ▸ .front hw, by rw [beq_iff_eq.mp hquote]⟩
    · cases h
  next hfirst =>
  obtain rfl : first = false := by simpa using hfirst
  split at h
  · next hcomma =>
    obtain rfl := beq_iff_eq.mp hcomma
    split at h
    · cases h
    next c more' hskip' =>
    obtain ⟨w', hw', rfl, -⟩ := skipSpace_eq_cons_iff.mp hskip'
    split at h
    · next hquote =>
      cases h
      exact ⟨w ++ 0x2C :: w', .comma hw hw', by rw [beq_iff_eq.mp hquote]; simp⟩
    · split at h <;> cases h
  · cases h

/-! ## Containers -/

/-- A reader reads what the grammar describes: it passes over blanks and then takes a text that ends
there, whose value it gives. No text begins with a blank byte or a closing bracket. -/
structure Agrees (reader : List UInt8 → Read Json) (P : List UInt8 → Json → Prop) : Prop where
  begins : ∀ {t v}, P t v → ∃ b more, t = b :: more ∧ Text.isBlankByte b = false ∧ b ≠ 0x5D
  sound : ∀ {bs v rest}, reader bs = .ok (v, rest) →
    ∃ w t, bs = w ++ (t ++ rest) ∧ Spaces w ∧ P t v ∧ Stops t rest
  complete : ∀ {w t v rest}, Spaces w → P t v → Stops t rest → reader (w ++ (t ++ rest)) = .ok (v, rest)

section

variable {reader : List UInt8 → Read Json} {P : List UInt8 → Json → Prop} {vs : List Json}
  {fields : List (String × Json)} {t : List UInt8} {steps index : Nat}

/-- Steps enough for a text are enough, less one, for a shorter text behind its first part. -/
theorem exists_step_of_length_lt (behind : List UInt8) (h : behind.length < text.length)
    (hsteps : text.length ≤ steps) : ∃ n, steps = n + 1 ∧ behind.length ≤ n :=
  ⟨steps - 1, by omega, by omega⟩

/-- No item goes on with what may stand behind it. -/
theorem Items.stops (h : Items P false text vs) (t rest : List UInt8) : Stops t (text ++ rest) := by
  generalize hfirst : false = first at h
  cases h with
  | close hw =>
    rw [List.append_assoc]
    exact .spaces_append hw rfl t
  | item hg ht h =>
    rw [List.append_assoc]
    exact Gap.stops (hfirst ▸ hg) t _

theorem items_of_read (hread : Agrees reader P) (h : Scan.items reader steps index bs = .ok (vs, tail))
    (htail : skipSpace tail = 0x5D :: rest) :
    ∃ text, bs = text ++ rest ∧ Items P (index == 0) text vs := by
  induction steps generalizing index bs vs with
  | zero => cases h
  | succ steps ih =>
    rw [Scan.items] at h
    split at h
    · cases h
    · cases h
      obtain ⟨w, hw, rfl, -⟩ := skipSpace_eq_cons_iff.mp htail
      exact ⟨w ++ [0x5D], by simp, .close hw⟩
    next start hstart =>
    split at h
    · cases h
    next v more hv =>
    split at h
    · cases h
    next vs' tail' hvs =>
    cases h
    obtain ⟨g, hg, rfl⟩ := gap_of_nextItem hstart
    obtain ⟨w, t, rfl, hw, ht, -⟩ := hread.sound hv
    obtain ⟨text, rfl, htext⟩ := ih hvs
    exact ⟨g ++ w ++ (t ++ text), by simp, .item (hg.append_spaces hw) ht htext⟩

theorem Items.read (hread : Agrees reader P) (h : Items P first text vs) (hfirst : (index == 0) = first)
    (hsteps : text.length ≤ steps) (rest : List UInt8) :
    ∃ tail, Scan.items reader steps index (text ++ rest) = .ok (vs, tail) ∧
      skipSpace tail = 0x5D :: rest := by
  induction h generalizing steps index with
  | @close first w hw =>
    obtain ⟨steps, rfl, -⟩ := exists_step_of_length_lt w (by simp) hsteps
    have hskip : skipSpace (w ++ [0x5D] ++ rest) = 0x5D :: rest := by
      rw [List.append_assoc]
      exact skipSpace_append hw rfl
    exact ⟨_, by simp only [Scan.items, nextItem_close hskip], hskip⟩
  | @item first g t text v vs hg ht h ih =>
    obtain ⟨b, more, rfl, hblank, hend⟩ := hread.begins ht
    obtain ⟨steps, rfl, hlength⟩ := exists_step_of_length_lt text (by
      simp only [List.length_append, List.length_cons]
      omega) hsteps
    obtain ⟨tail, hvs, htail⟩ := ih (show (index + 1 == 0) = false by simp) hlength
    have hv := hread.complete spaces_nil ht (h.stops _ rest)
    have hnext :=
      nextItem_gap hg (not_isSpace_of_not_isBlankByte hblank) hend (more ++ (text ++ rest))
    refine ⟨tail, ?_, htail⟩
    rw [List.nil_append, List.cons_append] at hv
    rw [List.append_assoc, List.append_assoc, List.cons_append, Scan.items, hfirst, hnext]
    simp only [hv, hvs]

theorem list_of_read (hread : Agrees reader P) (h : listAfterBracket reader bs = .ok (vs, rest)) :
    ∃ text, bs = text ++ rest ∧ Items P true text vs := by
  rw [listAfterBracket] at h
  split at h
  · cases h
  next vs' tail hvs =>
  split at h
  · cases h
  next rest' htail =>
  cases h
  exact items_of_read hread hvs (endList_eq_ok_iff.mp htail)

theorem Items.readList (hread : Agrees reader P) (h : Items P true text vs) (rest : List UInt8) :
    listAfterBracket reader (text ++ rest) = .ok (vs, rest) := by
  have hlength : text.length ≤ (text ++ rest).length + 1 := by
    rw [List.length_append]
    omega
  obtain ⟨tail, hvs, htail⟩ := h.read hread (show (0 == 0) = true from rfl) hlength rest
  rw [listAfterBracket, hvs]
  simp only [endList_eq_ok_iff.mpr htail]

theorem Members.stops (h : Members P false text fields) (t rest : List UInt8) :
    Stops t (text ++ rest) := by
  generalize hfirst : false = first at h
  cases h with
  | close hw =>
    rw [List.append_assoc]
    exact .spaces_append hw rfl t
  | member hg hl ht h =>
    rw [List.append_assoc]
    exact Gap.stops (hfirst ▸ hg) t _

/-- The reader of one field that sets it among those before it. -/
def setField (reader : List UInt8 → Read Json) (gathered : Fields Json) (name : String)
    (bs : List UInt8) : Read (Fields Json) :=
  (fieldValue name reader bs).map fun (v, rest) => (Fields.insert name v gathered, rest)

/-- The fields of an object, set one by one. -/
def setAll (gathered : Fields Json) (fields : List (String × Json)) : Fields Json :=
  fields.foldl (fun gathered field => Fields.insert field.1 field.2 gathered) gathered

theorem setAll_nil (fields : List (String × Json)) : setAll [] fields = Fields.ofList fields := rfl

variable {gathered gathered' : Fields Json} {name : String} {v : Json}

theorem setField_of_read (hread : Agrees reader P)
    (h : setField reader gathered name bs = .ok (gathered', rest)) :
    ∃ w w' t v, bs = w ++ 0x3A :: (w' ++ (t ++ rest)) ∧ Spaces w ∧ Spaces w' ∧ P t v ∧
      gathered' = Fields.insert name v gathered := by
  rw [setField, fieldValue] at h
  split at h
  · cases h
  next more hcolon =>
  split at h
  · cases h
  next result hv =>
  cases h
  obtain ⟨w, hw, rfl, -⟩ := skipSpace_eq_cons_iff.mp (colon_eq_ok_iff.mp hcolon)
  obtain ⟨w', t, rfl, hw', ht, -⟩ := hread.sound hv
  exact ⟨w, w', t, _, rfl, hw, hw', ht, rfl⟩

theorem setField_append {w w' : List UInt8} (hread : Agrees reader P) (hw : Spaces w)
    (hw' : Spaces w') (ht : P t v) (hstops : Stops t rest) (gathered : Fields Json)
    (name : String) :
    setField reader gathered name (w ++ 0x3A :: (w' ++ (t ++ rest))) =
      .ok (Fields.insert name v gathered, rest) := by
  have hcolon : colon (w ++ 0x3A :: (w' ++ (t ++ rest))) = .ok ((), w' ++ (t ++ rest)) :=
    colon_eq_ok_iff.mpr (skipSpace_append hw rfl)
  rw [setField, fieldValue, hcolon]
  simp only [hread.complete hw' ht hstops]
  rfl

theorem members_of_read (hread : Agrees reader P)
    (h : members (setField reader) steps first gathered bs = .ok (gathered', tail))
    (htail : skipSpace tail = 0x7D :: rest) :
    ∃ text fields, bs = text ++ rest ∧ Members P first text fields ∧
      gathered' = setAll gathered fields := by
  induction steps generalizing first gathered bs with
  | zero => cases h
  | succ steps ih =>
    rw [members] at h
    split at h
    · cases h
    · cases h
      obtain ⟨w, hw, rfl, -⟩ := skipSpace_eq_cons_iff.mp htail
      exact ⟨w ++ [0x7D], [], by simp, .close hw, rfl⟩
    next start hstart =>
    split at h
    · cases h
    next name more hname =>
    split at h
    · cases h
    next next' more' hfield =>
    obtain ⟨g, hg, rfl⟩ := gap_of_nextKey hstart
    obtain ⟨letters, rfl, hletters⟩ := chars_of_read hname
    obtain ⟨w, w', t, v, rfl, hw, hw', ht, rfl⟩ := setField_of_read hread hfield
    obtain ⟨text, fields, rfl, htext, rfl⟩ := ih h
    exact ⟨_, (name, v) :: fields, by simp, .member hg (.mk hletters hw hw') ht htext, rfl⟩

theorem Members.read (hread : Agrees reader P) (h : Members P first text fields)
    (hsteps : text.length ≤ steps) (gathered : Fields Json) (rest : List UInt8) :
    ∃ tail, members (setField reader) steps first gathered (text ++ rest) =
      .ok (setAll gathered fields, tail) ∧ skipSpace tail = 0x7D :: rest := by
  induction h generalizing steps gathered with
  | @close first w hw =>
    obtain ⟨steps, rfl, -⟩ := exists_step_of_length_lt w (by simp) hsteps
    have hskip : skipSpace (w ++ [0x7D] ++ rest) = 0x7D :: rest := by
      rw [List.append_assoc]
      exact skipSpace_append hw rfl
    exact ⟨_, by simp only [members, nextKey_close hskip]; rfl, hskip⟩
  | @member first g l t text name v fields hg hl ht h ih =>
    obtain ⟨hletters, hw, hw'⟩ := hl
    obtain ⟨steps, rfl, hlength⟩ := exists_step_of_length_lt text (by
      simp only [List.length_append, List.length_cons]
      omega) hsteps
    obtain ⟨tail, hfields, htail⟩ := ih hlength (Fields.insert name v gathered)
    have hfield := setField_append hread hw hw' ht (h.stops t rest) gathered name
    refine ⟨tail, ?_, htail⟩
    simp only [List.append_assoc, List.cons_append, members, nextKey_gap hg, hletters.read, hfield,
      hfields]
    rfl

theorem object_of_read (hread : Agrees reader P)
    (h : objectAfterBrace (setField reader) [] bs = .ok (gathered', rest)) :
    ∃ text fields, bs = text ++ rest ∧ Members P true text fields ∧
      gathered' = Fields.ofList fields := by
  rw [objectAfterBrace] at h
  split at h
  · cases h
  next gathered tail hfields =>
  split at h
  · cases h
  next rest' htail =>
  cases h
  exact members_of_read hread hfields (endObject_eq_ok_iff.mp htail)

theorem Members.readObject (hread : Agrees reader P) (h : Members P true text fields)
    (rest : List UInt8) :
    objectAfterBrace (setField reader) [] (text ++ rest) = .ok (Fields.ofList fields, rest) := by
  have hlength : text.length ≤ (text ++ rest).length + 1 := by
    rw [List.length_append]
    omega
  obtain ⟨tail, hfields, htail⟩ := h.read hread hlength [] rest
  rw [objectAfterBrace, hfields, setAll_nil]
  simp only [endObject_eq_ok_iff.mpr htail]

end

end Wayfare.Json
