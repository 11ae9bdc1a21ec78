import Mathlib.Data.List.Forall2
import Wayfare.Json.Shape
import Wayfare.Proofs.Json.Skipping

/-!
Two readers side by side. Where the readers of one part stop at the same place, so do those of lists and
objects of such parts, and what they give goes together part by part.
-/
namespace Wayfare.Json

open Scan

/-! ## Readers side by side -/

section

variable {α β σ τ : Type} {R : α → β → Prop} {r : List UInt8 → Read α} {r' : List UInt8 → Read β}
  {bs rest rest' : List UInt8} {steps steps' index : Nat}

/-- Where both readers succeed they stop at the same place, with results that go together. -/
def Abreast (R : α → β → Prop) (r : List UInt8 → Read α) (r' : List UInt8 → Read β) : Prop :=
  ∀ {bs a rest b rest'}, r bs = .ok (a, rest) → r' bs = .ok (b, rest') → rest = rest' ∧ R a b

theorem abreast_items {as : List α} {bs' : List β} (h : Abreast R r r')
    (ha : Scan.items r steps index bs = .ok (as, rest))
    (hb : Scan.items r' steps' index bs = .ok (bs', rest')) :
    rest = rest' ∧ List.Forall₂ R as bs' := by
  induction steps generalizing steps' index bs as bs' with
  | zero => cases ha
  | succ steps ih =>
    cases steps' with
    | zero => cases hb
    | succ steps' =>
      rw [Scan.items] at ha hb
      cases hnext : nextItem (index == 0) bs with
      | error f =>
        rw [hnext] at ha
        cases ha
      | ok start? =>
        rw [hnext] at ha hb
        cases start? with
        | none =>
          cases ha
          cases hb
          exact ⟨rfl, .nil⟩
        | some start =>
          simp only at ha hb
          split at ha
          · cases ha
          next a more hitem =>
          split at hb
          · cases hb
          next b more' hitem' =>
          obtain ⟨rfl, hab⟩ := h hitem hitem'
          split at ha
          · cases ha
          next as' tail has =>
          split at hb
          · cases hb
          next bs'' tail' hbs =>
          cases ha
          cases hb
          obtain ⟨rfl, hall⟩ := ih has hbs
          exact ⟨rfl, .cons hab hall⟩

theorem abreast_list (h : Abreast R r r') :
    Abreast (List.Forall₂ R) (listAfterBracket r) (listAfterBracket r') := by
  intro bs as rest bs' rest' ha hb
  rw [listAfterBracket] at ha hb
  split at ha
  · cases ha
  next as' tail has =>
  split at hb
  · cases hb
  next bs'' tail' hbs =>
  obtain ⟨rfl, hall⟩ := abreast_items h has hbs
  split at ha
  · cases ha
  next more hend =>
  rw [hend] at hb
  cases ha
  cases hb
  exact ⟨rfl, hall⟩

theorem abreast_fieldValue (h : Abreast R r r') (name : String) :
    Abreast R (fieldValue name r) (fieldValue name r') := by
  intro bs a rest b rest' ha hb
  rw [fieldValue] at ha hb
  split at ha
  · cases ha
  next more hcolon =>
  rw [hcolon] at hb
  simp only at hb
  split at ha
  · cases ha
  next result hvalue =>
  split at hb
  · cases hb
  next result' hvalue' =>
  cases ha
  cases hb
  exact h hvalue hvalue'

/-- Two readers of fields keep abreast from one gathering to the next. -/
def FieldsAbreast (Inv : σ → τ → Prop) (field : σ → String → List UInt8 → Read σ)
    (field' : τ → String → List UInt8 → Read τ) : Prop :=
  ∀ {s t}, Inv s t → ∀ name, Abreast Inv (field s name) (field' t name)

variable {Inv : σ → τ → Prop} {field : σ → String → List UInt8 → Read σ}
  {field' : τ → String → List UInt8 → Read τ}

theorem abreast_members (h : FieldsAbreast Inv field field') {first : Bool} {s s' : σ} {t t' : τ}
    (hinv : Inv s t) (hs : members field steps first s bs = .ok (s', rest))
    (ht : members field' steps' first t bs = .ok (t', rest')) : rest = rest' ∧ Inv s' t' := by
  induction steps generalizing steps' first s t bs with
  | zero => cases hs
  | succ steps ih =>
    cases steps' with
    | zero => cases ht
    | succ steps' =>
      rw [members] at hs ht
      cases hnext : nextKey first bs with
      | error f =>
        rw [hnext] at hs
        cases hs
      | ok start? =>
        rw [hnext] at hs ht
        cases start? with
        | none =>
          cases hs
          cases ht
          exact ⟨rfl, hinv⟩
        | some start =>
          simp only at hs ht
          split at hs
          · cases hs
          next name more hname =>
          rw [hname] at ht
          simp only at ht
          split at hs
          · cases hs
          next s₁ tail hfield =>
          split at ht
          · cases ht
          next t₁ tail' hfield' =>
          obtain ⟨rfl, hinv₁⟩ := h hinv name hfield hfield'
          exact ih hinv₁ hs ht

theorem abreast_object (h : FieldsAbreast Inv field field') {s : σ} {t : τ} (hinv : Inv s t) :
    Abreast Inv (objectAfterBrace field s) (objectAfterBrace field' t) := by
  intro bs s' rest t' rest' hs ht
  rw [objectAfterBrace] at hs ht
  split at hs
  · cases hs
  next s₁ tail hmembers =>
  split at ht
  · cases ht
  next t₁ tail' hmembers' =>
  obtain ⟨rfl, hinv'⟩ := abreast_members h hinv hmembers hmembers'
  split at hs
  · cases hs
  next more hend =>
  rw [hend] at ht
  cases hs
  cases ht
  exact ⟨rfl, hinv'⟩

end

/-! ## Values by their first byte -/

section

variable {bs rest : List UInt8} {v : Json} {depth : Nat}

theorem value_skipSpace (depth : Nat) (bs : List UInt8) :
    value depth (skipSpace bs) = value depth bs := by
  have hskip : skipSpace (skipSpace bs) = skipSpace bs :=
    skipSpace_append spaces_nil (Text.head?_dropWhile isSpace bs)
  rw [value, hskip, ← value]

theorem value_string (h : skipSpace bs = 0x22 :: rest) (depth : Nat) :
    value depth bs = (stringAfterQuote rest).map fun (s, rest) => (.string s, rest) := by
  rw [value, h]
  rfl

theorem value_list (h : skipSpace bs = 0x5B :: rest) (depth : Nat) :
    value (depth + 1) bs =
      (listAfterBracket (value depth) rest).map fun (vs, rest) => (.array vs, rest) := by
  rw [value, h]
  rfl

theorem value_object (h : skipSpace bs = 0x7B :: rest) (depth : Nat) :
    value (depth + 1) bs =
      (objectAfterBrace (setField (value depth)) [] rest).map
        fun (fields, rest) => (.object fields, rest) := by
  rw [value, h]
  rfl

theorem value_word (h : skipSpace bs = 0x6E :: rest) (depth : Nat) :
    value depth bs = (word afterN rest).map fun (_, rest) => (.null, rest) := by
  rw [value, h]
  rfl

theorem head?_of_null (h : value depth bs = .ok (.null, rest)) :
    (skipSpace bs).head? = some 0x6E := by
  obtain ⟨w, t, rfl, hw, ht, -⟩ := (value_agrees depth).sound h
  have hscalar : Scalar t .null := by
    cases depth with
    | zero => exact ht
    | succ depth =>
      rcases ht with ht | ht
      · exact ht
      · cases ht
  cases hscalar
  rw [skipSpace_append hw rfl]
  rfl

end

/-- To pass over a value is to read it and to keep nothing of it. -/
theorem abreast_skip (depth : Nat) :
    Abreast (fun _ _ => True) (fun bs => (skipValue bs).map fun rest => ((), rest)) (value depth) := by
  intro bs u rest v rest' hskip hvalue
  obtain ⟨more, hmore, heq⟩ := exists_of_map_eq_ok hskip
  cases heq
  cases hmore.symm.trans (skipValue_of_read hvalue)
  exact ⟨rfl, trivial⟩

end Wayfare.Json
