import Mathlib.Data.List.Basic
import Wayfare.Text.Cut

/-!
Texts cut into pieces and put together again.
-/
namespace Wayfare.Text

variable {sep c : Char} {cs piece : List Char} {pieces : List (List Char)}

theorem cutBy_eq_splitOnP (p : Char → Bool) (cs : List Char) : cutBy p cs = cs.splitOnP p := by
  induction cs with
  | nil => rfl
  | cons c cs ih =>
    rw [cutBy, List.splitOnP_cons_eq_if_modifyHead, ← ih]
    split
    · rfl
    · cases h : cutBy p cs with
      | nil => exact absurd h (cutBy_ne_nil p cs)
      | cons w ws => rfl

theorem intercalate_cut (sep : Char) (cs : List Char) : [sep].intercalate (cut sep cs) = cs := by
  rw [cut, cutBy_eq_splitOnP]
  exact List.intercalate_splitOn sep

theorem cut_intercalate (h : ∀ piece ∈ pieces, sep ∉ piece) (hne : pieces ≠ []) :
    cut sep ([sep].intercalate pieces) = pieces := by
  rw [cut, cutBy_eq_splitOnP]
  exact List.splitOn_intercalate sep h hne

theorem not_mem_of_mem_cut (h : piece ∈ cut sep cs) : sep ∉ piece := by
  induction cs generalizing piece with
  | nil =>
    rw [List.mem_singleton.mp h]
    exact List.not_mem_nil
  | cons c cs ih =>
    rw [cut, cutBy] at h
    split at h
    · rcases List.mem_cons.mp h with rfl | hin
      · exact List.not_mem_nil
      · exact ih hin
    · next hc =>
      have hne : sep ≠ c := by
        rintro rfl
        exact hc (beq_self_eq_true sep)
      split at h
      · rw [List.mem_singleton.mp h]
        simpa using hne
      · next w ws hcut =>
        rw [cut, hcut] at ih
        rcases List.mem_cons.mp h with rfl | hin
        · exact List.not_mem_cons_of_ne_of_not_mem hne (ih List.mem_cons_self)
        · exact ih (List.mem_cons_of_mem _ hin)

theorem mem_intercalate (h : c ∈ [sep].intercalate pieces) :
    c = sep ∨ ∃ piece ∈ pieces, c ∈ piece := by
  induction pieces with
  | nil => simp at h
  | cons first rest ih =>
    cases rest with
    | nil => simpa using Or.inr (a := c = sep) h
    | cons next rest =>
      rw [List.intercalate_cons_cons, List.mem_append, List.mem_append, List.mem_singleton] at h
      rcases h with (hfirst | rfl) | hrest
      · exact .inr ⟨first, List.mem_cons_self, hfirst⟩
      · exact .inl rfl
      · rcases ih hrest with rfl | ⟨piece, hpiece, hin⟩
        · exact .inl rfl
        · exact .inr ⟨piece, List.mem_cons_of_mem _ hpiece, hin⟩

theorem mem_of_mem_piece (h : c ∈ piece) (hpieces : piece ∈ pieces) :
    c ∈ [sep].intercalate pieces := by
  induction pieces with
  | nil => cases hpieces
  | cons first rest ih =>
    cases rest with
    | nil =>
      obtain rfl := List.mem_singleton.mp hpieces
      simpa using h
    | cons next rest =>
      rw [List.intercalate_cons_cons, List.append_assoc, List.mem_append, List.mem_append]
      rcases List.mem_cons.mp hpieces with rfl | hin
      · exact .inl h
      · exact .inr (.inr (ih hin))

theorem mem_of_mem_cut (h : c ∈ piece) (hpiece : piece ∈ cut sep cs) : c ∈ cs := by
  rw [← intercalate_cut sep cs]
  exact mem_of_mem_piece h hpiece

end Wayfare.Text
