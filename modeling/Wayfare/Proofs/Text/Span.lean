import Mathlib.Data.List.TakeWhile
import Wayfare.Text.Blank

/-!
Texts with more text behind them. A text is taken up to a character, and trimmed, as if nothing
followed, where what follows begins with a character that ends it.
-/
namespace Wayfare.Text

variable {α : Type} {p : α → Bool} {cs more : List α}

theorem takeWhile_append_of_head (h : more.head?.all (!p ·)) :
    (cs ++ more).takeWhile p = cs.takeWhile p := by
  induction cs with
  | nil => cases more <;> simp_all
  | cons c cs ih => simp only [List.cons_append, List.takeWhile_cons, ih]

theorem dropWhile_append_of_head (h : more.head?.all (!p ·)) :
    (cs ++ more).dropWhile p = cs.dropWhile p ++ more := by
  induction cs with
  | nil => cases more <;> simp_all
  | cons c cs ih =>
    simp only [List.cons_append, List.dropWhile_cons, ih]
    split <;> rfl

theorem head?_dropWhile (p : α → Bool) (cs : List α) : (cs.dropWhile p).head?.all (!p ·) := by
  induction cs with
  | nil => rfl
  | cons c cs ih =>
    rw [List.dropWhile_cons]
    split
    · exact ih
    · simp_all

theorem takeWhile_append_of_any (h : cs.any p = true) (more : List α) :
    (cs ++ more).takeWhile (!p ·) = cs.takeWhile (!p ·) := by
  induction cs with
  | nil => cases h
  | cons c cs ih =>
    rw [List.cons_append, List.takeWhile_cons, List.takeWhile_cons]
    cases hc : p c with
    | true => rfl
    | false =>
      rw [List.any_cons, hc, Bool.false_or] at h
      simp [ih h]

theorem takeWhile_append_of_not_any (h : cs.any p = false) (more : List α) :
    (cs ++ more).takeWhile (!p ·) = cs ++ more.takeWhile (!p ·) :=
  List.takeWhile_append_of_pos (by simpa using h)

theorem head?_of_not_any (h : cs.any p = false) : cs.head?.all (!p ·) := by
  cases cs with
  | nil => rfl
  | cons c cs => simp_all

theorem isEmpty_dropWhile (p : α → Bool) (cs : List α) :
    (cs.dropWhile (!p ·)).isEmpty = !cs.any p := by
  rw [Bool.eq_iff_iff, List.isEmpty_iff, List.dropWhile_eq_nil_iff]
  simp

/-! ## Both ends -/

variable {p : Char → Bool} {cs front more : List Char}

/-- A text, when something is left of it: what is dropped in front, what is left, and what is dropped
at the end. -/
theorem exists_trimBy (hne : trimBy p cs ≠ []) :
    ∃ front, cs = front ++ (trimBy p cs ++ (cs.reverse.takeWhile p).reverse) ∧
      (∀ c ∈ front, p c = true) ∧ (trimBy p cs).head?.all (!p ·) := by
  let rest := cs.dropWhile p
  let kept := rest.reverse.dropWhile p
  have htrim : trimBy p cs = kept.reverse := rfl
  have hrest : rest = kept.reverse ++ (rest.reverse.takeWhile p).reverse := by
    rw [← List.reverse_append, List.takeWhile_append_dropWhile, List.reverse_reverse]
  have hkept : kept ≠ [] := by simpa [htrim] using hne
  have hend : cs.reverse.takeWhile p = rest.reverse.takeWhile p := by
    have hsplit : cs.reverse = rest.reverse.takeWhile p ++ (kept ++ (cs.takeWhile p).reverse) := by
      rw [← List.append_assoc, List.takeWhile_append_dropWhile, ← List.reverse_append,
        List.takeWhile_append_dropWhile]
    obtain ⟨c, more, hcons⟩ := List.exists_cons_of_ne_nil hkept
    have hc : p c = false := by
      have : kept.head?.all (!p ·) := head?_dropWhile p rest.reverse
      simpa [hcons] using this
    have hhead : (kept ++ (cs.takeWhile p).reverse).takeWhile p = [] := by
      rw [hcons, List.cons_append, List.takeWhile_cons, if_neg (by simp [hc])]
    rw [hsplit, List.takeWhile_append_of_pos fun c hc => List.mem_takeWhile_imp hc, hhead,
      List.append_nil]
  refine ⟨cs.takeWhile p, ?_, fun c hc => List.mem_takeWhile_imp hc, ?_⟩
  · rw [htrim, hend, ← hrest]
    exact List.takeWhile_append_dropWhile.symm
  · have hhead : rest.head?.all (!p ·) := head?_dropWhile p cs
    obtain ⟨c, more, hcons⟩ := List.exists_cons_of_ne_nil (List.reverse_ne_nil_iff.mpr hkept)
    rw [hrest, hcons] at hhead
    rw [htrim, hcons]
    exact hhead

theorem trimBy_cons {c : Char} (h : p c = false) (cs : List Char) :
    trimBy p (c :: cs) = c :: (cs.reverse.dropWhile p).reverse := by
  rw [trimBy, List.dropWhile_cons, if_neg (by simp [h]), List.reverse_cons,
    dropWhile_append_of_head (by simp [h])]
  simp

theorem trimBy_append_of_head (hfront : ∀ c ∈ front, p c = true) (hcs : cs.head?.all (!p ·))
    (hmore : more.head?.all (!p ·)) (hne : more ≠ []) :
    trimBy p (front ++ cs ++ more) = cs ++ trimBy p more := by
  obtain ⟨c, rest, rfl⟩ := List.exists_cons_of_ne_nil hne
  have hc : p c = false := by simpa using hmore
  have hhead : (cs ++ c :: rest).dropWhile p = cs ++ c :: rest := by
    cases cs with
    | nil => rw [List.nil_append, List.dropWhile_cons, if_neg (by simp [hc])]
    | cons d ds =>
      have hd : p d = false := by simpa using hcs
      rw [List.cons_append, List.dropWhile_cons, if_neg (by simp [hd])]
  have hlast : ((rest.reverse ++ [c] ++ cs.reverse).dropWhile p).reverse =
      cs ++ ((rest.reverse ++ [c]).dropWhile p).reverse := by
    rw [List.append_assoc, List.singleton_append, dropWhile_append_of_head (by simp [hc]),
      dropWhile_append_of_head (by simp [hc])]
    simp
  rw [trimBy, List.append_assoc, List.dropWhile_append_of_pos hfront, hhead, trimBy,
    List.dropWhile_cons, if_neg (by simp [hc]), List.reverse_append, List.reverse_cons, hlast]

end Wayfare.Text
