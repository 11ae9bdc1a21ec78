/-!
Texts cut into pieces at separators.
-/
namespace Wayfare.Text

/-- The pieces of a text between the characters that match; there is always a first one. -/
def cutBy (p : Char → Bool) : List Char → List (List Char)
  | [] => [[]]
  | c :: cs =>
    if p c then [] :: cutBy p cs
    else match cutBy p cs with
      | [] => [[c]]
      | w :: ws => (c :: w) :: ws

/-- The pieces of a text between separators. -/
def cut (sep : Char) (cs : List Char) : List (List Char) :=
  cutBy (· == sep) cs

/-- The words of a text, on one line or on several. -/
def words (cs : List Char) : List (List Char) :=
  (cutBy (fun c => c == ' ' || c == '\n') cs).filter (!·.isEmpty)

theorem cutBy_ne_nil (p : Char → Bool) (cs : List Char) : cutBy p cs ≠ [] := by
  cases cs with
  | nil => simp [cutBy]
  | cons c cs =>
    rw [cutBy]
    split
    · simp
    · split <;> simp

theorem forall_bne_of_not_mem {sep : Char} {cs : List Char} (h : sep ∉ cs) :
    ∀ c ∈ cs, (c != sep) = true := by
  intro c hc
  rw [bne_iff_ne]
  rintro rfl
  exact h hc

theorem cutBy_append {p : Char → Bool} {sep : Char} (h : p sep = true) (front behind : List Char) :
    cutBy p (front ++ sep :: behind) = cutBy p front ++ cutBy p behind := by
  induction front with
  | nil => simp [cutBy, h]
  | cons c front ih =>
    simp only [List.cons_append, cutBy]
    rw [ih]
    split
    · rfl
    · cases hcut : cutBy p front with
      | nil => exact absurd hcut (cutBy_ne_nil p front)
      | cons w ws => rfl

theorem cutBy_of_forall_not {p : Char → Bool} {cs : List Char} (h : ∀ c ∈ cs, p c = false) :
    cutBy p cs = [cs] := by
  induction cs with
  | nil => rfl
  | cons c cs ih => simp_all [cutBy]

end Wayfare.Text
