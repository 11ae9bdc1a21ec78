import Wayfare.Proofs.Text.Utf8
import Wayfare.Url.Percent

/-!
Escaped text: it holds nothing of what is escaped, and text that holds nothing of it stays as it is.
-/
namespace Wayfare.Url

variable {set : EscapeSet}

/-- The characters that stand for an escaped byte. -/
def isEscapeChar (c : Char) : Bool :=
  c == '%' || ('0' ≤ c && c ≤ '9') || ('A' ≤ c && c ≤ 'F')

theorem isEscapeChar_hexDigitUpper : ∀ n < 16, isEscapeChar (Text.hexDigitUpper n) = true := by
  decide

theorem lt_of_isEscapeChar {c : Char} (h : isEscapeChar c = true) : c.toNat < 0x80 := by
  simp only [isEscapeChar, Bool.or_eq_true, Bool.and_eq_true, beq_iff_eq, decide_eq_true_eq] at h
  rcases h with (rfl | ⟨-, hle⟩) | ⟨-, hle⟩
  · decide
  · exact Nat.lt_of_le_of_lt (UInt32.le_iff_toNat_le.mp hle) (by decide)
  · exact Nat.lt_of_le_of_lt (UInt32.le_iff_toNat_le.mp hle) (by decide)

theorem isEscapeChar_escapeByte (b : UInt8) : ∀ c ∈ escapeByte b, isEscapeChar c = true := by
  have hhigh : b.toNat / 16 < 16 := Nat.div_lt_of_lt_mul b.toNat_lt
  have hlow : b.toNat % 16 < 16 := Nat.mod_lt _ (by decide)
  simp only [escapeByte, List.forall_mem_cons, List.not_mem_nil, false_imp_iff, implies_true,
    and_true]
  exact ⟨rfl, isEscapeChar_hexDigitUpper _ hhigh, isEscapeChar_hexDigitUpper _ hlow⟩

/-- Escaped text is ASCII, of escapes and of what is not escaped. -/
theorem mem_escape {cs : List Char} {c : Char} (h : c ∈ escape set cs) :
    c.toNat < 0x80 ∧ (isEscapeChar c || !set c) = true := by
  obtain ⟨d, -, hd⟩ := List.mem_flatMap.mp h
  rw [escapeChar] at hd
  split at hd
  · next hplain =>
    obtain rfl := List.mem_singleton.mp hd
    rw [Bool.and_eq_true, decide_eq_true_eq] at hplain
    exact ⟨hplain.1, by rw [hplain.2, Bool.or_true]⟩
  · obtain ⟨b, -, hb⟩ := List.mem_flatMap.mp hd
    have hescape := isEscapeChar_escapeByte b c hb
    exact ⟨lt_of_isEscapeChar hescape, by rw [hescape, Bool.true_or]⟩

/-- A fact about escaped text, decided for each ASCII character. -/
theorem forall_mem_escape {p : Char → Prop}
    (h : ∀ n < 0x80, (isEscapeChar (Char.ofNat n) || !set (Char.ofNat n)) = true → p (Char.ofNat n))
    (cs : List Char) : ∀ c ∈ escape set cs, p c := by
  intro c hc
  obtain ⟨hlow, hclass⟩ := mem_escape hc
  exact Text.ascii_forall (p := fun c => (isEscapeChar c || !set c) = true → p c) h hlow hclass

theorem escape_append (cs more : List Char) :
    escape set (cs ++ more) = escape set cs ++ escape set more :=
  List.flatMap_append

theorem escape_of_forall {cs : List Char} (h : ∀ c ∈ cs, c.toNat < 0x80 ∧ set c = false) :
    escape set cs = cs := by
  induction cs with
  | nil => rfl
  | cons c cs ih =>
    obtain ⟨hlow, hnot⟩ := h c List.mem_cons_self
    rw [escape, List.flatMap_cons, ← escape, ih fun d hd => h d (List.mem_cons_of_mem _ hd),
      escapeChar, hnot]
    simp [hlow]

end Wayfare.Url
