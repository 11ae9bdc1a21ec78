import Wayfare.Proofs.Url.Ipv4
import Wayfare.Text.Quoted

/-!
Quoted text tells which text is quoted: between the quotes it can be read back, character by character.
-/
namespace Wayfare.Text

/-- The character that a mark behind a backslash stands for. -/
def unescape (mark : Char) : Char :=
  if mark == 'n' then '\n'
  else if mark == 't' then '\t'
  else if mark == 'r' then '\r'
  else if mark == '0' then Char.ofNat 0
  else mark

/-- The first character of what stands between quotes, and what is written behind it. -/
def readQuoted : List Char → Option (Char × List Char)
  | [] => none
  | '\\' :: 'u' :: rest =>
    some (Char.ofNat (Url.digitsValue 16 (rest.tail.takeWhile (· != '\x7d'))),
      (rest.tail.dropWhile (· != '\x7d')).tail)
  | '\\' :: mark :: rest => some (unescape mark, rest)
  | c :: rest => some (c, rest)

theorem ne_brace_of_mem_digits {n : Nat} {c : Char} (h : c ∈ Nat.toDigits 16 n) :
    (c != '\x7d') = true := by
  have hdigit : ∀ d < 16, (d.digitChar != '\x7d') = true := by decide
  obtain ⟨d, hd, rfl⟩ := Url.digit_of_mem_toDigits (by decide) n h
  exact hdigit d hd

theorem readQuoted_number (c : Char) (rest : List Char) :
    readQuoted (['\\', 'u', '\x7b'] ++ Nat.toDigits 16 c.toNat ++ ['\x7d'] ++ rest) =
      some (c, rest) := by
  have hvalue : Url.digitsValue 16 (Nat.toDigits 16 c.toNat) = c.toNat :=
    Url.digitsValue_toDigits (by decide) (by decide) c.toNat
  simp only [List.append_assoc, List.cons_append, List.nil_append, readQuoted, List.tail_cons,
    List.takeWhile_append_of_pos fun _ => ne_brace_of_mem_digits,
    List.dropWhile_append_of_pos fun _ => ne_brace_of_mem_digits,
    List.takeWhile_cons, List.dropWhile_cons, bne_self_eq_false, Bool.false_eq_true, if_false,
    List.append_nil, hvalue, Char.ofNat_toNat]

theorem readQuoted_quoteChar (c : Char) (rest : List Char) :
    readQuoted (quoteChar c ++ rest) = some (c, rest) := by
  unfold quoteChar
  split
  · next h => rw [eq_of_beq h]; rfl
  split
  · next h => rw [eq_of_beq h]; rfl
  split
  · next h => rw [eq_of_beq h]; rfl
  split
  · next h => rw [eq_of_beq h]; rfl
  split
  · next h => rw [eq_of_beq h]; rfl
  split
  · next h =>
    have hc : c = Char.ofNat 0 := by rw [← eq_of_beq h, Char.ofNat_toNat]
    rw [hc]
    rfl
  split
  · next hslash _ _ _ _ _ =>
    have hc : c ≠ '\\' := by simpa using hslash
    simp [readQuoted, hc]
  · exact readQuoted_number c rest

theorem flatMap_quoteChar_inj {cs ds : List Char}
    (h : cs.flatMap quoteChar = ds.flatMap quoteChar) : cs = ds := by
  induction cs generalizing ds with
  | nil =>
    cases ds with
    | nil => rfl
    | cons d ds =>
      have hread := congrArg readQuoted h
      rw [List.flatMap_cons, readQuoted_quoteChar] at hread
      cases hread
  | cons c cs ih =>
    have hread := congrArg readQuoted h
    rw [List.flatMap_cons, readQuoted_quoteChar] at hread
    cases ds with
    | nil => cases hread
    | cons d ds =>
      rw [List.flatMap_cons, readQuoted_quoteChar, Option.some_inj, Prod.mk.injEq] at hread
      rw [hread.1, ih hread.2]

theorem quoted_inj {s t : String} : quoted s = quoted t ↔ s = t := by
  refine ⟨fun h => ?_, congrArg quoted⟩
  have hlist : s.toList.flatMap quoteChar ++ ['"'] = t.toList.flatMap quoteChar ++ ['"'] :=
    List.tail_eq_of_cons_eq (String.ofList_inj.mp h)
  exact String.toList_inj.mp (flatMap_quoteChar_inj (List.append_cancel_right hlist))

end Wayfare.Text
