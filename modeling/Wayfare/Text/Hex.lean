import Wayfare.Text.Cut

/-!
Hexadecimal digits, and sets of characters written as hexadecimal ranges.
-/
namespace Wayfare.Text

/-- The value of a hexadecimal digit in either case. -/
def hexValue? (c : Char) : Option Nat :=
  if '0' ≤ c && c ≤ '9' then some (c.toNat - '0'.toNat)
  else if 'a' ≤ c && c ≤ 'f' then some (c.toNat - 'a'.toNat + 10)
  else if 'A' ≤ c && c ≤ 'F' then some (c.toNat - 'A'.toNat + 10)
  else none

/-- The capital digit of a value below sixteen. -/
def hexDigitUpper (n : Nat) : Char :=
  if n < 10 then Char.ofNat ('0'.toNat + n) else Char.ofNat ('A'.toNat + n - 10)

/-- The small digit of a value below sixteen. -/
def hexDigitLower (n : Nat) : Char :=
  if n < 10 then Char.ofNat ('0'.toNat + n) else Char.ofNat ('a'.toNat + n - 10)

/-- The number that hexadecimal digits write; other characters count as nothing. -/
def hexNumber (cs : List Char) : Nat :=
  cs.foldl (fun n c => match hexValue? c with
    | some d => 16 * n + d
    | none => n) 0

/-- A set of characters, as closed ranges of code points. -/
structure Ranges where
  bounds : Array (Nat × Nat)

namespace Ranges

/-- Reads ranges such as `AD 300-36F`. -/
def ofText (s : String) : Ranges :=
  ⟨((words s.toList).map fun w => match cut '-' w with
    | [a] => (hexNumber a, hexNumber a)
    | a :: b :: _ => (hexNumber a, hexNumber b)
    | [] => (0, 0)).toArray⟩

def contains (r : Ranges) (c : Char) : Bool :=
  r.bounds.any fun (low, high) => low ≤ c.toNat && c.toNat ≤ high

end Ranges

end Wayfare.Text
