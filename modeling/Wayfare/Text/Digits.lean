/-!
Decimal digits of a number.
-/
namespace Wayfare.Text

/-- The digits, without leading zeros. -/
def digits (n : Nat) : List Char :=
  Nat.toDigits 10 n

/-- The digits with zeros in front, up to a width. -/
def padded (width n : Nat) : String :=
  String.ofList (List.replicate (width - (digits n).length) '0' ++ digits n)

/-- A text without zeros at its end. -/
def dropEndZeros (s : String) : String :=
  String.ofList (s.toList.reverse.dropWhile (· == '0')).reverse

end Wayfare.Text
