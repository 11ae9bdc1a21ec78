import Wayfare.Decimal.Shortest

/-!
Double-precision numbers as a document holds them: read from a significand and a power of
ten, and written with the fewest digits that read back.
-/
namespace Wayfare

/-- A double, by its bits. -/
structure Double where
  bits : UInt64
  deriving DecidableEq, Repr

namespace Double

open Decimal

def ofFloat (f : Float) : Double :=
  ⟨f.toBits⟩

/-- The double nearest to `10^n`. -/
def powerOfTen (n : Nat) : Float :=
  Float.ofScientific 1 false n

/-- The greatest power of ten that a double holds. -/
def greatestPower : Nat := 308

/-- Divides by `10^n` in steps a double can hold; zero stays zero. -/
def scaleDown (f : Float) (n : Nat) : Float :=
  if n ≤ greatestPower then f / powerOfTen n
  else if f == 0 then f
  else scaleDown (f / powerOfTen greatestPower) (n - greatestPower)
termination_by n
decreasing_by simp only [greatestPower] at *; omega

/-- A magnitude `significand · 10^exponent`: the significand is rounded to a double, then scaled
by a rounded power of ten. Nothing beyond the greatest double is a number. -/
def magnitude? (significand : Nat) (exponent : Int) : Option Float :=
  let f := Float.ofNat significand
  if exponent < 0 then some (scaleDown f (-exponent).toNat)
  else if exponent.toNat ≤ greatestPower then
    let scaled := f * powerOfTen exponent.toNat
    if scaled.isInf then none else some scaled
  else if f == 0 then some f
  else none

/-- A signed decimal as a double. -/
def ofDecimal? (negative : Bool) (significand : Nat) (exponent : Int) : Option Double :=
  (magnitude? significand exponent).map fun f => ofFloat (if negative then -f else f)

def isNegative (d : Double) : Bool :=
  d.bits >>> 63 == 1

/-- The eleven bits of the exponent. -/
def exponentBits (d : Double) : Nat :=
  (d.bits.toNat / Nat.pow 2 52) % Nat.pow 2 11

/-- The fifty-two bits of the fraction. -/
def fractionBits (d : Double) : Nat :=
  d.bits.toNat % Nat.pow 2 52

def isZero (d : Double) : Bool :=
  d.exponentBits == 0 && d.fractionBits == 0

/-- The magnitude of a finite double other than zero. -/
def binary (d : Double) : Binary :=
  if d.exponentBits == 0 then ⟨d.fractionBits, -1074, false⟩
  else ⟨d.fractionBits + Nat.pow 2 52, (d.exponentBits : Int) - 1075,
    d.fractionBits == 0 && d.exponentBits != 1⟩

/-- How a decimal is laid out: positional from `10^least` up to below `10^most`, with at least one
digit after the point; otherwise one digit, the others after a point, and a signed exponent. -/
structure Layout where
  least : Int
  most : Int

/-- Documents write doubles positionally from 0.00001 up to below 10^16. -/
def documentLayout : Layout := ⟨-5, 16⟩

/-- Lays out the digits of `n · 10^k`. -/
def Layout.write (l : Layout) (g : Grid) : List Char :=
  let digits := Nat.toDigits 10 g.n
  let point : Int := digits.length + g.k
  if l.least < point && point ≤ l.most then
    if 0 ≤ g.k then digits ++ List.replicate g.k.toNat '0' ++ ['.', '0']
    else if 0 < point then digits.take point.toNat ++ '.' :: digits.drop point.toNat
    else '0' :: '.' :: (List.replicate (-point).toNat '0' ++ digits)
  else
    let exponent := point - 1
    let mantissa := match digits with
      | d :: e :: rest => d :: '.' :: e :: rest
      | short => short
    mantissa ++ 'e' :: (if exponent < 0 then '-' else '+') :: Nat.toDigits 10 exponent.natAbs

/-- The text of a finite double. -/
def text (d : Double) : String :=
  let unsigned := if d.isZero then ['0', '.', '0'] else documentLayout.write (shortest d.binary)
  String.ofList (if d.isNegative then '-' :: unsigned else unsigned)

end Double

end Wayfare
