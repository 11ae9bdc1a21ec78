/-!
The shortest decimal that reads back as a given binary value. The value is `m · 2^q`; the reals that
round to it form an interval around it, and the first decimal grid with a point inside wins.
-/
namespace Wayfare.Decimal

/-- A positive binary value `m · 2^q`. On `edge` the gap below it is half the gap above. -/
structure Binary where
  m : Nat
  q : Int
  edge : Bool

/-- A decimal `n · 10^k`. -/
structure Grid where
  n : Nat
  k : Int
  deriving DecidableEq, Repr

/-- Numerator and denominator of `b ^ e`. -/
def powFraction (b : Nat) (e : Int) : Nat × Nat :=
  if 0 ≤ e then (b.pow e.toNat, 1) else (1, b.pow (-e).toNat)

/-- Where `n · 10^k` lies against `x` quarters of `2^q`. -/
def compareQuarters (g : Grid) (x : Nat) (q : Int) : Ordering :=
  let (tn, td) := powFraction 10 g.k
  let (un, ud) := powFraction 2 (q - 2)
  compare (g.n * tn * ud) (x * un * td)

/-- A decimal that rounds to the value: inside the interval, whose ends belong to it when `m` is
even. -/
def readsBack (b : Binary) (g : Grid) : Bool :=
  let low := compareQuarters g (4 * b.m - if b.edge then 1 else 2) b.q
  let high := compareQuarters g (4 * b.m + 2) b.q
  let even := b.m % 2 == 0
  (low == .gt || (even && low == .eq)) && (high == .lt || (even && high == .eq))

/-- How many decimal digits a number has. -/
def digitCount (n : Nat) : Nat :=
  (Nat.toDigits 10 n).length

/-- The exponent of the value's first decimal digit. -/
def leadingExponent (b : Binary) : Int :=
  let (un, ud) := powFraction 2 b.q
  let num := b.m * un
  if ud ≤ num then (digitCount (num / ud) : Int) - 1
  else
    let length := digitCount (ud / num)
    if ud ≤ num * Nat.pow 10 (length - 1) then 1 - (length : Int) else -(length : Int)

/-- The value's neighbour from below on the grid of `10^k`. -/
def floorOn (b : Binary) (k : Int) : Nat :=
  let (un, ud) := powFraction 2 b.q
  let (tn, td) := powFraction 10 k
  b.m * un * td / (ud * tn)

/-- Whether twice the value lies below the sum of a grid point and its successor. -/
def nearerBelow (b : Binary) (g : Grid) : Bool :=
  let point : Grid := ⟨2 * g.n + 1, g.k⟩
  match compareQuarters point (8 * b.m) b.q with
  | .gt => true
  | .eq => g.n % 2 == 0
  | .lt => false

/-- The point of the grid with `digits` digits that reads back, the nearer one of two. -/
def onGrid (b : Binary) (digits : Nat) : Option Grid :=
  let k := leadingExponent b - digits + 1
  let below : Grid := ⟨floorOn b k, k⟩
  let above : Grid := ⟨below.n + 1, k⟩
  match readsBack b below, readsBack b above with
  | true, true => some (if nearerBelow b below then below else above)
  | true, false => some below
  | false, true => some above
  | false, false => none

/-- A decimal without trailing zeros in `n`. -/
def Grid.stripped : Nat → Grid → Grid
  | 0, g => g
  | steps + 1, g => if g.n % 10 == 0 && g.n != 0 then stripped steps ⟨g.n / 10, g.k + 1⟩ else g

/-- The shortest decimal that reads back; seventeen digits always do. -/
def shortest (b : Binary) : Grid :=
  let found := (List.range 17).findSome? fun d => onGrid b (d + 1)
  (found.getD ⟨floorOn b (leadingExponent b - 16), leadingExponent b - 16⟩).stripped 17

end Wayfare.Decimal
