/-!
Labels of a domain name in ASCII: the ASCII characters as they are, the others as the gaps between
them in a mixed-radix code.
-/
namespace Wayfare.Url.Idna.Punycode

/-- The digit of a value below thirty-six. -/
def digit (d : Nat) : Char :=
  if d < 26 then Char.ofNat ('a'.toNat + d) else Char.ofNat ('0'.toNat + (d - 26))

/-- The value of a digit; labels are in lower case. -/
def digitValue? (c : Char) : Option Nat :=
  if 'a' ≤ c && c ≤ 'z' then some (c.toNat - 'a'.toNat)
  else if '0' ≤ c && c ≤ '9' then some (c.toNat - '0'.toNat + 26)
  else none

/-- The threshold of the digit at weight `k`, from 1 to 26. -/
def threshold (k bias : Nat) : Nat :=
  if k ≤ bias + 1 then 1 else if bias + 26 ≤ k then 26 else k - bias

/-- Scales a gap down until it is small. -/
def adaptLoop (delta k : Nat) : Nat :=
  if 455 < delta then adaptLoop (delta / 35) (k + 36) else k + 36 * delta / (delta + 38)
termination_by delta
decreasing_by exact Nat.div_lt_self (by omega) (by omega)

/-- The bias after a gap. -/
def adapt (delta points : Nat) (first : Bool) : Nat :=
  let scaled := if first then delta / 700 else delta / 2
  adaptLoop (scaled + scaled / points) 0

/-! ### Writing -/

/-- The digits of a gap. -/
def gapDigits (q k bias : Nat) : List Char :=
  let t := threshold k bias
  if q < t then [digit q]
  else if t < 36 ∧ 0 < t then
    digit (t + (q - t) % (36 - t)) :: gapDigits ((q - t) / (36 - t)) (k + 36) bias
  else []
termination_by q
decreasing_by
  have := Nat.div_le_self (q - threshold k bias) (36 - threshold k bias)
  omega

/-- The state between two code points: the gap so far, how many are written, and the bias. -/
structure State where
  delta : Nat
  written : Nat
  bias : Nat

/-- Walks over the text and writes the gap at each occurrence of the code point `n`. -/
def writePoint (n basics : Nat) : List Nat → State → List Char × State
  | [], s => ([], s)
  | c :: rest, s =>
    if c < n then writePoint n basics rest { s with delta := s.delta + 1 }
    else if c == n then
      let bias := adapt s.delta (s.written + 1) (s.written == basics)
      let (more, last) := writePoint n basics rest ⟨0, s.written + 1, bias⟩
      (gapDigits s.delta 36 s.bias ++ more, last)
    else writePoint n basics rest s

/-- Writes the code points of an ascending list, `n` being the least that may come. -/
def writePoints (text : List Nat) (basics : Nat) : (n : Nat) → List Nat → State → List Char
  | _, [], _ => []
  | n, m :: rest, s =>
    let start := { s with delta := s.delta + (m - n) * (s.written + 1) }
    let (chars, s) := writePoint m basics text start
    chars ++ writePoints text basics (m + 1) rest { s with delta := s.delta + 1 }

/-- Puts a number in its place of an ascending list without repetition. -/
def insertPoint (n : Nat) : List Nat → List Nat
  | [] => [n]
  | m :: rest => if n < m then n :: m :: rest else if n = m then m :: rest else m :: insertPoint n rest

def encode (cs : List Char) : List Char :=
  let text := cs.map Char.toNat
  let basics := cs.filter (·.toNat < 0x80)
  let points := (text.filter (0x80 ≤ ·)).foldr insertPoint []
  (if basics.isEmpty then [] else basics ++ ['-']) ++
    writePoints text basics.length 0x80 points ⟨0, basics.length, 72⟩

/-! ### Reading -/

/-- A gap, from its digits on. -/
def readGap (bias : Nat) : (k w i : Nat) → List Char → Option (Nat × List Char)
  | _, _, _, [] => none
  | k, w, i, c :: rest =>
    match digitValue? c with
    | none => none
    | some d =>
      let t := threshold k bias
      if d < t then some (i + d * w, rest)
      else readGap bias (k + 36) (w * (36 - t)) (i + d * w) rest

/-- Reads gap after gap, in at most `steps` steps, and puts a character in the place of each. -/
def readPoints : (steps n i bias : Nat) → List Char → List Char → Option (List Char)
  | 0, _, _, _, _, _ => none
  | _ + 1, _, _, _, out, [] => some out
  | steps + 1, n, i, bias, out, c :: rest =>
    match readGap bias 36 1 i (c :: rest) with
    | none => none
    | some (j, rest) =>
      let points := out.length + 1
      let m := n + j / points
      if m.isValidChar then
        readPoints steps m (j % points + 1) (adapt (j - i) points (i == 0))
          (out.insertIdx (j % points) (Char.ofNat m)) rest
      else none

/-- The text of a label without its mark. -/
def decode (cs : List Char) : Option (List Char) :=
  let tail := (cs.reverse.takeWhile (· != '-')).reverse
  let basics := cs.take (cs.length - tail.length - 1)
  readPoints (cs.length + 1) 0x80 0 72 basics tail

end Wayfare.Url.Idna.Punycode
