import Wayfare.Text.Digits
import Wayfare.Url.Idna.Domain
import Wayfare.Url.Percent

/-!
Hosts: names, and addresses of four or sixteen bytes.
-/
namespace Wayfare.Url

inductive Host where
  /-- A name in ASCII; of an address without host the empty name. -/
  | name (cs : List Char)
  | ipv4 (address : Nat)
  | ipv6 (pieces : List Nat)
  deriving DecidableEq, Repr

/-! ### Four bytes -/

/-- The number that digits of a base write. -/
def digitsValue (base : Nat) (cs : List Char) : Nat :=
  cs.foldl (fun n c => base * n + (Text.hexValue? c).getD 0) 0

/-- All are digits of the base. -/
def areDigits (base : Nat) (cs : List Char) : Bool :=
  cs.all fun c => match Text.hexValue? c with
    | some d => d < base
    | none => false

/-- A part of a four-byte address: hexadecimal after `0x`, octal after a zero, otherwise decimal. -/
def ipv4Number? (cs : List Char) : Option Nat :=
  let read (base : Nat) (digits : List Char) : Option Nat :=
    if areDigits base digits then some (digitsValue base digits) else none
  match cs with
  | [] => none
  | ['0'] => some 0
  | '0' :: x :: rest => if x == 'x' || x == 'X' then read 16 rest else read 8 (x :: rest)
  | digits => read 10 digits

/-- The parts of a name without an empty last one. -/
def nameParts (cs : List Char) : List (List Char) :=
  let parts := Text.cut '.' cs
  if parts.getLast? == some [] then parts.dropLast else parts

/-- Whether the last part of a name makes it a four-byte address. -/
def endsInNumber (cs : List Char) : Bool :=
  match (nameParts cs).getLast? with
  | none => false
  | some [] => false
  | some last => last.all Char.isDigit || (ipv4Number? last).isSome

/-- A four-byte address of up to four parts; the last part fills all that is left. -/
def parseIpv4 (cs : List Char) : Except Fault Nat :=
  let parts := nameParts cs
  if 4 < parts.length then .error .badIpv4
  else match parts.mapM ipv4Number? with
    | none => .error .badIpv4
    | some numbers =>
      let front := numbers.dropLast
      let last := numbers.getLast?.getD 0
      if Nat.pow 2 (8 * (4 - front.length)) ≤ last || front.any (255 < ·) then .error .badIpv4
      else
        .ok (front.foldl (fun n part => 256 * n + part) 0 * Nat.pow 2 (8 * (4 - front.length)) +
          last)

/-- Four bytes in decimal, between points. -/
def writeIpv4 (n : Nat) : List Char :=
  ['.'].intercalate ([Nat.pow 2 24, Nat.pow 2 16, Nat.pow 2 8, 1].map fun unit =>
    Text.digits (n / unit % 256))

/-! ### Sixteen bytes -/

/-- One of the four bytes at the end of a sixteen-byte address: no leading zero, at most 255. -/
def ipv6Byte? (cs : List Char) : Option Nat :=
  match cs with
  | ['0'] => some 0
  | c :: _ =>
    let n := digitsValue 10 cs
    if c != '0' && cs.all Char.isDigit && n ≤ 255 then some n else none
  | [] => none

/-- The two pieces of the four bytes at the end. -/
def ipv6Tail? (cs : List Char) : Option (List Nat) :=
  match (Text.cut '.' cs).mapM ipv6Byte? with
  | some [a, b, c, d] => some [256 * a + b, 256 * c + d]
  | _ => none

/-- The pieces of a sixteen-byte address. `front` holds the pieces so far, last first, with a zero
where the gap is; `gap` is how many pieces stand before its end. -/
def ipv6Pieces : (steps : Nat) → (front : List Nat) → (gap : Option Nat) → List Char →
    Option (List Nat × Option Nat)
  | 0, _, _, _ => none
  | _ + 1, front, gap, [] => some (front.reverse, gap)
  | steps + 1, front, gap, c :: rest =>
    if front.length == 8 then none
    else if c == ':' then
      if gap.isSome then none else ipv6Pieces steps (0 :: front) (some (front.length + 1)) rest
    else
      let digits := ((c :: rest).take 4).takeWhile fun c => (Text.hexValue? c).isSome
      match (c :: rest).drop digits.length with
      | [] => ipv6Pieces steps (digitsValue 16 digits :: front) gap []
      | d :: more =>
        if d == '.' && !digits.isEmpty && front.length ≤ 6 then
          (ipv6Tail? (c :: rest)).map fun tail => (front.reverse ++ tail, gap)
        else if d == ':' && !more.isEmpty then
          ipv6Pieces steps (digitsValue 16 digits :: front) gap more
        else none

/-- The pieces with the gap filled up to eight. -/
def fillGap (pieces : List Nat) : Option Nat → Option (List Nat)
  | none => if pieces.length == 8 then some pieces else none
  | some gap =>
    some (pieces.take gap ++ List.replicate (8 - pieces.length) 0 ++ pieces.drop gap)

/-- A sixteen-byte address, without its brackets. -/
def parseIpv6 (cs : List Char) : Except Fault (List Nat) :=
  let read := match cs with
    | ':' :: ':' :: rest => ipv6Pieces (cs.length + 1) [0] (some 1) rest
    | ':' :: _ => none
    | [] => none
    | [_] => none
    | _ => ipv6Pieces (cs.length + 1) [] none cs
  match read.bind fun (pieces, gap) => fillGap pieces gap with
  | some pieces => .ok pieces
  | none => .error .badIpv6

/-- The first longest run of zeros from place `i` on, as its place and length. -/
def longestZeros (i : Nat) : List Nat → Nat × Nat
  | [] => (i, 0)
  | p :: rest =>
    let here := ((p :: rest).takeWhile (· == 0)).length
    let there := longestZeros (i + 1) rest
    if there.2 ≤ here then (i, here) else there

/-- Pieces in hexadecimal, between colons. -/
def writePieces (pieces : List Nat) : List Char :=
  [':'].intercalate (pieces.map (Nat.toDigits 16))

/-- Eight pieces in hexadecimal; the longest run of at least two zeros is left out. -/
def writeIpv6 (pieces : List Nat) : List Char :=
  let (place, length) := longestZeros 0 pieces
  if length < 2 then writePieces pieces
  else writePieces (pieces.take place) ++ ':' :: ':' :: writePieces (pieces.drop (place + length))

/-! ### Hosts -/

/-- The characters that no host may hold. -/
def isForbiddenInHost (c : Char) : Bool :=
  c.toNat == 0 || "\t\n\r #/:<>?@[\\]^|".toList.contains c

/-- A host between brackets. -/
def parseBracketed (cs : List Char) : Except Fault Host :=
  if cs.getLast? == some ']' then (parseIpv6 (cs.drop 1).dropLast).map .ipv6
  else .error .badIpv6

/-- The host of a web address: escapes are resolved, and a name that ends in a number is a four-byte
address. -/
def parseWebHost (cs : List Char) : Except Fault Host :=
  if cs.head? == some '[' then parseBracketed cs
  else match Idna.toAscii (unescape (Text.encodeUtf8 cs)) with
    | .error f => .error f
    | .ok name =>
      if name.isEmpty then .error .emptyHost
      else if endsInNumber name then (parseIpv4 name).map .ipv4
      else .ok (.name name)

/-- The host of any other address, which is left as it is. -/
def parseOtherHost (cs : List Char) : Except Fault Host :=
  if cs.head? == some '[' then parseBracketed cs
  else if cs.any isForbiddenInHost then .error .badHostCharacter
  else .ok (.name (escape controlSet cs))

namespace Host

def isEmpty : Host → Bool
  | .name cs => cs.isEmpty
  | _ => false

def write : Host → List Char
  | .name cs => cs
  | .ipv4 n => writeIpv4 n
  | .ipv6 pieces => '[' :: (writeIpv6 pieces ++ [']'])

end Host

end Wayfare.Url
