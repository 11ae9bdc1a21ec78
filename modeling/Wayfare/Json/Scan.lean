import Wayfare.Decimal.Double
import Wayfare.Json.Basic
import Wayfare.Json.Fault
import Wayfare.Text.Utf8

/-!
The words, strings and numbers of a document's text. Each reader takes the bytes that follow and
gives what it read with the bytes after it, or the first fault.
-/
namespace Wayfare.Json.Scan

/-- What a reader gives: a value with the bytes after it, or the first fault. -/
abbrev Read (α : Type) := Except Fault (α × List UInt8)

/-- The blanks between the tokens of a document. -/
def isSpace (b : UInt8) : Bool :=
  b == 0x20 || b == 0x0A || b == 0x09 || b == 0x0D

def skipSpace (bs : List UInt8) : List UInt8 :=
  bs.dropWhile isSpace

def isDigit (b : UInt8) : Bool :=
  0x30 ≤ b && b ≤ 0x39

/-- The value of a digit. -/
def digitValue (b : UInt8) : Nat :=
  b.toNat - 0x30

/-! ### Words -/

/-- Reads the rest of a word letter by letter. -/
def word : List UInt8 → List UInt8 → Read Unit
  | [], rest => .ok ((), rest)
  | _ :: _, [] => .error (.here .endInValue [])
  | letter :: letters, b :: rest =>
    if b == letter then word letters rest else .error (.here .badWord rest)

/-- The letters after the first of `null`, `true` and `false`. -/
def afterN : List UInt8 := [0x75, 0x6C, 0x6C]
def afterT : List UInt8 := [0x72, 0x75, 0x65]
def afterF : List UInt8 := [0x61, 0x6C, 0x73, 0x65]

/-! ### Strings -/

/-- The value of a hexadecimal digit. -/
def hexByte? (b : UInt8) : Option Nat :=
  if b < 0x80 then Text.hexValue? (Char.ofNat b.toNat) else none

/-- Four hexadecimal digits. -/
def hexQuad : List UInt8 → Read Nat
  | a :: b :: c :: d :: rest =>
    match hexByte? a, hexByte? b, hexByte? c, hexByte? d with
    | some a, some b, some c, some d => .ok (((a * 16 + b) * 16 + c) * 16 + d, rest)
    | _, _, _, _ => .error (.here .badEscape rest)
  | _ => .error (.here .endInString [])

/-- The low half of a surrogate pair, written as an escape of its own. -/
def lowSurrogate : List UInt8 → Read Nat
  | [] => .error (.here .endInString [])
  | b :: rest =>
    if b != 0x5C then .error (.here .brokenPair rest)
    else match rest with
      | [] => .error (.here .endInString [])
      | c :: rest =>
        if c != 0x75 then .error (.here .brokenPair rest)
        else match hexQuad rest with
          | .error f => .error f
          | .ok (n, rest) =>
            if 0xDC00 ≤ n && n ≤ 0xDFFF then .ok (n, rest)
            else .error (.here .loneSurrogate rest)

/-- A character by its number, in one escape or in a surrogate pair. -/
def unicodeEscape (bs : List UInt8) : Read (List UInt8) :=
  match hexQuad bs with
  | .error f => .error f
  | .ok (n, rest) =>
    if 0xDC00 ≤ n && n ≤ 0xDFFF then .error (.here .loneSurrogate rest)
    else if 0xD800 ≤ n && n ≤ 0xDBFF then
      match lowSurrogate rest with
      | .error f => .error f
      | .ok (low, rest) =>
        .ok (String.utf8EncodeChar (Char.ofNat ((n - 0xD800) * 0x400 + (low - 0xDC00) + 0x10000)),
          rest)
    else .ok (String.utf8EncodeChar (Char.ofNat n), rest)

/-- The byte for which a one-letter escape stands. -/
def shortEscape? (b : UInt8) : Option UInt8 :=
  if b == 0x22 || b == 0x5C || b == 0x2F then some b
  else if b == 0x62 then some 0x08
  else if b == 0x66 then some 0x0C
  else if b == 0x6E then some 0x0A
  else if b == 0x72 then some 0x0D
  else if b == 0x74 then some 0x09
  else none

/-- What follows a backslash in a string. -/
def escape : List UInt8 → Read (List UInt8)
  | [] => .error (.here .endInString [])
  | b :: rest =>
    match shortEscape? b with
    | some c => .ok ([c], rest)
    | none => if b == 0x75 then unicodeEscape rest else .error (.here .badEscape rest)

/-- The bytes of a string up to its closing quote, in at most `steps` steps. -/
def stringBytes : (steps : Nat) → List UInt8 → Read (List UInt8)
  | 0, bs => .error (.here .endInString bs)
  | _ + 1, [] => .error (.here .endInString [])
  | steps + 1, b :: rest =>
    if b == 0x22 then .ok ([], rest)
    else if b == 0x5C then
      match escape rest with
      | .error f => .error f
      | .ok (piece, rest) =>
        match stringBytes steps rest with
        | .error f => .error f
        | .ok (more, rest) => .ok (piece ++ more, rest)
    else if b < 0x20 then .error (.here .rawControl rest)
    else
      match stringBytes steps rest with
      | .error f => .error f
      | .ok (more, rest) => .ok (b :: more, rest)

/-- A string after its opening quote; its bytes must be well-formed text. -/
def stringAfterQuote (bs : List UInt8) : Read String :=
  match stringBytes (bs.length + 1) bs with
  | .error f => .error f
  | .ok (bytes, rest) =>
    match Text.decodeUtf8? bytes with
    | some cs => .ok (String.ofList cs, rest)
    | none => .error (.here .badBytes rest)

/-! ### Numbers -/

/-- The greatest whole number. -/
def maxWhole : Nat := Nat.pow 2 64 - 1

/-- Exponents beyond this bound are not told apart. -/
def maxExponent : Nat := Nat.pow 2 31 - 1

/-- The double of a decimal, which must not exceed the greatest one. -/
def finishDouble (negative : Bool) (significand : Nat) (exponent : Int) (rest : List UInt8) :
    Read Number :=
  match Double.ofDecimal? negative significand exponent with
  | some d => .ok (.double d, rest)
  | none => .error (.here .numberTooLarge rest)

/-- The digits of an exponent after its first. -/
def exponentDigits (negative : Bool) (significand : Nat) (start : Int) (down : Bool) :
    Nat → List UInt8 → Read Number
  | e, b :: rest =>
    if isDigit b then
      let next := 10 * e + digitValue b
      if next > maxExponent then
        if significand != 0 && !down then .error (.here .numberTooLarge rest)
        else finishDouble negative 0 0 (rest.dropWhile isDigit)
      else exponentDigits negative significand start down next rest
    else finishDouble negative significand (if down then start - e else start + e) (b :: rest)
  | e, [] => finishDouble negative significand (if down then start - e else start + e) []

/-- An exponent after its sign. -/
def unsignedExponent (negative : Bool) (significand : Nat) (start : Int) (down : Bool) :
    List UInt8 → Read Number
  | [] => .error (.here .endInValue [])
  | b :: rest =>
    if isDigit b then exponentDigits negative significand start down (digitValue b) rest
    else .error (.here .badNumber rest)

/-- An exponent after its letter. -/
def exponent (negative : Bool) (significand : Nat) (start : Int) : List UInt8 → Read Number
  | b :: rest =>
    if b == 0x2B then unsignedExponent negative significand start false rest
    else if b == 0x2D then unsignedExponent negative significand start true rest
    else unsignedExponent negative significand start false (b :: rest)
  | [] => unsignedExponent negative significand start false []

/-- The letter of an exponent. -/
def isExponentLetter (b : UInt8) : Bool :=
  b == 0x65 || b == 0x45

/-- What may follow a fraction: an exponent or the end of the number. -/
def afterFraction (negative : Bool) (significand : Nat) (e : Int) : List UInt8 → Read Number
  | b :: rest =>
    if isExponentLetter b then exponent negative significand e rest
    else finishDouble negative significand e (b :: rest)
  | [] => finishDouble negative significand e []

/-- The digits after the point. Those that would carry the significand beyond the greatest whole
number are dropped; at least one digit must stand there. -/
def fraction (negative : Bool) (significand : Nat) (e : Int) (any : Bool) :
    List UInt8 → Read Number
  | b :: rest =>
    if isDigit b then
      let next := 10 * significand + digitValue b
      if next > maxWhole then afterFraction negative significand e ((b :: rest).dropWhile isDigit)
      else fraction negative next (e - 1) true rest
    else if any then afterFraction negative significand e (b :: rest)
    else .error (.next .badNumber (b :: rest))
  | [] => if any then afterFraction negative significand e [] else .error (.next .endInValue [])

/-- The digits of a whole part beyond the greatest whole number: they only count. -/
def longWhole (negative : Bool) (significand : Nat) (e : Int) : List UInt8 → Read Number
  | b :: rest =>
    if isDigit b then longWhole negative significand (e + 1) rest
    else if b == 0x2E then fraction negative significand e false rest
    else afterFraction negative significand e (b :: rest)
  | [] => afterFraction negative significand e []

/-- A number without fraction and exponent; minus zero and what lies below the least whole number
are doubles. -/
def finishWhole (negative : Bool) (n : Nat) (rest : List UInt8) : Read Number :=
  if !negative then .ok (.whole n, rest)
  else if n == 0 || n > Nat.pow 2 63 then finishDouble true n 0 rest
  else .ok (.whole (-n), rest)

/-- What may follow a whole part. -/
def afterWhole (negative : Bool) (n : Nat) : List UInt8 → Read Number
  | b :: rest =>
    if b == 0x2E then fraction negative n 0 false rest
    else if isExponentLetter b then exponent negative n 0 rest
    else finishWhole negative n (b :: rest)
  | [] => finishWhole negative n []

/-- The digits of a whole part after its first. -/
def wholeDigits (negative : Bool) : Nat → List UInt8 → Read Number
  | n, b :: rest =>
    if isDigit b then
      let next := 10 * n + digitValue b
      if next > maxWhole then longWhole negative n 1 rest
      else wholeDigits negative next rest
    else afterWhole negative n (b :: rest)
  | n, [] => afterWhole negative n []

/-- A number after its sign. A zero stands alone in front of point and exponent. -/
def unsignedNumber (negative : Bool) : List UInt8 → Read Number
  | [] => .error (.here .endInValue [])
  | b :: rest =>
    if b == 0x30 then
      if (rest.head?.map isDigit).getD false then .error (.next .badNumber rest)
      else afterWhole negative 0 rest
    else if isDigit b then wholeDigits negative (digitValue b) rest
    else .error (.here .badNumber rest)

/-- A number; its first byte is a digit or a minus. -/
def numberAt : List UInt8 → Read Number
  | b :: rest =>
    if b == 0x2D then unsignedNumber true rest else unsignedNumber false (b :: rest)
  | [] => .error (.here .endInValue [])

/-- The first bytes of a number. -/
def startsNumber (b : UInt8) : Bool :=
  b == 0x2D || isDigit b

end Wayfare.Json.Scan
