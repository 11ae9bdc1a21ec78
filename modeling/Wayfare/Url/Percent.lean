import Wayfare.Text.Hex
import Wayfare.Text.Utf8

/-!
Percent signs: bytes that a part of an address cannot hold are written as a sign and two digits.
-/
namespace Wayfare.Url

/-- The ASCII characters that are escaped in some part of an address. -/
abbrev EscapeSet := Char → Bool

/-- Controls are escaped everywhere. -/
def controlSet : EscapeSet := fun c => c.toNat < 0x20 || c.toNat == 0x7F

def fragmentSet : EscapeSet := fun c =>
  controlSet c || c == ' ' || c == '"' || c == '<' || c == '>' || c == '\x60'

def pathSet : EscapeSet := fun c =>
  fragmentSet c || c == '#' || c == '?' || c == '\x7b' || c == '\x7d'

def userinfoSet : EscapeSet := fun c =>
  pathSet c || c == '/' || c == ':' || c == ';' || c == '=' || c == '@' || c == '[' || c == '\\' ||
    c == ']' || c == '^' || c == '|'

def querySet : EscapeSet := fun c =>
  controlSet c || c == ' ' || c == '"' || c == '#' || c == '<' || c == '>'

/-- The query of a web address escapes an apostrophe too. -/
def webQuerySet : EscapeSet := fun c => querySet c || c == '\''

/-- A byte as a sign and two capital digits. -/
def escapeByte (b : UInt8) : List Char :=
  ['%', Text.hexDigitUpper (b.toNat / 16), Text.hexDigitUpper (b.toNat % 16)]

/-- A character, escaped if it is in the set or beyond ASCII. -/
def escapeChar (set : EscapeSet) (c : Char) : List Char :=
  if c.toNat < 0x80 && !set c then [c] else (String.utf8EncodeChar c).flatMap escapeByte

def escape (set : EscapeSet) (cs : List Char) : List Char :=
  cs.flatMap (escapeChar set)

/-- The value of two digits. -/
def hexPair? (a b : UInt8) : Option UInt8 :=
  if a < 0x80 && b < 0x80 then
    match Text.hexValue? (Char.ofNat a.toNat), Text.hexValue? (Char.ofNat b.toNat) with
    | some x, some y => some (UInt8.ofNat (16 * x + y))
    | _, _ => none
  else none

/-- The bytes with every escaped one in its place; a sign without two digits stays. -/
def unescape : List UInt8 → List UInt8
  | [] => []
  | b :: rest =>
    if b == 0x25 then
      match rest with
      | x :: y :: more =>
        match hexPair? x y with
        | some v => v :: unescape more
        | none => b :: unescape (x :: y :: more)
      | short => b :: unescape short
    else b :: unescape rest

end Wayfare.Url
