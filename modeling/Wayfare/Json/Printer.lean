import Wayfare.Json.Basic
import Wayfare.Text.Hex

/-!
The compact text of a document: no blanks, fields in order, and within strings only what must be
escaped.
-/
namespace Wayfare.Json

/-- The characters that stand for one character of a string. -/
def escapeChar (c : Char) : List Char :=
  if c == '"' then ['\\', '"']
  else if c == '\\' then ['\\', '\\']
  else if c == '\n' then ['\\', 'n']
  else if c == '\r' then ['\\', 'r']
  else if c == '\t' then ['\\', 't']
  else if c.toNat == 0x08 then ['\\', 'b']
  else if c.toNat == 0x0C then ['\\', 'f']
  else if c.toNat < 0x20 then
    ['\\', 'u', '0', '0', Text.hexDigitLower (c.toNat / 16), Text.hexDigitLower (c.toNat % 16)]
  else [c]

/-- A string of a document, between its quotes. -/
def printString (s : String) : List Char :=
  '"' :: (s.toList.flatMap escapeChar ++ ['"'])

mutual

/-- The text of a document as characters. -/
def print : Json → List Char
  | .null => ['n', 'u', 'l', 'l']
  | .bool true => ['t', 'r', 'u', 'e']
  | .bool false => ['f', 'a', 'l', 's', 'e']
  | .number n => n.text.toList
  | .string s => printString s
  | .array items => '[' :: (printItems true items ++ [']'])
  | .object fields => '\x7b' :: (printFields true fields ++ ['\x7d'])

def printItems (first : Bool) : List Json → List Char
  | [] => []
  | item :: rest => (if first then [] else [',']) ++ print item ++ printItems false rest

def printFields (first : Bool) : List (String × Json) → List Char
  | [] => []
  | (name, value) :: rest =>
    (if first then [] else [',']) ++ printString name ++ ':' :: print value ++
      printFields false rest

end

/-- The text of a document. -/
def render (j : Json) : String :=
  String.ofList j.print

end Wayfare.Json
