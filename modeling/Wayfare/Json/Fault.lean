import Wayfare.Text.Quoted

/-!
What can be wrong with the text of a document, and where.
-/
namespace Wayfare.Json

/-- A step from a value to one of its parts. -/
inductive Step where
  | key (name : String)
  | index (i : Nat)
  /-- A part whose name could not be read. -/
  | unnamed
  deriving DecidableEq, Repr

/-- A way from the whole document to one of its values. -/
abbrev Path := List Step

/-- The text of a path: names after points, indexes in brackets, a point for the whole. -/
def Path.text (p : Path) : String :=
  if p.isEmpty then "."
  else (p.foldl (fun (acc : String × Bool) step =>
    let dot := if acc.2 then "." else ""
    match step with
    | .key name => (acc.1 ++ dot ++ name, true)
    | .index i => (acc.1 ++ "[" ++ toString i ++ "]", true)
    | .unnamed => (acc.1 ++ dot ++ "?", true)) ("", false)).1

/-- Why a text is not the wanted document. -/
inductive Cause where
  | endInList
  | endInObject
  | endInString
  | endInValue
  | noColon
  | noListEnd
  | noObjectEnd
  | badWord
  | noValue
  | badEscape
  | badNumber
  | numberTooLarge
  | badBytes
  | rawControl
  | keyNotString
  | loneSurrogate
  | trailingComma
  | trailingText
  | brokenPair
  | tooDeep
  /-- A value of another kind than the wanted one. -/
  | wrongType (found wanted : String)
  /-- A value of the wanted kind that does not fit. -/
  | wrongValue (found wanted : String)
  | missingField (name : String)
  | duplicateField (name : String)
  /-- A list too short for the record it stands for. -/
  | wrongLength (found : Nat) (wanted : String)
  deriving DecidableEq, Repr

/-- Faults of the text itself, its early end apart, and faults of a well-formed value. -/
inductive Category where
  | syntactic
  | early
  | data
  deriving DecidableEq, Repr

def Category.label : Category → String
  | .syntactic => "syntax"
  | .early => "eof"
  | .data => "data"

namespace Cause

def message : Cause → String
  | .endInList => "EOF while parsing a list"
  | .endInObject => "EOF while parsing an object"
  | .endInString => "EOF while parsing a string"
  | .endInValue => "EOF while parsing a value"
  | .noColon => "expected `:`"
  | .noListEnd => "expected `,` or `]`"
  | .noObjectEnd => "expected `,` or `\x7d`"
  | .badWord => "expected ident"
  | .noValue => "expected value"
  | .badEscape => "invalid escape"
  | .badNumber => "invalid number"
  | .numberTooLarge => "number out of range"
  | .badBytes => "invalid unicode code point"
  | .rawControl => "control character (\\u0000-\\u001F) found while parsing a string"
  | .keyNotString => "key must be a string"
  | .loneSurrogate => "lone leading surrogate in hex escape"
  | .trailingComma => "trailing comma"
  | .trailingText => "trailing characters"
  | .brokenPair => "unexpected end of hex escape"
  | .tooDeep => "recursion limit exceeded"
  | .wrongType found wanted => "invalid type: " ++ found ++ ", expected " ++ wanted
  | .wrongValue found wanted => "invalid value: " ++ found ++ ", expected " ++ wanted
  | .missingField name => "missing field `" ++ name ++ "`"
  | .duplicateField name => "duplicate field `" ++ name ++ "`"
  | .wrongLength found wanted => "invalid length " ++ toString found ++ ", expected " ++ wanted

def category : Cause → Category
  | .endInList | .endInObject | .endInString | .endInValue => .early
  | .wrongType .. | .wrongValue .. | .missingField _ | .duplicateField _ | .wrongLength .. => .data
  | _ => .syntactic

end Cause

/-- A fault met while reading: its cause, how many bytes were not yet consumed, and the path of the
innermost value being read. -/
structure Fault where
  cause : Cause
  left : Nat
  path : Path := []
  deriving DecidableEq, Repr

namespace Fault

/-- A fault of what was consumed. -/
def here (cause : Cause) (rest : List UInt8) : Fault :=
  ⟨cause, rest.length, []⟩

/-- A fault of the next byte, if there is one; that byte counts as consumed. -/
def next (cause : Cause) (rest : List UInt8) : Fault :=
  ⟨cause, rest.length - 1, []⟩

/-- The fault as seen from the value around it. -/
def within (step : Step) (f : Fault) : Fault :=
  { f with path := step :: f.path }

/-- Line and column of a fault in its text: lines count from one, columns count bytes. -/
def position (whole : List UInt8) (f : Fault) : Nat × Nat :=
  (whole.take (whole.length - f.left)).foldl
    (fun ((line, column) : Nat × Nat) (b : UInt8) => if b == 0x0A then (line + 1, 0) else (line, column + 1)) (1, 0)

/-- The full message of a fault met in a text, with the path of the value unless it is the whole. -/
def report (whole : List UInt8) (f : Fault) : String :=
  let (line, column) := f.position whole
  let place := " at line " ++ toString line ++ " column " ++ toString column
  let text := f.cause.message ++ place
  if f.path.isEmpty then text else Path.text f.path ++ ": " ++ text

end Fault

end Wayfare.Json
