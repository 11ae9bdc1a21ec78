import Wayfare.Text.Cut
import Wayfare.Url.Percent

/-!
Paths of addresses. A path is flat text, or segments behind slashes; a segment of one dot stands for
the place that is reached, and one of two dots leads back from it.
-/
namespace Wayfare.Url

/-- How the addresses of a scheme are read. -/
inductive Family where
  /-- Always with a host, and with a backslash for a slash. -/
  | web
  | file
  | other
  deriving DecidableEq, Repr

inductive Path where
  | flat (text : List Char)
  /-- Segments, each behind a slash. -/
  | segments (names : List (List Char))
  deriving DecidableEq, Repr

def Family.isSlash (family : Family) (c : Char) : Bool :=
  c == '/' || (family != .other && c == '\\')

/-- A dot may be written as an escape. -/
def isDot (segment : List Char) : Bool :=
  let s := segment.map Char.toLower
  s == ['.'] || s == ['%', '2', 'e']

def isDotDot (segment : List Char) : Bool :=
  let s := segment.map Char.toLower
  s == ['.', '.'] || s == ['.', '%', '2', 'e'] || s == ['%', '2', 'e', '.'] ||
    s == ['%', '2', 'e', '%', '2', 'e']

/-- A letter with a colon or a bar behind it. -/
def isDrive : List Char → Bool
  | [letter, mark] => letter.isAlpha && (mark == ':' || mark == '|')
  | _ => false

/-- The mark of a drive is written as a colon. -/
def normalizeDrive (segment : List Char) : List Char :=
  if isDrive segment then segment.take 1 ++ [':'] else segment

/-- The place above; a drive has none. -/
def parent (names : List (List Char)) : List (List Char) :=
  match names.getLast? with
  | none => []
  | some name => if isDrive name then names else names.dropLast

/-- One segment more. Dots at the end leave an empty segment, so that the path ends in a slash. -/
def addSegment (family : Family) (names : List (List Char)) (segment : List Char) (isLast : Bool) :
    List (List Char) :=
  if isDotDot segment then parent names ++ if isLast then [[]] else []
  else if isDot segment then names ++ if isLast then [[]] else []
  else
    let written := escape pathSet segment
    names ++ [if family = .file then normalizeDrive written else written]

/-- Segments behind those that are there. -/
def addSegments (family : Family) : List (List Char) → List (List Char) → List (List Char)
  | names, [] => names
  | names, [segment] => addSegment family names segment true
  | names, segment :: rest => addSegments family (addSegment family names segment false) rest

/-- The segments of a text, behind those that are there. -/
def addPath (family : Family) (names : List (List Char)) (text : List Char) : List (List Char) :=
  addSegments family names (Text.cutBy family.isSlash text)

/-- A text without its first slash. -/
def dropSlash (family : Family) : List Char → List Char
  | [] => []
  | c :: cs => if family.isSlash c then cs else c :: cs

/-- The path behind a host. It is empty only outside the web, where none is written. -/
def pathOfText (family : Family) (text : List Char) : List (List Char) :=
  if family = .other && text.isEmpty then []
  else addPath family [] (dropSlash family text)

/-- The path of a file, and whether it names a drive. Empty segments in front do not count, and a
drive in front ends its segment. -/
def filePath (text : List Char) : List (List Char) × Bool :=
  let (front, names) : List (List Char) × List (List Char) :=
    match text with
    | letter :: ':' :: c :: rest =>
      if letter.isAlpha && !Family.file.isSlash c then
        match Text.cutBy Family.file.isSlash (c :: rest) with
        | segment :: more =>
          ([[letter, ':']], addSegments .file [escape pathSet segment] more)
        | [] => ([[letter, ':']], [])
      else ([], addPath .file [] text)
    | _ => ([], addPath .file [] text)
  match (front ++ names).dropWhile (·.isEmpty) with
  | [] => ([[]], false)
  | shown => (shown, names.any isDrive)

namespace Path

def write : Path → List Char
  | .flat text => text
  | .segments names => names.flatMap ('/' :: ·)

/-- Whether the text of the path could be taken for a host: without one it begins with two
slashes. -/
def startsDouble : Path → Bool
  | .segments ([] :: _ :: _) => true
  | _ => false

end Path

end Wayfare.Url
