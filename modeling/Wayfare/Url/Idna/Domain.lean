import Wayfare.Text.Utf8
import Wayfare.Url.Fault
import Wayfare.Url.Idna.Classes
import Wayfare.Url.Idna.Composition
import Wayfare.Url.Idna.Mapping
import Wayfare.Url.Idna.Punycode

/-!
Domain names in ASCII. Characters are mapped, the text is composed and cut into labels, and a label
beyond ASCII is written in its coded form.
-/
namespace Wayfare.Url.Idna

/-- The ASCII characters that no domain name may hold. -/
def isForbidden (c : Char) : Bool :=
  c.toNat ≤ 0x20 || c.toNat == 0x7F || "%#/:<>?@[\\]^|".toList.contains c

def isAscii (c : Char) : Bool :=
  c.toNat < 0x80

/-- The mark in front of a coded label. -/
def codedMark : List Char := ['x', 'n', '-', '-']

/-- The mark is the start of the label. -/
def isCoded (label : List Char) : Bool :=
  codedMark.isPrefixOf label

/-! ### Rules for labels -/

/-- A joiner stands behind a mark that suppresses a vowel; one of the two kinds may also stand between
letters that join. `before` holds what comes before, last first. -/
def joinersFit : (before : List Char) → List Char → Bool
  | _, [] => true
  | before, c :: rest =>
    let afterVirama := match before with
      | d :: _ => markClass d == 9
      | [] => false
    let joins (side : Text.Ranges) (cs : List Char) : Bool :=
      match cs.dropWhile joiningOver.contains with
      | d :: _ => side.contains d || joiningBoth.contains d
      | [] => false
    let fits :=
      if c.toNat == 0x200D then afterVirama
      else if c.toNat == 0x200C then
        afterVirama || (joins joiningLeft before && joins joiningRight rest)
      else true
    fits && joinersFit (c :: before) rest

/-- Characters that make a whole name subject to the rules of direction. -/
def isRightward (c : Char) : Bool :=
  match direction c with
  | .right | .arabicLetter | .arabicNumber => true
  | _ => false

/-- The direction of a label fits: it starts with a letter of one direction, holds only what goes with
it, and ends in a letter or number of it. -/
def directionFits (label : List Char) : Bool :=
  let all := label.map direction
  let last := (all.reverse.dropWhile (· == .mark)).head?
  match all with
  | [] => true
  | first :: _ =>
    if first == .right || first == .arabicLetter then
      all.all (fun d => d != .left && d != .other) &&
        (match last with
          | some d => d == .right || d == .arabicLetter || d == .europeanNumber || d == .arabicNumber
          | none => false) &&
        !(all.contains .europeanNumber && all.contains .arabicNumber)
    else if first == .left then
      all.all (fun d => d != .right && d != .arabicLetter && d != .arabicNumber && d != .other) &&
        (match last with
          | some d => d == .left || d == .europeanNumber
          | none => false)
    else false

/-- A label beyond ASCII that may stand in a name. -/
def labelFits (label : List Char) : Bool :=
  (match label with
    | c :: _ => !marks.contains c
    | [] => true) && joinersFit [] label && !label.any isForbidden

/-- The characters that a coded label stands for: not all ASCII, each standing for itself, and in
composed form. -/
def decodeLabel (label : List Char) : Option (List Char) :=
  match Punycode.decode (label.drop codedMark.length) with
  | none => none
  | some cs =>
    if !cs.all isAscii && cs.all isKept && composed cs == cs && labelFits cs then some cs else none

/-- A label as it is shown, and as it is written. -/
def processLabel (label : List Char) : Option (List Char × List Char) :=
  if label.all isAscii then
    if label.any isForbidden then none
    else if isCoded label then (decodeLabel label).map fun shown => (shown, label)
    else some (label, label)
  else if !isCoded label && labelFits label then
    some (label, codedMark ++ Punycode.encode label)
  else none

/-- Names that need neither mapping nor coding. -/
def isPlain (name : List Char) : Bool :=
  name.all isAscii && (Text.cut '.' (name.map Char.toLower)).all (!isCoded ·)

/-- The ASCII form of a domain name. -/
def toAscii (bytes : List UInt8) : Except Fault (List Char) :=
  match Text.decodeUtf8? bytes with
  | none => .error .badDomain
  | some name =>
    if isPlain name then
      if name.any isForbidden then .error .badDomain else .ok (name.map Char.toLower)
    else
      match (name.mapM mapChar).map List.flatten with
      | none => .error .badDomain
      | some mapped =>
        match (Text.cut '.' (composed mapped)).mapM processLabel with
        | none => .error .badDomain
        | some labels =>
          if labels.any (fun (shown, _) => shown.any isRightward) &&
              !labels.all (fun (shown, _) => directionFits shown) then .error .badDomain
          else .ok (['.'].intercalate (labels.map (·.2)))

end Wayfare.Url.Idna
