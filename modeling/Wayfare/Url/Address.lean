import Wayfare.Text.Blank
import Wayfare.Url.Authority
import Wayfare.Url.Form

/-!
Addresses. `Url.parse` reads an absolute address, `Url.resolve` also a relative one, and `Url.write`
gives the text of an address.
-/
namespace Wayfare

/-- An address; every part is kept as it is written. -/
structure Url where
  /-- In lower case. -/
  scheme : List Char
  authority : Option Url.Authority
  path : Url.Path
  query : Option (List Char)
  fragment : Option (List Char)
  deriving DecidableEq, Repr

namespace Url

/-- How addresses of a scheme are read. -/
def familyOf (scheme : List Char) : Family :=
  if scheme == "file".toList then .file
  else if [ "http", "https", "ws", "wss", "ftp"].any (·.toList == scheme) then .web
  else .other

/-- The port that a scheme stands for. -/
def defaultPort? (scheme : List Char) : Option Nat :=
  if scheme == "http".toList || scheme == "ws".toList then some 80
  else if scheme == "https".toList || scheme == "wss".toList then some 443
  else if scheme == "ftp".toList then some 21
  else none

/-- The text without controls and spaces at its ends, and without tabs and line breaks anywhere. -/
def clean (cs : List Char) : List Char :=
  (Text.trimBy (·.toNat ≤ 0x20) cs).filter fun c => c != '\t' && c != '\n' && c != '\r'

/-- The text of an address, cut into what stands before the first question mark, the query, and
the fragment. -/
structure Parts where
  front : List Char
  query : Option (List Char)
  fragment : Option (List Char)

/-- What stands before the first `sep`, and what stands behind it. -/
def cutAt (sep : Char) (cs : List Char) : List Char × Option (List Char) :=
  match cs.dropWhile (· != sep) with
  | [] => (cs, none)
  | _ :: behind => (cs.takeWhile (· != sep), some behind)

def Parts.ofText (cs : List Char) : Parts :=
  let (rest, fragment) := cutAt '#' cs
  let (front, query) := cutAt '?' rest
  ⟨front, query, fragment⟩

namespace Parts

def hasTail (p : Parts) : Bool :=
  p.query.isSome || p.fragment.isSome

/-- The query as it is written. -/
def writtenQuery (family : Family) (p : Parts) : Option (List Char) :=
  p.query.map (escape (if family = .other then querySet else webQuerySet))

def writtenFragment (p : Parts) : Option (List Char) :=
  p.fragment.map (escape fragmentSet)

end Parts

def isSchemeChar (c : Char) : Bool :=
  c.isAlphanum || c == '+' || c == '-' || c == '.'

/-- The scheme in front of a colon, and what follows. -/
def cutScheme (cs : List Char) : Option (List Char × List Char) :=
  match cs.dropWhile isSchemeChar with
  | ':' :: rest =>
    if cs.head?.any Char.isAlpha then some ((cs.takeWhile isSchemeChar).map Char.toLower, rest)
    else none
  | _ => none

/-- An address from the text behind its two slashes. -/
def ofAuthority (scheme : List Char) (parts : Parts) (text : List Char) : Except Fault Url :=
  let family := familyOf scheme
  let front := text.takeWhile (!family.isSlash ·)
  let pathText := text.dropWhile (!family.isSlash ·)
  match readAuthority family (defaultPort? scheme) (pathText.isEmpty && !parts.hasTail) front with
  | .error f => .error f
  | .ok (authority, begin) =>
    .ok ⟨scheme, some authority, .segments (pathOfText family (begin ++ pathText)),
      parts.writtenQuery family, parts.writtenFragment⟩

/-- A file from the text behind its scheme. -/
def ofFile (parts : Parts) (text : List Char) : Except Fault Url :=
  let build (host : Host) (path : List (List Char) × Bool) : Url :=
    ⟨"file".toList, some ⟨[], [], if path.2 then .name [] else host, none⟩, .segments path.1,
      parts.writtenQuery .file, parts.writtenFragment⟩
  match text with
  | a :: b :: rest =>
    if Family.file.isSlash a && Family.file.isSlash b then
      let hostText := rest.takeWhile (!Family.file.isSlash ·)
      if hostText.isEmpty || isDrive hostText then .ok (build (.name []) (filePath rest))
      else match parseWebHost hostText with
        | .error f => .error f
        | .ok host =>
          let pathText := rest.dropWhile (!Family.file.isSlash ·)
          if host = .name "localhost".toList then .ok (build (.name []) (filePath pathText))
          else .ok (build host (filePath (dropSlash .file pathText)))
    else .ok (build (.name []) (filePath (dropSlash .file text)))
  | _ => .ok (build (.name []) (filePath (dropSlash .file text)))

/-- The segments of an address; flat text has none. -/
def segments (u : Url) : List (List Char) :=
  match u.path with
  | .segments names => names
  | .flat _ => []

/-- A relative address, against a base on the web. Two slashes in front begin a host. -/
def ofRelative (base : Url) (parts : Parts) (front : List Char) : Except Fault Url :=
  let fragment := parts.writtenFragment
  let query := parts.writtenQuery .web
  match front with
  | [] => .ok { base with query := if query.isSome then query else base.query, fragment }
  | a :: rest =>
    if Family.web.isSlash a then
      if rest.head?.any Family.web.isSlash then
        ofAuthority base.scheme parts
          (if a == '/' && rest.head? == some '/' then rest.drop 1
            else rest.dropWhile Family.web.isSlash)
      else .ok { base with path := .segments (addPath .web [] rest), query, fragment }
    else
      .ok { base with path := .segments (addPath .web (parent base.segments) front), query, fragment }

/-- An address that names its scheme. A scheme of the web may stand before a path relative to a base
of the same scheme. -/
def ofScheme (base? : Option Url) (parts : Parts) (scheme rest : List Char) : Except Fault Url :=
  match familyOf scheme with
  | .file => ofFile parts rest
  | .web =>
    match base?.filter fun base =>
        base.scheme == scheme && (rest.takeWhile Family.web.isSlash).length < 2 with
    | some base => ofRelative base parts rest
    | none => ofAuthority scheme parts (rest.dropWhile Family.web.isSlash)
  | .other =>
    let query := parts.writtenQuery .other
    let fragment := parts.writtenFragment
    match rest with
    | '/' :: '/' :: text => ofAuthority scheme parts text
    | '/' :: text => .ok ⟨scheme, none, .segments (addPath .other [] text), query, fragment⟩
    | text => .ok ⟨scheme, none, .flat (escape controlSet text), query, fragment⟩

/-- The address that a text writes. -/
def ofText (base? : Option Url) (cs : List Char) : Except Fault Url :=
  let parts := Parts.ofText (clean cs)
  match cutScheme parts.front with
  | some (scheme, rest) => ofScheme base? parts scheme rest
  | none =>
    match base? with
    | none => .error .noScheme
    | some base => ofRelative base parts parts.front

/-- An absolute address. -/
def parse (text : String) : Except Fault Url :=
  ofText none text.toList

/-- An absolute address, or one relative to a base on the web. -/
def resolve (base : Url) (text : String) : Except Fault Url :=
  ofText (some base) text.toList

/-- The text before the fragment. -/
def target (u : Url) : List Char :=
  u.scheme ++ ':' ::
    ((match u.authority with
      | some a => '/' :: '/' :: a.write
      | none => if u.path.startsDouble then ['/', '.'] else []) ++
    u.path.write ++
    match u.query with
    | none => []
    | some q => '?' :: q)

def write (u : Url) : List Char :=
  u.target ++
    match u.fragment with
    | none => []
    | some f => '#' :: f

def text (u : Url) : String :=
  String.ofList u.write

/-- The host, unless it is empty. -/
def host? (u : Url) : Option Host :=
  u.authority.bind fun a => if a.host.isEmpty then none else some a.host

/-- The pairs of the query. -/
def pairs (u : Url) : List (String × String) :=
  Form.decode (u.query.getD [])

end Url

end Wayfare
