import Wayfare.Url.Address

/-!
Addresses on the wire. Of an address the fragment is not sent, and its authority has to be made of the
characters of a request line.
-/
namespace Wayfare.Url

/-- Why no request can be prepared for an address. -/
inductive WireFault where
  | tooLong
  | schemeTooLong
  | badCharacter
  | badAuthority
  /-- Nothing to connect to. -/
  | noAuthority
  deriving DecidableEq, Repr

def WireFault.message : WireFault → String
  | .tooLong => "uri too long"
  | .schemeTooLong => "scheme too long"
  | .badCharacter => "invalid uri character"
  | .badAuthority => "invalid authority"
  | .noAuthority => "invalid format"

/-- The characters that may stand in an authority, escapes apart. -/
def isWireChar (c : Char) : Bool :=
  c.isAlphanum || "!$&'()*+,-.:;=@[]_~".toList.contains c

/-- What was seen of an authority. -/
structure AuthorityScan where
  /-- The colons since the last at sign or closing bracket. -/
  colons : Nat := 0
  opened : Bool := false
  closed : Bool := false
  /-- An escape since the last at sign or closing bracket. -/
  escaped : Bool := false
  /-- The last character was an at sign. -/
  afterAt : Bool := false

namespace AuthorityScan

/-- One character more. -/
def step (s : AuthorityScan) (c : Char) : Except WireFault AuthorityScan :=
  let s := { s with afterAt := c == '@' }
  if c == ':' then
    if 8 ≤ s.colons then .error .badAuthority else .ok { s with colons := s.colons + 1 }
  else if c == '[' then
    if s.escaped || s.opened then .error .badAuthority else .ok { s with opened := true }
  else if c == ']' then
    if !s.opened || s.closed then .error .badAuthority
    else .ok { s with closed := true, colons := 0, escaped := false }
  else if c == '@' then .ok { s with colons := 0, escaped := false }
  else if c == '%' then .ok { s with escaped := true }
  else if isWireChar c then .ok s
  else .error .badCharacter

/-- Escapes may stand in the user information only, colons before a port only. -/
def isSound (s : AuthorityScan) : Bool :=
  s.opened == s.closed && s.colons ≤ 1 && !s.afterAt && !s.escaped

end AuthorityScan

/-- The fault of an authority, or of what stands in its place. -/
def authorityFault? (cs : List Char) : Option WireFault :=
  match cs.foldlM AuthorityScan.step {} with
  | .error f => some f
  | .ok s => if s.isSound then none else some .badAuthority

/-- Why no request for the address can be prepared. -/
def wireFault? (u : Url) : Option WireFault :=
  if 65534 < u.write.length then some .tooLong
  else match u.authority with
    | none =>
      let front := u.target.takeWhile fun c => c != '/' && c != '?'
      (authorityFault? front).or (some .noAuthority)
    | some a =>
      if 64 < u.scheme.length then some .schemeTooLong
      else (authorityFault? a.write).or (if a.write.isEmpty then some .noAuthority else none)

/-- The address as it is sent: without fragment, and with a slash for an empty path. -/
def onWire (u : Url) : Url :=
  { u with
    path := if u.path = .segments [] then .segments [[]] else u.path
    fragment := none }

/-- Whether there is a way to send requests to the address. -/
def isReachable (u : Url) : Bool :=
  u.scheme == "http".toList || u.scheme == "https".toList

end Wayfare.Url
