import Wayfare.Url.Host
import Wayfare.Url.Path

/-!
Authorities: the host of an address, with the port and the user that may stand around it.
-/
namespace Wayfare.Url

/-- A host with a port and with user information, which is kept escaped; an absent part of it is
empty. -/
structure Authority where
  username : List Char := []
  password : List Char := []
  host : Host
  /-- The port, where it is another than the scheme's own. -/
  port : Option Nat := none
  deriving DecidableEq, Repr

namespace Authority

/-- User information up to its at sign. -/
def writeUser (username password : List Char) : List Char :=
  if username.isEmpty && password.isEmpty then []
  else username ++ (if password.isEmpty then [] else ':' :: password) ++ ['@']

def write (a : Authority) : List Char :=
  writeUser a.username a.password ++ a.host.write ++
    match a.port with
    | none => []
    | some port => ':' :: Text.digits port

end Authority

/-- The text before the last at sign, if there is one, and the text behind it. -/
def cutUser (cs : List Char) : Option (List Char) × List Char :=
  if cs.contains '@' then
    let behind := (cs.reverse.takeWhile (· != '@')).reverse
    (some (cs.take (cs.length - behind.length - 1)), behind)
  else (none, cs)

/-- The text before the first colon outside brackets, and what follows. -/
def cutHost : (inside : Bool) → List Char → List Char × List Char
  | _, [] => ([], [])
  | inside, c :: cs =>
    if c == ':' && !inside then ([], c :: cs)
    else
      let (host, rest) := cutHost (c == '[' || (inside && c != ']')) cs
      (c :: host, rest)

/-- The port of digits, where it is not the scheme's own, and what follows it. Only a backslash
outside the web can follow, as the begin of the path. -/
def readPort (default? : Option Nat) (cs : List Char) : Except Fault (Option Nat × List Char) :=
  let digits := cs.takeWhile Char.isDigit
  let rest := cs.dropWhile Char.isDigit
  let port := digitsValue 10 digits
  if 65535 < port then .error .badPort
  else if rest.head?.any (· != '\\') then .error .badPort
  else .ok (if digits.isEmpty || some port == default? then none else some port, rest)

/-- The host of an address of the family. -/
def parseHost (family : Family) (cs : List Char) : Except Fault Host :=
  match family with
  | .other => parseOtherHost cs
  | _ => parseWebHost cs

/-- The host and port of a text, and what follows. A host may be empty outside the web, alone. -/
def readHostPort (family : Family) (default? : Option Nat) (cs : List Char) :
    Except Fault (Host × Option Nat × List Char) :=
  let (hostText, rest) := cutHost false cs
  match parseHost family hostText with
  | .error f => .error f
  | .ok host =>
    match rest with
    | [] => .ok (host, none, [])
    | _ :: digits =>
      if host.isEmpty then .error .emptyHost
      else (readPort default? digits).map fun (port, rest) => (host, port, rest)

/-- The authority of a text, and the begin of the path behind its port. `isWhole` tells that the
address holds nothing else. -/
def readAuthority (family : Family) (default? : Option Nat) (isWhole : Bool) (cs : List Char) :
    Except Fault (Authority × List Char) :=
  let (user?, hostPort) := cutUser cs
  let user := user?.getD []
  let username := escape userinfoSet (user.takeWhile (· != ':'))
  let password := escape userinfoSet ((user.dropWhile (· != ':')).drop 1)
  if user? == some [] && hostPort.isEmpty && !isWhole then .error .emptyHost
  else match readHostPort family default? hostPort with
    | .error f => .error f
    | .ok (host, port, rest) =>
      if host.isEmpty && !(username.isEmpty && password.isEmpty) then .error .emptyHost
      else .ok (⟨username, password, host, port⟩, rest)

end Wayfare.Url
