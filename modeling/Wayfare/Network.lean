import Wayfare.Error
import Wayfare.Json.Reader
import Wayfare.Text.Base64
import Wayfare.Text.Blank
import Wayfare.Text.Header
import Wayfare.Time.Instant
import Wayfare.Url.Wire
import Wayfare.Verb

/-!
Requests, answers, and the network between them. A network is a parameter of all that follows: any
state, and for each request an answer or the reason why no complete one came.
-/
namespace Wayfare

structure Request where
  method : Method
  url : Url
  /-- Names and values, in the order in which they are sent. -/
  headers : List (String × String)
  body : Option String
  /-- How many milliseconds the answer may take. -/
  timeout : Nat

/-- A complete answer. -/
structure Answer where
  status : Nat
  headers : List (String × List UInt8)
  body : List UInt8

/-- A network with its clock, over some state. -/
structure Network (σ : Type) where
  send : Request → σ → Except NetworkFault Answer × σ
  clock : σ → Instant × σ

/-- The network on which no connection succeeds. -/
def Network.down (now : Instant) : Network Unit where
  send _ _ := (.error .refused, ())
  clock _ := (now, ())

/-- Status codes of success. -/
def isSuccess (status : Nat) : Bool :=
  200 ≤ status && status < 300

namespace Answer

/-- The first header of a name, in any case. -/
def header? (a : Answer) (name : String) : Option (List UInt8) :=
  (a.headers.find? fun (n, _) => Text.lowerAscii n == Text.lowerAscii name).map (·.2)

/-- A body without anything but blanks. -/
def isBlank (body : List UInt8) : Bool :=
  body.all Text.isBlankByte

/-- The body of a failure: the document, or other text as it stands, or for a blank body the generic
message. -/
def failureBody (body : List UInt8) : Json :=
  if isBlank body then .string genericFailureMessage
  else (Json.parse? body).getD (.string (Text.lossyString body))

end Answer

/-- The failure that an answer reports. -/
def CallError.ofAnswer (status : Nat) (body : List UInt8) : CallError :=
  .status status (Answer.failureBody body)

namespace Url

/-- The text that an escaped part of the user information stands for. -/
def userText? (cs : List Char) : Option String :=
  (Text.decodeUtf8? (unescape (Text.encodeUtf8 cs))).map String.ofList

/-- The header value that shows the user of an address. Of a user without name and readable password
none is shown. -/
def userHeader? (u : Url) : Option String :=
  u.authority.bind fun a =>
    (userText? a.username).bind fun user =>
      let password := if a.password.isEmpty then none else userText? a.password
      if user.isEmpty && password.isNone then none
      else
        let shown := user ++ ":" ++ password.getD ""
        some ("Basic " ++ String.ofList (Text.base64 (Text.utf8 shown)))

/-- The address without user information. -/
def withoutUser (u : Url) : Url :=
  { u with authority := u.authority.map fun a => { a with username := [], password := [] } }

/-- The address with pairs behind its query; an empty query disappears. -/
def withPairs (u : Url) (pairs : List (String × String)) : Url :=
  let query := Form.appendPairs (u.query.getD []) pairs
  { u with query := if query.isEmpty then none else some query }

end Url

/-- A request to an address that names a host. User information moves from the address to a header. -/
def Request.to? (method : Method) (address : String) (timeout : Nat) : Option Request :=
  match Url.parse address with
  | .error _ => none
  | .ok url =>
    if url.host?.isNone then none
    else match url.userHeader? with
      | some value => some ⟨method, url.withoutUser, [("Authorization", value)], none, timeout⟩
      | none => some ⟨method, url, [], none, timeout⟩

/-- The request with one header more; its value has to be sendable. -/
def Request.withHeader? (r : Request) (name value : String) : Option Request :=
  if Text.isHeaderText value then some { r with headers := r.headers ++ [(name, value)] } else none

end Wayfare
