import Wayfare.Json.Shape
import Wayfare.Network
import Wayfare.Settings
import Wayfare.Token.Desk

/-!
The exchange of credentials for a token: its request, and what the server's answer amounts to.
-/
namespace Wayfare.Exchange

/-- What identifies the client, as pairs of a form. -/
def form (c : Credentials) : List (String × String) :=
  [("grant_type", "client_credentials"), ("client_id", c.clientId),
    ("client_secret", c.clientSecret.reveal)]

/-- The request for a token. -/
def request (settings : Settings) (url : Url) : Request where
  method := Verb.post.method
  url := url.onWire
  headers :=
    [("Accept", "application/json"), ("Content-Type", "application/x-www-form-urlencoded")]
  body := some (String.ofList (Url.Form.encode (form settings.credentials)))
  timeout := settings.timeout

/-- The answer that brings a token. -/
def tokenShape : Json.Shape :=
  .record "struct StandardTokenResponse" .extensible
    [⟨"access_token", .text, true⟩, ⟨"token_type", .text, true⟩,
      ⟨"expires_in", .optional (.natural 64), false⟩,
      ⟨"refresh_token", .optional .text, false⟩, ⟨"scope", .optional .text, false⟩]

/-- The answer that refuses one. -/
def refusalShape : Json.Shape :=
  .record "struct StandardErrorResponse" .tuple
    [⟨"error", .text, true⟩, ⟨"error_description", .optional .text, false⟩,
      ⟨"error_uri", .optional .text, false⟩]

/-- The text under a name; the empty text stands for none. -/
def textOf (j : Json) (name : String) : String :=
  ((j.field? name).bind Json.asString?).getD ""

/-- The reason that a refusal gives: the description, or the code of the error. -/
def refusalReason (j : Json) : String :=
  ((j.field? "error_description").bind Json.asString?).getD (textOf j "error")

/-- The reason that a body of any form gives. -/
def bodyReason (body : List UInt8) : String :=
  let text := Text.trim (Text.lossyString body)
  if text.isEmpty then "empty error response" else text

/-- The seconds that a token is to live. -/
def lifetime? (j : Json) : Option Nat :=
  (j.field? "expires_in").bind fun
    | .number (.whole n) => some n.toNat
    | _ => none

/-- The bytes of a header value as text in quotes. -/
def quotedBytes (bs : List UInt8) : String :=
  String.ofList ('"' :: bs.flatMap (fun b =>
    if b == 0x22 then ['\\', '"']
    else if b == 0x09 || (0x20 ≤ b && b < 0x7F) then [Char.ofNat b.toNat]
    else '\\' :: 'x' :: Nat.toDigits 16 b.toNat) ++ ['"'])

/-- Whether a content type is that of documents; it may go on with parameters. -/
def isDocumentType (value : List UInt8) : Bool :=
  value.all (fun b => b == 0x09 || (0x20 ≤ b && b < 0x7F)) &&
    "application/json".toList.isPrefixOf
      (value.map fun b => (Char.ofNat b.toNat).toLower)

/-- What is wrong with the frame of a token answer. -/
def frameFault? (a : Answer) : Option String :=
  match (a.header? "content-type").filter (!isDocumentType ·) with
  | some value =>
    some ("unexpected response Content-Type: " ++ quotedBytes value ++
      ", should be \x60application/json\x60")
  | none => if a.body.isEmpty then some "server returned empty response body" else none

/-- The grant of a token document. It is none if the calendar does not reach to the token's expiry. -/
def grantOfToken (now : Instant) (j : Json) : Option Grant :=
  let malformed (message : String) : Option Grant := some (.error (.malformed (some 200) message))
  match lifetime? j with
  | none => malformed "missing \x60expires_in\x60"
  | some seconds =>
    if Nat.pow 2 63 ≤ seconds then malformed "\x60expires_in\x60 overflows"
    else if seconds = 0 then malformed "\x60expires_in\x60 must be positive"
    else
      let value := textOf j "access_token"
      if value.isEmpty then malformed "empty \x60access_token\x60"
      else (AccessToken.issued? value now (seconds * perSecond)).map .ok

/-- What an answer other than 200 amounts to. -/
def refusal (a : Answer) : TokenError :=
  if a.body.isEmpty then .malformed (some a.status) "server returned empty error response"
  else match refusalShape.readFirst a.body with
    | .ok j => .rejected (some a.status) (refusalReason j)
    | .error f =>
      if isSuccess a.status then .malformed (some a.status) (f.report a.body)
      else .rejected (some a.status) (bodyReason a.body)

/-- The grant of a complete answer that came at an instant. -/
def grantOfAnswer (now : Instant) (a : Answer) : Option Grant :=
  if a.status ≠ 200 then some (.error (refusal a))
  else match frameFault? a with
    | some message => some (.error (.malformed (some a.status) message))
    | none =>
      match tokenShape.readFirst a.body with
      | .error f => some (.error (.malformed (some a.status) (f.report a.body)))
      | .ok j => grantOfToken now j

/-- What is said of an exchange without a complete answer. -/
def faultMessage (url : Url) : NetworkFault → String
  | .refused => "error sending request for url (" ++ url.onWire.text ++ ")"
  | .broken => "error decoding response body"
  | .timedOut => "request to the token endpoint timed out"

/-- One exchange over a network; without a grant it breaks off. -/
def run (network : Network σ) (settings : Settings) (url : Url) (s : σ) : Option Grant × σ :=
  match url.wireFault? with
  | some f => (some (.error (.malformed none ("failed to prepare request: " ++ f.message))), s)
  | none =>
    if !url.isReachable then
      (some (.error (.unreachable ("builder error for url (" ++ url.onWire.text ++ ")"))), s)
    else
      match network.send (request settings url) s with
      | (.error f, s) => (some (.error (.unreachable (faultMessage url f))), s)
      | (.ok a, s) =>
        let (now, s) := network.clock s
        (grantOfAnswer now a, s)

end Wayfare.Exchange
