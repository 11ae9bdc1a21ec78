import Wayfare.Json.Basic
import Wayfare.Json.Fault
import Wayfare.Url.Fault

/-!
The failures of this library, by cause. All their texts stand here.
-/
namespace Wayfare

/-- Why no client can be set up. -/
inductive SettingsError where
  /-- A required setting is missing or blank. -/
  | missingField (field : String)
  /-- A required variable is missing or blank. -/
  | missingVariable (name : String)
  | badBaseUrl (fault : Url.Fault)
  | badTokenEndpoint (fault : Url.Fault)
  /-- The application name cannot stand in a header. -/
  | badApplicationName (name : String)
  /-- The underlying transport could not be built. -/
  | transportBuild (reason : String)
  deriving DecidableEq, Repr

/-- Why no access token was obtained. Every caller that waits for one exchange gets the same. -/
inductive TokenError where
  /-- The server answered that it refuses the credentials. -/
  | rejected (status : Option Nat) (reason : String)
  /-- No complete answer came. -/
  | unreachable (message : String)
  /-- The server answered with something other than a usable token. -/
  | malformed (status : Option Nat) (message : String)
  deriving DecidableEq, Repr

/-- Why no complete answer came. -/
inductive NetworkFault where
  /-- No connection, or one without an answer. -/
  | refused
  /-- The connection ended within the body. -/
  | broken
  /-- The time for the answer ran out. -/
  | timedOut
  deriving DecidableEq, Repr

/-- Why a call failed. -/
inductive CallError where
  | token (error : TokenError)
  /-- The server answered with a status outside 200 to 299. -/
  | status (code : Nat) (body : Json)
  /-- No complete answer came, or the request could not be sent. -/
  | network (fault : NetworkFault)
  | unsupportedMethod (method : String)
  /-- Query parameters of another shape than an object. -/
  | invalidPayload
  /-- The payload has no form as a document. -/
  | unserializable (reason : String)
  /-- The body of a successful answer is not the wanted document. -/
  | decode (status : Nat) (fault : Json.Fault)
  /-- A blank identifier in the path of a resource. -/
  | missingParameter (name : String)
  deriving Repr

/-- Any failure of this library. -/
inductive Failure where
  | settings (error : SettingsError)
  | call (error : CallError)

/-- The body that stands for an absent body of a failure. -/
def genericFailureMessage : String :=
  "An error occurred while making the request"

namespace SettingsError

def message : SettingsError → String
  | .missingField field => "Missing required setting `" ++ field ++ "`."
  | .missingVariable name => "Environment variable `" ++ name ++ "` is not set."
  | .badBaseUrl _ => "Base URL is invalid."
  | .badTokenEndpoint _ => "Token endpoint URL is invalid."
  | .badApplicationName name => "Application name `" ++ name ++ "` is not a valid header value."
  | .transportBuild _ => "HTTP client could not be constructed."

end SettingsError

namespace TokenError

def message : TokenError → String
  | .rejected _ reason =>
    "Authorization server rejected the client credentials: " ++ reason ++ "."
  | .unreachable message => "Authorization server could not be reached: " ++ message ++ "."
  | .malformed _ message => "Token endpoint returned a malformed response: " ++ message ++ "."

/-- The status of the server's answer, where one came. -/
def status : TokenError → Option Nat
  | .rejected status _ => status
  | .unreachable _ => none
  | .malformed status _ => status

end TokenError

namespace CallError

def message : CallError → String
  | .token error => error.message
  | .status code _ => "Upstream API responded with HTTP " ++ toString code ++ "."
  | .network _ => "Network error occurred while calling the upstream API."
  | .unsupportedMethod method => "Unsupported HTTP method: " ++ method ++ "."
  | .invalidPayload => "Request payload is invalid: query parameters must be a JSON object."
  | .unserializable _ => "Request payload could not be serialized."
  | .decode code _ =>
    "Response body returned with HTTP " ++ toString code ++ " could not be decoded."
  | .missingParameter name => "Missing required parameter `" ++ name ++ "`."

/-- The server's body, or the generic message where the server sent none. -/
def body : CallError → Json
  | .status _ body => body
  | _ => .string genericFailureMessage

end CallError

/-- Whether a resource call failed on the wire or at the server. -/
def Failure.isTransport : Failure → Bool
  | .call (.status ..) | .call (.network _) => true
  | _ => false

end Wayfare
