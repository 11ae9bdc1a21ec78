import Wayfare.Error
import Wayfare.Text.Header
import Wayfare.Text.Digits
import Wayfare.Text.Quoted
import Wayfare.Token.Secret
import Wayfare.Url.Address

/-!
Settings of a client. They are checked once, in a fixed order, when they are put together.
-/
namespace Wayfare

/-- Where the interface stands, and the identity shown to it. -/
structure Credentials where
  /-- The base address, without slashes at its end. -/
  baseUrl : String
  clientId : String
  clientSecret : Secret
  deriving DecidableEq

/-- All that a client has to know. -/
structure Settings where
  credentials : Credentials
  applicationName : String
  /-- How many milliseconds an answer may take. -/
  timeout : Nat
  deriving DecidableEq

/-- A value that is not blank. -/
def required (field value : String) : Except SettingsError String :=
  if Text.allBlank value then .error (.missingField field) else .ok value

/-- The text without the slashes at its end. -/
def dropEndSlashes (s : String) : String :=
  String.ofList (s.toList.reverse.dropWhile (· == '/')).reverse

namespace Credentials

/-- Checks that nothing is blank, and then that the base is an address. -/
def make (baseUrl clientId clientSecret : String) : Except SettingsError Credentials := do
  let baseUrl ← required "base_url" baseUrl
  let clientId ← required "client_id" clientId
  let clientSecret ← required "client_secret" clientSecret
  match Url.parse baseUrl with
  | .error fault => .error (.badBaseUrl fault)
  | .ok _ => .ok ⟨dropEndSlashes baseUrl, clientId, ⟨clientSecret⟩⟩

/-- The address of a path, as text. -/
def endpoint (c : Credentials) (path : String) : String :=
  c.baseUrl ++ path

def debugText (c : Credentials) : String :=
  "Credentials \x7b base_url: " ++ Text.quoted c.baseUrl ++ ", client_id: " ++
    Text.quoted c.clientId ++ ", client_secret: " ++ Text.quoted redacted ++ " \x7d"

/-- The path at which tokens are exchanged. -/
def tokenPath : String := "/v1/security/oauth2/token"

/-- The address at which tokens are exchanged. -/
def tokenUrl (c : Credentials) : Except SettingsError Url :=
  (Url.parse (c.endpoint tokenPath)).mapError .badTokenEndpoint

end Credentials

/-- The milliseconds that an answer may take where the settings say nothing. -/
def defaultTimeout : Nat := 60000

/-- Settings that are not checked yet; what is not given counts as empty. -/
structure Settings.Draft where
  baseUrl : Option String := none
  clientId : Option String := none
  clientSecret : Option String := none
  applicationName : Option String := none
  timeout : Nat := defaultTimeout

namespace Settings

/-- The credentials come first, then the application name. -/
def ofDraft (d : Draft) : Except SettingsError Settings := do
  let credentials ←
    Credentials.make (d.baseUrl.getD "") (d.clientId.getD "") (d.clientSecret.getD "")
  let applicationName ← required "application_name" (d.applicationName.getD "")
  if Text.isHeaderText applicationName then .ok ⟨credentials, applicationName, d.timeout⟩
  else .error (.badApplicationName applicationName)

def baseUrlVariable : String := "AMADEUS_API_URL"
def clientIdVariable : String := "AMADEUS_API_KEY"
def clientSecretVariable : String := "AMADEUS_API_SECRET"
def applicationNameVariable : String := "AMADEUS_APP_NAME"

/-- The variables that hold the settings, in the order of their look-up. -/
def «variables» : List String :=
  [baseUrlVariable, clientIdVariable, clientSecretVariable, applicationNameVariable]

/-- A variable that is set and not blank. -/
def fetch (lookup : String → Option String) (name : String) : Except SettingsError String :=
  match (lookup name).filter (!Text.allBlank ·) with
  | some value => .ok value
  | none => .error (.missingVariable name)

/-- The settings that variables hold. -/
def ofLookup (lookup : String → Option String) : Except SettingsError Settings := do
  let baseUrl ← fetch lookup baseUrlVariable
  let clientId ← fetch lookup clientIdVariable
  let clientSecret ← fetch lookup clientSecretVariable
  let applicationName ← fetch lookup applicationNameVariable
  ofDraft { baseUrl, clientId, clientSecret, applicationName }

/-- The variables that are looked up: all of them, or those up to the first that is missing. -/
def asked (lookup : String → Option String) : List String → List String
  | [] => []
  | name :: rest =>
    name :: match fetch lookup name with
      | .ok _ => asked lookup rest
      | .error _ => []

/-- Milliseconds as a length of time: whole seconds, with a fraction if there is one, or below a
second milliseconds. -/
def timeoutText (milliseconds : Nat) : String :=
  if milliseconds = 0 then "0ns"
  else if milliseconds < 1000 then toString milliseconds ++ "ms"
  else
    let fraction := Text.dropEndZeros (Text.padded 3 (milliseconds % 1000))
    toString (milliseconds / 1000) ++ (if fraction.isEmpty then "" else "." ++ fraction) ++ "s"

def debugText (s : Settings) : String :=
  "ClientConfig \x7b credentials: " ++ s.credentials.debugText ++ ", application_name: " ++
    Text.quoted s.applicationName ++ ", timeout: " ++ timeoutText s.timeout ++ " \x7d"

/-- A value that may be absent. -/
def optionText : Option String → String
  | none => "None"
  | some s => "Some(" ++ Text.quoted s ++ ")"

def Draft.debugText (d : Draft) : String :=
  "ClientConfigBuilder \x7b base_url: " ++ optionText d.baseUrl ++ ", client_id: " ++
    optionText d.clientId ++ ", client_secret: " ++ optionText d.clientSecret ++
    ", application_name: " ++ optionText d.applicationName ++ ", timeout: " ++
    timeoutText d.timeout ++ " \x7d"

end Settings

end Wayfare
