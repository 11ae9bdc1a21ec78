import Wayfare.Page.Envelope
import Wayfare.Token.Exchange

/-!
Clients. A client is fixed once it is made; what changes with its calls is a session, and what a call
does to it is an action.
-/
namespace Wayfare

structure Client where
  settings : Settings
  /-- Where tokens are exchanged. -/
  tokenUrl : Url

/-- A client of some settings. -/
def Client.make (settings : Settings) : Except SettingsError Client :=
  settings.credentials.tokenUrl.map fun url => ⟨settings, url⟩

/-- What the calls of a client change: its token desk, and the network behind it. -/
structure Session (σ : Type) where
  desk : Desk := {}
  world : σ

/-- What a request was about. -/
structure Descriptor where
  method : Method
  path : String
  /-- The query of a get or delete, or the body of a post. -/
  params : Json

/-- A decoded answer. -/
structure Response (α : Type) where
  data : α
  status : Nat
  request : Descriptor

/-- The outcome of a call: a result or an error. A call without either broke off. -/
abbrev Called (α : Type) := Option (Except CallError α)

/-- What a call makes of a session, and what it tells on the way. -/
structure Done (σ α : Type) where
  result : Called α
  session : Session σ
  journal : Journal

/-- An action on a session. -/
abbrev Action (σ α : Type) := Session σ → Done σ α

/-- What asking for a token comes to: a token or an error, or neither if the exchange broke off. -/
structure Acquired (σ : Type) where
  result : Option (Except TokenError Secret)
  session : Session σ
  happenings : List Desk.Happening

/-- A way to ask for a token. -/
abbrev Acquisition (σ : Type) := Session σ → Acquired σ

namespace Done

/-- An outcome that left the session as it was. -/
def still (session : Session σ) (result : Called α) (journal : Journal := []) : Done σ α :=
  ⟨result, session, journal⟩

/-- The same with its result changed. -/
def map (f : α → β) (d : Done σ α) : Done σ β :=
  { d with result := d.result.map (·.map f) }

theorem result_map_eq_ok_iff {f : α → β} {d : Done σ α} {b : β} :
    (d.map f).result = some (.ok b) ↔ ∃ a, d.result = some (.ok a) ∧ f a = b := by
  obtain ⟨_ | e | a, session, journal⟩ := d <;> simp [map, Except.map]

theorem result_map_eq_error_iff {f : α → β} {d : Done σ α} {e : CallError} :
    (d.map f).result = some (.error e) ↔ d.result = some (.error e) := by
  obtain ⟨_ | e | a, session, journal⟩ := d <;> simp [map, Except.map]

/-- The same with entries around what was told. -/
def surround (before : Journal) (after : Called α → Journal) (d : Done σ α) : Done σ α :=
  { d with journal := before ++ d.journal ++ after d.result }

end Done

namespace Client

/-- Forgets the cached token. -/
def invalidate (session : Session σ) : Session σ :=
  { session with desk := session.desk.invalidate }

/-- Asks for a token while no other call waits for one: it is the cached one, or that of a new
exchange. -/
def obtain (client : Client) (network : Network σ) : Acquisition σ := fun session =>
  let (now, world) := network.clock session.world
  let (result, desk, world, happenings) :=
    session.desk.acquire (Exchange.run network client.settings client.tokenUrl) now world
  ⟨result, ⟨desk, world⟩, happenings⟩

/-- A valid token. -/
def acquire (client : Client) (network : Network σ) (outer : Option Span) :
    Action σ Secret := fun session =>
  let acquired := client.obtain network session
  ⟨acquired.result.map (·.mapError .token), acquired.session,
    Desk.journal outer acquired.happenings⟩

def debugText (client : Client) (desk : Desk) : String :=
  "Client \x7b base_url: " ++ Text.quoted client.settings.credentials.baseUrl ++
    ", application_name: " ++ Text.quoted client.settings.applicationName ++ ", tokens: " ++
    desk.debugText ++ " \x7d"

/-- The text that shows where a client exchanges its credentials. -/
def exchangeText (client : Client) : String :=
  "BasicFacade \x7b token_url: " ++ Text.quoted client.tokenUrl.text ++ " \x7d"

end Client

end Wayfare
