import Wayfare.Client.Basic
import Wayfare.Client.Headers
import Wayfare.Json.Printer
import Wayfare.Query

/-!
Dispatch of a call: the verb and its query are checked, a token is acquired, one request is sent, and
its answer is decoded. Nothing is sent twice.
-/
namespace Wayfare.Client

/-- How the parameters of a request travel. -/
inductive Cargo where
  | query (pairs : List Query.Pair)
  | body (document : Json)

/-- The verb of a method, and how it carries the parameters. -/
def plan (method : Method) (params : Json) : Except CallError (Verb × Cargo) := do
  let verb ← Verb.ofMethod method
  if verb.usesQuery then
    let pairs ← Query.encode params
    return (verb, .query pairs)
  else
    return (verb, .body params)

namespace Cargo

/-- The request with its cargo. -/
def load (cargo : Cargo) (r : Request) : Request :=
  match cargo with
  | .query pairs => { r with url := r.url.withPairs pairs }
  | .body document =>
    { r with
      headers := r.headers ++ [("Content-Type", "application/json")]
      body := some document.render }

end Cargo

/-- The request of a call, if its address and its headers can be sent. -/
def request? (settings : Settings) (verb : Verb) (path : String) (cargo : Cargo) (token : Secret)
    (now : Instant) : Option Request := do
  let bare ← Request.to? verb.method (settings.credentials.endpoint path) settings.timeout
  let r ← (headers settings.applicationName token now).foldlM
    (fun r (name, value) => r.withHeader? name value) bare
  let r := cargo.load r
  if r.url.isReachable && r.url.wireFault?.isNone then some { r with url := r.url.onWire } else none

/-- Sends a request, if there is one to send. -/
def transmit (network : Network σ) (request? : Option Request) (s : σ) :
    Except NetworkFault Answer × σ :=
  match request? with
  | none => (.error .refused, s)
  | some r => network.send r s

/-- The document of a successful body: a blank body stands for null. -/
def decode [Body α] (status : Nat) (body : List UInt8) : Except CallError α :=
  let body := if Answer.isBlank body then Text.utf8 "null" else body
  match (Body.shape α).readFirst body with
  | .ok j => .ok (Body.ofView j)
  | .error f => .error (.decode status f)

/-- What a call makes of its answer. -/
def conclude [Body α] (request : Descriptor) (answer : Except NetworkFault Answer) :
    Except CallError (Response α) :=
  match answer with
  | .error f => .error (.network f)
  | .ok a =>
    if isSuccess a.status then (decode a.status a.body).map fun data => ⟨data, a.status, request⟩
    else .error (.ofAnswer a.status a.body)

/-- What is told of an answer. -/
def answerEvent (span : Span) (method : Method) (path : String) (answer : Except NetworkFault Answer) :
    Event :=
  let target : List (String × Datum) :=
    [("method", .text method.name), ("path", .text path), ("elapsed_ms", .clock)]
  match answer with
  | .error f =>
    ⟨.error, "Request failed.", target ++ [("error", .text (CallError.network f).message)], span⟩
  | .ok a =>
    let data := target ++ [("status", .text (toString a.status))]
    if isSuccess a.status then ⟨.info, "Request completed.", data, span⟩
    else ⟨.error, "Upstream API returned an error.", data, span⟩

/-- A call whose verb was found, within its span. -/
def perform [Body α] (client : Client) (network : Network σ) (ask : Acquisition σ) (span : Span)
    (verb : Verb) (cargo : Cargo) (descriptor : Descriptor) : Action σ (Response α) := fun session =>
  let acquired := ask session
  let told := Desk.journal (some span) acquired.happenings
  match acquired.result with
  | none => ⟨none, acquired.session, told⟩
  | some (.error e) => ⟨some (.error (.token e)), acquired.session, told⟩
  | some (.ok token) =>
    let (now, world) := network.clock acquired.session.world
    let request := request? client.settings verb descriptor.path cargo token now
    let (answer, world) := transmit network request world
    ⟨some (conclude descriptor answer), { acquired.session with world },
      told ++
        [.event ⟨.debug, "Dispatching request.",
            [("payload_keys", .text (payloadSummary descriptor.params))], span⟩,
          .event (answerEvent span descriptor.method descriptor.path answer)]⟩

/-- The span of a call. -/
def dispatchSpan (kind : CallKind) (request : Descriptor) : Span :=
  ⟨kind, .dispatch, some (request.method.name, request.path)⟩

/-- How an outcome is counted; a call that broke off is not. -/
def countOutcome (kind : CallKind) (result : Called α) : Journal :=
  match result with
  | none => []
  | some r => [.counted kind (Outcome.ofResult r)]

/-- One call of some kind, with some way to ask for its token. -/
def dispatch [Body α] (client : Client) (network : Network σ) (ask : Acquisition σ)
    (kind : CallKind) (descriptor : Descriptor) : Action σ (Response α) := fun session =>
  let span := dispatchSpan kind descriptor
  let done : Done σ (Response α) := match plan descriptor.method descriptor.params with
    | .error e => .still session (some (.error e))
    | .ok (verb, cargo) => client.perform network ask span verb cargo descriptor session
  done.surround [.opened span, .counted kind .attempt] (countOutcome kind)

/-- A request with any method, with some way to ask for its token; only those of a verb are sent. -/
def requestWith [Body α] (client : Client) (network : Network σ) (ask : Acquisition σ)
    (method : Method) (path : String) (params : Json) : Action σ (Response α) :=
  client.dispatch network ask .request ⟨method, path, params⟩

/-- The same while no other call waits for a token. -/
def request [Body α] (client : Client) (network : Network σ) (method : Method) (path : String)
    (params : Json) : Action σ (Response α) :=
  client.requestWith network (client.obtain network) method path params

/-- Parameters as they are given: a document, or a value that has no form as one. -/
inductive Payload where
  | document (j : Json)
  | formless (reason : String)

/-- A request with a verb. -/
def call [Body α] (client : Client) (network : Network σ) (verb : Verb) (path : String)
    (payload : Payload) : Action σ (Response α) := fun session =>
  match payload with
  | .document params => client.request network verb.method path params session
  | .formless reason => .still session (some (.error (.unserializable reason)))

end Wayfare.Client
