import Wayfare.Proofs.Client.Dispatch
import Wayfare.Proofs.Token.Veil
import Wayfare.Proofs.Url.Form

/-!
Calls behind the veil. Of the parameters of a call only the names of its outermost fields show. On
networks that play a script, what a call tells and what it leaves is the same behind the veil.
-/
namespace Wayfare

/-! ## Parameters -/

/-- The parameters behind the veil: of the outermost fields only the names show. -/
def Json.veiled : Json → Json
  | .object fields => .object (fields.map (Prod.map id fun _ => .null))
  | j => j

theorem payloadSummary_veiled (params : Json) :
    payloadSummary params.veiled = payloadSummary params := by
  cases params with
  | object fields => simp [Json.veiled, payloadSummary, Fields.names, Function.comp_def]
  | _ => rfl

theorem Page.fieldsOrNone_veiled (params : Json) :
    fieldsOrNone params.veiled = (fieldsOrNone params).map (Prod.map id fun _ => Json.null) := by
  cases params <;> rfl

theorem Page.withOffset_veiled (params : Json) (offset : String) :
    (withOffset params offset).veiled =
      .object (Fields.insert "page" .null (fieldsOrNone params.veiled)) := by
  rw [fieldsOrNone_veiled, withOffset, Json.veiled, Fields.map_insert]

theorem Query.encode_veiled {params other : Json} (h : params.veiled = other.veiled) :
    (∃ e, encode params = .error e ∧ encode other = .error e) ∨
      ∃ pairs pairs', encode params = .ok pairs ∧ encode other = .ok pairs' := by
  cases params with
  | null =>
    cases other <;> cases h
    exact .inr ⟨_, _, rfl, rfl⟩
  | object fields =>
    cases other <;> first | exact .inr ⟨_, _, rfl, rfl⟩ | cases h
  | _ =>
    cases other <;> cases h
    exact .inl ⟨_, rfl, rfl⟩

def Descriptor.veiled (d : Descriptor) : Descriptor :=
  { d with params := d.params.veiled }

/-! ## Sessions -/

variable {σ α : Type}

def Session.veiled (session : Session σ) : Session σ :=
  { session with desk := session.desk.veiled }

def Acquired.veiled (a : Acquired σ) : Acquired σ :=
  ⟨a.result.map veiledResult, a.session.veiled, a.happenings.map Desk.Happening.veiled⟩

def Response.veiled (r : Response α) : Response α :=
  { r with request := r.request.veiled }

/-- What an action comes to behind the veil, with a veil for its result. -/
def Done.veiled (veil : α → α) (d : Done σ α) : Done σ α :=
  ⟨d.result.map (·.map veil), d.session.veiled, d.journal⟩

/-- The client with another secret. -/
def Client.withSecret (client : Client) (secret : Secret) : Client :=
  { client with
    settings := { client.settings with
      credentials := { client.settings.credentials with clientSecret := secret } } }

/-! ## Scripts -/

/-- What a script sees of a request. -/
structure Arrival where
  path : Url.Path
  /-- Whether credentials are exchanged: every other request carries a reference. -/
  exchanges : Bool

def Request.arrival (r : Request) : Arrival :=
  ⟨r.url.path, r.headers.all (·.1 != Client.referenceHeader)⟩

/-- What a network answers and what its clock shows. Answers are chosen by path and order of arrival. -/
structure Script where
  /-- The answer to a request that arrives behind others. -/
  answer : List Arrival → Arrival → Except NetworkFault Answer
  /-- What the clock shows at each reading. -/
  clock : Nat → Instant

/-- The network that plays a script. Its state is what has arrived, and how often its clock was read. -/
def Script.network (script : Script) : Network (List Arrival × Nat) where
  send r s := (script.answer s.1 r.arrival, s.1 ++ [r.arrival], s.2)
  clock s := (script.clock s.2, s.1, s.2 + 1)

/-- Scripts that are the same but for the tokens in answers to exchanges. -/
structure Script.Alike (script other : Script) : Prop where
  clock : script.clock = other.clock
  answer : ∀ before arrival, arrival.exchanges = false →
    script.answer before arrival = other.answer before arrival
  exchange : ∀ before arrival, arrival.exchanges = true →
    Exchange.Alike (script.answer before arrival) (other.answer before arrival)

theorem Script.Alike.clock_network {script other : Script} (h : script.Alike other) :
    script.network.clock = other.network.clock := by
  simp only [Script.network, h.clock]

/-- Ways to ask for a token that come to the same behind the veil, and tell the same. -/
def Acquisition.Alike (ask ask' : Acquisition σ) : Prop :=
  ∀ ⦃session session' : Session σ⦄, session.veiled = session'.veiled →
    (ask session).veiled = (ask' session').veiled

namespace Client

variable {script other : Script}

/-! ## Tokens -/

theorem arrival_exchange (settings : Settings) (url : Url) :
    (Exchange.request settings url).arrival = ⟨url.onWire.path, true⟩ := by
  simp [Request.arrival, Exchange.request, referenceHeader]

theorem exchange_alike (h : script.Alike other) (client : Client) (secret : Secret)
    (s : List Arrival × Nat) :
    Prod.map (Option.map Grant.veiled) id
        (Exchange.run script.network client.settings client.tokenUrl s) =
      Prod.map (Option.map Grant.veiled) id
        (Exchange.run other.network (client.withSecret secret).settings
          (client.withSecret secret).tokenUrl s) := by
  refine Exchange.run_veiled h.clock_network ?_ ?_
  · simp only [Script.network, arrival_exchange]
    exact h.exchange _ _ rfl
  · simp only [Script.network, arrival_exchange]

/-- Behind the veil a call for a token is one at the veiled desk, with veiled exchanges. -/
theorem obtain_veiled (client : Client) (network : Network σ) (session : Session σ) :
    (client.obtain network session).veiled =
      let (now, world) := network.clock session.world
      let (result, desk, world, happenings) := session.desk.veiled.acquire
        (fun s => Prod.map (Option.map Grant.veiled) id
          (Exchange.run network client.settings client.tokenUrl s)) now world
      ⟨result, ⟨desk, world⟩, happenings⟩ := by
  simp only [obtain, Desk.acquire_veiled]
  rfl

theorem obtain_alike (h : script.Alike other) (client : Client) (secret : Secret) :
    (client.obtain script.network).Alike ((client.withSecret secret).obtain other.network) := by
  intro session session' hsession
  obtain ⟨hdesk, hworld⟩ := Session.mk.inj hsession
  have hexchange := funext (exchange_alike h client secret)
  simp only [obtain_veiled, hexchange, hdesk, hworld, h.clock_network]

/-! ## Requests -/

theorem isHeaderText_bearer (token : Secret) :
    Text.isHeaderText (bearer token) = Text.isHeaderText token.veiled.reveal := by
  have hbearer : (Text.utf8 "Bearer ").all Text.isHeaderByte = true := by decide
  rw [Secret.isHeaderText_veiled]
  simp only [Text.isHeaderText, bearer, Text.utf8, String.toList_append, Text.encodeUtf8_append,
    List.all_append] at hbearer ⊢
  rw [hbearer, Bool.true_and]

end Client

/-- Whether an address is too long to be sent. -/
def Url.isOverlong (u : Url) : Bool :=
  65534 < u.write.length

/-- An address is as long as each value in its query. -/
theorem Url.length_le_withPairs (u : Url) {pairs : List (String × String)} {pair : String × String}
    (h : pair ∈ pairs) : pair.2.toList.length ≤ (u.withPairs pairs).write.length := by
  have hvalue := (Form.length_le_appendPairs (u.query.getD []) pairs).2 pair h
  refine Nat.le_trans hvalue ?_
  generalize hquery : Form.appendPairs (u.query.getD []) pairs = query
  cases query with
  | nil => exact Nat.zero_le _
  | cons c cs =>
    simp only [withPairs, hquery, write, target, List.isEmpty_cons, Bool.false_eq_true, if_false,
      List.length_append, List.length_cons]
    omega

/-- Of the pairs behind its query an address gets no fault but that it is too long. -/
theorem Url.wireFault?_withPairs {u : Url} (hauthority : u.authority.isSome = true)
    {pairs pairs' : List (String × String)}
    (h : (u.withPairs pairs).isOverlong = (u.withPairs pairs').isOverlong) :
    (u.withPairs pairs).wireFault? = (u.withPairs pairs').wireFault? := by
  obtain ⟨authority, hauthority⟩ := Option.isSome_iff_exists.mp hauthority
  have hlength : 65534 < (u.withPairs pairs).write.length ↔
      65534 < (u.withPairs pairs').write.length := by
    simpa [isOverlong] using h
  have hboth (pairs : List (String × String)) : (u.withPairs pairs).authority = some authority :=
    hauthority
  simp only [wireFault?, hlength, hboth]
  rfl

namespace Client

/-- Cargos that travel alike. -/
inductive Cargo.Alike : Cargo → Cargo → Prop where
  | query (pairs pairs' : List Query.Pair) : Alike (.query pairs) (.query pairs')
  | body (document document' : Json) : Alike (.body document) (.body document')

theorem plan_alike {params params' : Json} (h : params.veiled = params'.veiled) (method : Method) :
    (∃ e, plan method params = .error e ∧ plan method params' = .error e) ∨
      ∃ verb cargo cargo', plan method params = .ok (verb, cargo) ∧
        plan method params' = .ok (verb, cargo') ∧ cargo.Alike cargo' := by
  cases hverb : Verb.ofMethod method with
  | error e =>
    refine .inl ⟨e, ?_, ?_⟩ <;> simp [plan, hverb, bind, Except.bind]
  | ok verb =>
    obtain rfl := Verb.ofMethod_eq_ok_iff.mp hverb
    simp only [plan_method]
    cases verb.usesQuery with
    | false => exact .inr ⟨verb, _, _, rfl, rfl, .body params params'⟩
    | true =>
      rcases Query.encode_veiled h with ⟨e, hparams, hparams'⟩ | ⟨pairs, pairs', hparams, hparams'⟩
      · refine .inl ⟨e, ?_, ?_⟩ <;> simp [hparams, hparams', Except.map]
      · refine .inr ⟨verb, .query pairs, .query pairs', ?_, ?_, .query pairs pairs'⟩ <;>
          simp [hparams, hparams', Except.map]

/-- Whether the address of a call is too long to be sent. -/
def isOverlong (settings : Settings) (d : Descriptor) : Bool :=
  (plan d.method d.params).toOption.any fun (_, cargo) =>
    (Request.to? d.method (settings.credentials.endpoint d.path) settings.timeout).any fun bare =>
      (cargo.load bare).url.isOverlong

/-- Where a request with its cargo goes. -/
theorem load_url (cargo : Cargo) {r bare : Request} (h : r.url = bare.url) :
    (cargo.load r).url = (cargo.load bare).url ∧
      (cargo.load r).url.isReachable = bare.url.isReachable ∧
      (cargo.load r).url.onWire.path = bare.url.onWire.path := by
  cases cargo with
  | query pairs =>
    simp only [Cargo.load, h, true_and]
    exact ⟨rfl, rfl⟩
  | body document => simp only [Cargo.load, h, true_and]

/-- A request of a call as a script sees it. -/
theorem arrival_request? (settings : Settings) (verb : Verb) (path : String) (cargo : Cargo)
    (token : Secret) (now : Instant) :
    (request? settings verb path cargo token now).map Request.arrival =
      (Request.to? verb.method (settings.credentials.endpoint path) settings.timeout).bind
        fun bare =>
          if Text.isHeaderText (reference settings.applicationName now) &&
            Text.isHeaderText token.veiled.reveal && bare.url.isReachable &&
            (cargo.load bare).url.wireFault?.isNone
          then some ⟨bare.url.onWire.path, false⟩ else none := by
  unfold request?
  cases Request.to? verb.method (settings.credentials.endpoint path) settings.timeout with
  | none => rfl
  | some bare =>
    simp only [Option.bind_eq_bind, Option.bind_some, headers, List.foldlM_cons, List.foldlM_nil,
      Request.withHeader?]
    cases Text.isHeaderText (reference settings.applicationName now) with
    | false => rfl
    | true =>
      simp only [if_true, Option.bind_some, isHeaderText_bearer]
      cases Text.isHeaderText token.veiled.reveal with
      | false => rfl
      | true =>
        simp only [if_true, Option.bind_some, Option.pure_def]
        generalize hfull : Request.mk bare.method bare.url
          (bare.headers ++ [(referenceHeader, reference settings.applicationName now)] ++
            [(tokenHeader, bearer token)]) bare.body bare.timeout = full
        have hurl : full.url = bare.url := by rw [← hfull]
        have hreference : (referenceHeader, reference settings.applicationName now) ∈
            full.headers := by simp [← hfull]
        obtain ⟨hsame, hreachable, hpath⟩ := load_url cargo hurl
        have hcall : (cargo.load full).headers.all (·.1 != referenceHeader) = false :=
          List.all_eq_false.mpr ⟨_, (load_spec cargo full).2 hreference, by simp⟩
        simp only [Bool.true_and, ← hsame, ← hreachable]
        cases (cargo.load full).url.isReachable && (cargo.load full).url.wireFault?.isNone with
        | false => rfl
        | true => simp [Request.arrival, hcall, hpath]

theorem authority_of_to? {method : Method} {address : String} {timeout : Nat} {r : Request}
    (h : Request.to? method address timeout = some r) : r.url.authority.isSome = true := by
  unfold Request.to? at h
  split at h
  · cases h
  · next url hurl =>
    split at h
    · cases h
    · next hhost =>
      have hauthority : url.authority.isSome = true := by
        cases hnone : url.authority with
        | none => simp [Url.host?, hnone] at hhost
        | some authority => rfl
      split at h <;> cases h
      · simpa [Url.withoutUser] using hauthority
      · exact hauthority

/-- Calls that look alike behind the veil are sent as requests that a script does not tell apart. -/
theorem arrival_alike {settings : Settings} {d d' : Descriptor} (hd : d.veiled = d'.veiled)
    (hfit : isOverlong settings d = isOverlong settings d') {verb : Verb} {cargo cargo' : Cargo}
    (hplan : plan d.method d.params = .ok (verb, cargo))
    (hplan' : plan d'.method d'.params = .ok (verb, cargo')) (hcargo : cargo.Alike cargo')
    {token token' : Secret} (htoken : token.veiled = token'.veiled) (now : Instant) :
    (request? settings verb d.path cargo token now).map Request.arrival =
      (request? settings verb d'.path cargo' token' now).map Request.arrival := by
  obtain ⟨hmethod, hpath, -⟩ := Descriptor.mk.inj hd
  have hverb := method_of_plan hplan
  have hverb' := method_of_plan hplan'
  rw [arrival_request?, arrival_request?, ← hpath, htoken]
  cases hbare : Request.to? verb.method (settings.credentials.endpoint d.path) settings.timeout with
  | none => rfl
  | some bare =>
    have hfault : (cargo.load bare).url.wireFault? = (cargo'.load bare).url.wireFault? := by
      cases hcargo with
      | body document document' => rfl
      | query pairs pairs' =>
        rw [isOverlong, isOverlong, hplan, hplan', ← hverb, ← hverb', ← hpath] at hfit
        simp only [hbare, Except.toOption, Option.any_some] at hfit
        exact Url.wireFault?_withPairs (authority_of_to? hbare) hfit
    simp only [Option.bind_some, hfault]

/-- A request of a call gets the same answer from scripts that are alike. -/
theorem transmit_alike {script other : Script} (h : script.Alike other)
    {request? request'? : Option Request}
    (harrival : request?.map Request.arrival = request'?.map Request.arrival)
    (hcall : ∀ r, request? = some r → r.arrival.exchanges = false) (s : List Arrival × Nat) :
    transmit script.network request? s = transmit other.network request'? s := by
  cases request? with
  | none =>
    cases request'? with
    | none => rfl
    | some r => cases harrival
  | some r =>
    cases request'? with
    | none => cases harrival
    | some r' =>
      have hsame : r.arrival = r'.arrival := Option.some.inj harrival
      simp only [transmit, Script.network, ← hsame, h.answer _ _ (hcall r rfl)]

/-! ## Calls -/

theorem surround_veiled (before : Journal) (kind : CallKind)
    (done : Done σ (Response α)) :
    (done.surround before (countOutcome kind)).veiled Response.veiled =
      (done.veiled Response.veiled).surround before (countOutcome kind) := by
  obtain ⟨_ | _ | _, session, journal⟩ := done <;> rfl

section Call

variable {script other : Script} {session session' : Session (List Arrival × Nat)}
  {ask ask' : Acquisition (List Arrival × Nat)} [Body α]

theorem exchanges_request? {settings : Settings} {verb : Verb} {path : String} {cargo : Cargo}
    {token : Secret} {now : Instant} {r : Request}
    (h : request? settings verb path cargo token now = some r) : r.arrival.exchanges = false := by
  have harrival := arrival_request? settings verb path cargo token now
  rw [h, Option.map_some] at harrival
  obtain ⟨bare, -, hsent⟩ := Option.bind_eq_some_iff.mp harrival.symm
  obtain ⟨-, hsent⟩ := Option.ite_none_right_eq_some.mp hsent
  rw [← Option.some.inj hsent]

theorem conclude_veiled {d d' : Descriptor} (hd : d.veiled = d'.veiled)
    (answer : Except NetworkFault Answer) :
    (conclude d answer : Except CallError (Response α)).map Response.veiled =
      (conclude d' answer : Except CallError (Response α)).map Response.veiled := by
  cases answer with
  | error fault => rfl
  | ok a =>
    simp only [conclude]
    split
    · cases (decode a.status a.body : Except CallError α) with
      | error e => rfl
      | ok data => simp [Except.map, Response.veiled, hd]
    · rfl

theorem perform_alike (h : script.Alike other) (client : Client) (secret : Secret) (span : Span)
    {d d' : Descriptor} (hd : d.veiled = d'.veiled)
    (hfit : isOverlong client.settings d = isOverlong client.settings d') {verb : Verb}
    {cargo cargo' : Cargo} (hplan : plan d.method d.params = .ok (verb, cargo))
    (hplan' : plan d'.method d'.params = .ok (verb, cargo')) (hcargo : cargo.Alike cargo')
    (hask : (ask session).veiled = (ask' session').veiled) :
    (client.perform script.network ask span verb cargo d session :
        Done _ (Response α)).veiled Response.veiled =
      ((client.withSecret secret).perform other.network ask' span verb cargo' d' session' :
          Done _ (Response α)).veiled Response.veiled := by
  unfold perform
  generalize ask session = acquired at hask
  generalize ask' session' = acquired' at hask
  obtain ⟨result, ⟨desk, world⟩, happenings⟩ := acquired
  obtain ⟨result', ⟨desk', world'⟩, happenings'⟩ := acquired'
  obtain ⟨hresult, hsession, hhappenings⟩ := Acquired.mk.inj hask
  obtain ⟨hdesk, hworld⟩ := Session.mk.inj hsession
  have htold : Desk.journal (some span) happenings = Desk.journal (some span) happenings' := by
    rw [← Desk.journal_veiled, hhappenings, Desk.journal_veiled]
  obtain rfl : world = world' := hworld
  rcases result with _ | e | token
  · rcases result' with _ | _ | _ <;> cases hresult
    simp [Done.veiled, Session.veiled, hdesk, htold]
  · rcases result' with _ | _ | _ <;> cases hresult
    simp [Done.veiled, Session.veiled, hdesk, htold, Except.map]
  · rcases result' with _ | _ | token'
    · cases hresult
    · cases hresult
    · have htoken : token.veiled = token'.veiled := Except.ok.inj (Option.some.inj hresult)
      obtain ⟨hmethod, hpath, hparams⟩ := Descriptor.mk.inj hd
      have hsummary : payloadSummary d.params = payloadSummary d'.params := by
        rw [← payloadSummary_veiled, hparams, payloadSummary_veiled]
      have harrival := arrival_alike hd hfit hplan hplan' hcargo htoken
      have htransmit := fun now => transmit_alike h (harrival now) fun r => exchanges_request?
      have hrequest : request? (client.withSecret secret).settings = request? client.settings := rfl
      simp only [h.clock_network, htransmit, hrequest]
      generalize transmit other.network _ _ = sent
      have hconclude := conclude_veiled (α := α) hd sent.1
      simp only [Done.veiled, Session.veiled, Option.map_some, hconclude, hdesk, htold, hsummary,
        hmethod, hpath]

/-- Calls that look alike behind the veil, and whose ways to a token do, come to the same there and
tell the same. -/
theorem dispatch_alike (h : script.Alike other) (client : Client) (secret : Secret)
    (kind : CallKind) {d d' : Descriptor} (hd : d.veiled = d'.veiled)
    (hfit : isOverlong client.settings d = isOverlong client.settings d')
    (hsession : session.veiled = session'.veiled)
    (hask : (ask session).veiled = (ask' session').veiled) :
    (client.dispatch script.network ask kind d session : Done _ (Response α)).veiled
        Response.veiled =
      ((client.withSecret secret).dispatch other.network ask' kind d' session' :
        Done _ (Response α)).veiled Response.veiled := by
  obtain ⟨hmethod, hpath, hparams⟩ := Descriptor.mk.inj hd
  have hspan : dispatchSpan kind d = dispatchSpan kind d' := by
    simp only [dispatchSpan, hmethod, hpath]
  simp only [dispatch, surround_veiled, hspan]
  rcases plan_alike hparams d.method with
    ⟨e, hplan, hplan'⟩ | ⟨verb, cargo, cargo', hplan, hplan', hcargo⟩
  · rw [hmethod] at hplan'
    simp only [hplan, hplan', Done.veiled, Done.still, hsession]
  · rw [hmethod] at hplan'
    simp only [hplan, hplan']
    rw [perform_alike h client secret _ hd hfit hplan hplan' hcargo hask]

end Call

end Client

end Wayfare
