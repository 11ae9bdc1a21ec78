import Wayfare.Proofs.Client.Counters
import Wayfare.Proofs.Client.Veil

/-!
The discretion of a client. Two runs that differ in secrets, in tokens that can be used, and in the
values of parameters tell the same, entry by entry, whatever is called, whichever pages are followed, and
in whatever way tokens are asked for.
-/
namespace Wayfare.Client

variable {σ α : Type}

/-! ## Orders -/

/-- What is asked for in one call: by any method, by a verb, or of a resource. -/
inductive Order where
  | request (method : Method) (path : String) (params : Json)
  | call (verb : Verb) (path : String) (payload : Payload)
  | collection (op : CollectionOp) (payload : Payload)
  | item (op : ItemOp) (id : String)

def Payload.veiled : Payload → Payload
  | .document params => .document params.veiled
  | .formless reason => .formless reason

namespace Order

def veiled : Order → Order
  | .request method path params => .request method path params.veiled
  | .call verb path payload => .call verb path payload.veiled
  | .collection op payload => .collection op payload.veiled
  | .item op id => .item op id

def run [Body α] (client : Client) (network : Network σ) : Order → Action σ (Response α)
  | .request method path params => client.request network method path params
  | .call verb path payload => client.call network verb path payload
  | .collection op payload => client.collection network op payload
  | .item op id => client.item network op id

/-- What a payload is sent as, if it has a form. -/
def ofPayload (verb : Verb) (path : String) : Payload → Except CallError Descriptor
  | .document params => .ok ⟨verb.method, path, params⟩
  | .formless reason => .error (.unserializable reason)

/-- What an order is dispatched as, or why it is not. -/
def descriptor : Order → Except CallError Descriptor
  | .request method path params => .ok ⟨method, path, params⟩
  | .call verb path payload => ofPayload verb path payload
  | .collection op payload => ofPayload op.verb op.path payload
  | .item op id => (op.path id).map fun path => ⟨op.verb.method, path, .null⟩

theorem ofPayload_veiled (verb : Verb) (path : String) (payload : Payload) :
    ofPayload verb path payload.veiled = (ofPayload verb path payload).map Descriptor.veiled := by
  cases payload <;> rfl

theorem descriptor_veiled (order : Order) :
    order.veiled.descriptor = order.descriptor.map Descriptor.veiled := by
  cases order with
  | request method path params => rfl
  | call verb path payload => exact ofPayload_veiled verb path payload
  | collection op payload => exact ofPayload_veiled op.verb op.path payload
  | item op id =>
    cases h : op.path id with
    | error e => simp [veiled, descriptor, h, Except.map]
    | ok path => simp [veiled, descriptor, h, Except.map, Descriptor.veiled, Json.veiled]

theorem descriptor_alike {order order' : Order} (h : order.veiled = order'.veiled) :
    order.descriptor.map Descriptor.veiled = order'.descriptor.map Descriptor.veiled := by
  rw [← descriptor_veiled, h, descriptor_veiled]

theorem call_eq [Body α] (client : Client) (network : Network σ) (verb : Verb) (path : String)
    (payload : Payload) (session : Session σ) :
    (client.call network verb path payload session : Done σ (Response α)) =
      match ofPayload verb path payload with
      | .error e => .still session (some (.error e))
      | .ok d => client.dispatch network (client.obtain network) .request d session := by
  cases payload <;> rfl

/-- An order with some way to ask for its token. -/
def runWith [Body α] (client : Client) (network : Network σ) (ask : Acquisition σ) (order : Order) :
    Action σ (Response α) := fun session =>
  match order.descriptor with
  | .error e => .still session (some (.error e))
  | .ok d => client.dispatch network ask .request d session

theorem run_eq_runWith [Body α] (client : Client) (network : Network σ) (order : Order) :
    (order.run client network : Action σ (Response α)) =
      order.runWith client network (client.obtain network) := by
  funext session
  cases order with
  | request method path params => rfl
  | call verb path payload => exact call_eq client network verb path payload session
  | collection op payload => exact call_eq client network op.verb op.path payload session
  | item op id =>
    cases h : op.path id with
    | error e => simp only [run, Client.item, runWith, descriptor, h, Except.map]
    | ok path =>
      simp only [run, Client.item, runWith, descriptor, h, Except.map]
      rfl

end Order

/-! ## Programs -/

/-- A valid token, with some way to ask for it. -/
def acquireWith (ask : Acquisition σ) (outer : Option Span) : Action σ Secret := fun session =>
  let acquired := ask session
  ⟨acquired.result.map (·.mapError .token), acquired.session,
    Desk.journal outer acquired.happenings⟩

/-- What is done with a client, step by step. What comes next may depend on what came of a step. -/
inductive Program : Type 1 where
  | finish
  | call (α : Type) [Body α] (order : Order) (next : Called (Response α) → Program)
  | page (α : Type) [Paged α] [Body α] (relation : Relation) (previous : Response α)
    (next : Called (Option (Response α)) → Program)
  | token (next : Called Secret → Program)
  | invalidate (next : Program)

/-- What a program comes to. -/
structure Outing (σ : Type) where
  /-- What its calls were to be sent for. -/
  asked : List Descriptor
  session : Session σ
  journal : Journal

/-- What a program comes to behind a step. -/
def Outing.behind (asked : List Descriptor) (journal : Journal) (rest : Outing σ) : Outing σ :=
  ⟨asked ++ rest.asked, rest.session, journal ++ rest.journal⟩

/-- What the page of an answer is dispatched as, if the answer links to it. -/
def pageDescriptor? [Paged α] (relation : Relation) (previous : Response α) : Option Descriptor :=
  (linkedOffset relation previous.data).map (pageRequest previous.request)

namespace Program

def run (client : Client) (network : Network σ) : Program → Session σ → Outing σ
  | .finish, session => ⟨[], session, []⟩
  | @call α _ order next, session =>
    let done : Done σ (Response α) := order.run client network session
    ((next done.result).run client network done.session).behind order.descriptor.toOption.toList
      done.journal
  | @page α _ _ relation previous next, session =>
    let done : Done σ (Option (Response α)) := client.page network relation previous session
    ((next done.result).run client network done.session).behind
      (pageDescriptor? relation previous).toList done.journal
  | .token next, session =>
    let done := client.acquire network none session
    ((next done.result).run client network done.session).behind [] done.journal
  | .invalidate next, session => next.run client network (Client.invalidate session)

/-- A program with some way to ask for its tokens. -/
def runWith (client : Client) (network : Network σ) (ask : Acquisition σ) :
    Program → Session σ → Outing σ
  | .finish, session => ⟨[], session, []⟩
  | @call α _ order next, session =>
    let done : Done σ (Response α) := order.runWith client network ask session
    ((next done.result).runWith client network ask done.session).behind
      order.descriptor.toOption.toList done.journal
  | @page α _ _ relation previous next, session =>
    let done : Done σ (Option (Response α)) :=
      client.pageWith network ask relation previous session
    ((next done.result).runWith client network ask done.session).behind
      (pageDescriptor? relation previous).toList done.journal
  | .token next, session =>
    let done := acquireWith ask none session
    ((next done.result).runWith client network ask done.session).behind [] done.journal
  | .invalidate next, session => next.runWith client network ask (Client.invalidate session)

theorem run_eq_runWith (client : Client) (network : Network σ) (program : Program)
    (session : Session σ) :
    program.run client network session =
      program.runWith client network (client.obtain network) session := by
  induction program generalizing session with
  | finish => rfl
  | call α order next ih => simp only [run, runWith, Order.run_eq_runWith, ih]
  | page α relation previous next ih =>
    simp only [run, ih]
    rfl
  | token next ih =>
    simp only [run, ih]
    rfl
  | invalidate next ih => exact ih _

/-- Programs that take the same steps, with values that differ behind the veil at most; so they do
whatever comes of a step, as long as it is the same behind the veil. -/
inductive Alike : Program → Program → Prop where
  | finish : Alike .finish .finish
  | call {α : Type} [Body α] {order order' : Order} {next next' : Called (Response α) → Program}
    (same : order.veiled = order'.veiled)
    (further : ∀ result result' : Called (Response α),
      result.map (·.map Response.veiled) = result'.map (·.map Response.veiled) →
        Alike (next result) (next' result')) :
    Alike (.call α order next) (.call α order' next')
  | page {α : Type} [Paged α] [Body α] {relation : Relation} {previous previous' : Response α}
    {next next' : Called (Option (Response α)) → Program}
    (same : previous.veiled = previous'.veiled)
    (further : ∀ result result' : Called (Option (Response α)),
      result.map (·.map (Option.map Response.veiled)) =
        result'.map (·.map (Option.map Response.veiled)) → Alike (next result) (next' result')) :
    Alike (.page α relation previous next) (.page α relation previous' next')
  | token {next next' : Called Secret → Program}
    (further : ∀ result result' : Called Secret,
      result.map (·.map Secret.veiled) = result'.map (·.map Secret.veiled) →
        Alike (next result) (next' result')) :
    Alike (.token next) (.token next')
  | invalidate {next next' : Program} (further : Alike next next') :
    Alike (.invalidate next) (.invalidate next')

end Program

/-! ## Steps -/

section Step

variable {script other : Script} {session session' : Session (List Arrival × Nat)}
  {ask ask' : Acquisition (List Arrival × Nat)}

theorem map_some_veiled (done : Done σ (Response α)) :
    (done.map some).veiled (Option.map Response.veiled) = (done.veiled Response.veiled).map some := by
  obtain ⟨_ | _ | _, session, journal⟩ := done <;> rfl

/-- The same of two rows of calls have addresses that are too long to be sent. -/
def SameFit (settings : Settings) (asked asked' : List Descriptor) : Prop :=
  asked.map (isOverlong settings) = asked'.map (isOverlong settings)

theorem SameFit.of_append {settings : Settings} {first first' rest rest' : List Descriptor}
    (h : SameFit settings (first ++ rest) (first' ++ rest')) (hlength : first.length = first'.length) :
    SameFit settings first first' ∧ SameFit settings rest rest' := by
  simp only [SameFit, List.map_append] at h
  exact List.append_inj h (by simpa using hlength)

theorem order_alike [Body α] (h : script.Alike other) (client : Client) (secret : Secret)
    (hask : ask.Alike ask') {order order' : Order} (hsame : order.veiled = order'.veiled)
    (hfit : SameFit client.settings order.descriptor.toOption.toList
      order'.descriptor.toOption.toList)
    (hsession : session.veiled = session'.veiled) :
    (order.runWith client script.network ask session : Done _ (Response α)).veiled
        Response.veiled =
      (order'.runWith (client.withSecret secret) other.network ask' session' :
        Done _ (Response α)).veiled Response.veiled := by
  have hdescriptor := Order.descriptor_alike hsame
  unfold Order.runWith
  generalize order.descriptor = planned at hdescriptor hfit
  generalize order'.descriptor = planned' at hdescriptor hfit
  rcases planned with e | d
  · rcases planned' with e' | d' <;> cases hdescriptor
    simp [Done.veiled, Done.still, hsession]
  · rcases planned' with e' | d'
    · cases hdescriptor
    · have hd : d.veiled = d'.veiled := Except.ok.inj hdescriptor
      have hlong : isOverlong client.settings d = isOverlong client.settings d' := by
        simpa [SameFit, Except.toOption] using hfit
      exact dispatch_alike h client secret .request hd hlong hsession (hask hsession)

theorem pageRequest_veiled {d d' : Descriptor} (h : d.veiled = d'.veiled) (offset : String) :
    (pageRequest d offset).veiled = (pageRequest d' offset).veiled := by
  obtain ⟨hmethod, hpath, hparams⟩ := Descriptor.mk.inj h
  simp only [pageRequest, Descriptor.veiled, Page.withOffset_veiled, hmethod, hpath, hparams]

theorem page_alike [Paged α] [Body α] (h : script.Alike other) (client : Client) (secret : Secret)
    (hask : ask.Alike ask') (relation : Relation) {previous previous' : Response α}
    (hsame : previous.veiled = previous'.veiled)
    (hfit : SameFit client.settings (pageDescriptor? relation previous).toList
      (pageDescriptor? relation previous').toList)
    (hsession : session.veiled = session'.veiled) :
    (client.pageWith script.network ask relation previous session).veiled
        (Option.map Response.veiled) =
      ((client.withSecret secret).pageWith other.network ask' relation previous' session').veiled
        (Option.map Response.veiled) := by
  obtain ⟨data, status, request⟩ := previous
  obtain ⟨data', status', request'⟩ := previous'
  obtain ⟨rfl, rfl, hrequest⟩ := Response.mk.inj hsame
  have hmethod : request.method = request'.method := (Descriptor.mk.inj hrequest).1
  simp only [pageWith]
  cases hlink : Paged.link relation data with
  | none => simp [Done.veiled, Done.still, hsession]
  | some link =>
    dsimp only
    cases hoffset : Page.offsetOfLink link with
    | none => simp [Done.veiled, Done.still, hsession]
    | some offset =>
      dsimp only
      rw [hmethod]
      cases Verb.ofMethod request'.method with
      | error e => simp [Done.veiled, Done.still, hsession]
      | ok verb =>
        have hlong : isOverlong client.settings (pageRequest request offset) =
            isOverlong client.settings (pageRequest request' offset) := by
          simpa [SameFit, pageDescriptor?, linkedOffset, hlink, hoffset] using hfit
        have hdispatch := dispatch_alike (α := α) h client secret .page
          (pageRequest_veiled hrequest offset) hlong hsession (hask hsession)
        simp only [map_some_veiled, hdispatch]

theorem acquireWith_veiled (ask : Acquisition σ) (outer : Option Span) (session : Session σ) :
    (acquireWith ask outer session).veiled Secret.veiled =
      let acquired := (ask session).veiled
      ⟨acquired.result.map (·.mapError .token), acquired.session,
        Desk.journal outer acquired.happenings⟩ := by
  simp only [acquireWith, Acquired.veiled, Desk.journal_veiled, Done.veiled]
  rcases (ask session).result with _ | _ | _ <;> rfl

theorem acquire_alike (hask : ask.Alike ask') (outer : Option Span)
    (hsession : session.veiled = session'.veiled) :
    (acquireWith ask outer session).veiled Secret.veiled =
      (acquireWith ask' outer session').veiled Secret.veiled := by
  rw [acquireWith_veiled, acquireWith_veiled, hask hsession]

theorem invalidate_alike (hsession : session.veiled = session'.veiled) :
    (Client.invalidate session).veiled = (Client.invalidate session').veiled := by
  obtain ⟨hdesk, hworld⟩ := Session.mk.inj hsession
  simp only [Client.invalidate, Session.veiled, ← Desk.invalidate_veiled, hdesk, hworld]

end Step

/-! ## Runs -/

theorem length_asked {order order' : Order} (h : order.veiled = order'.veiled) :
    order.descriptor.toOption.toList.length = order'.descriptor.toOption.toList.length := by
  have hdescriptor := Order.descriptor_alike h
  generalize order.descriptor = planned at hdescriptor ⊢
  generalize order'.descriptor = planned' at hdescriptor ⊢
  rcases planned with _ | _ <;> rcases planned' with _ | _ <;> first | rfl | cases hdescriptor

theorem length_pageDescriptor? [Paged α] {previous previous' : Response α}
    (h : previous.veiled = previous'.veiled) (relation : Relation) :
    (pageDescriptor? relation previous).toList.length =
      (pageDescriptor? relation previous').toList.length := by
  have hdata : previous.data = previous'.data := (Response.mk.inj h).1
  simp only [pageDescriptor?, hdata]
  cases linkedOffset relation previous'.data <;> rfl

/-- Outings that tell the same and leave the same behind the veil still do so behind steps that tell the
same, whatever these asked for. -/
theorem Outing.behind_alike {asked asked' : List Descriptor} {journal journal' : Journal}
    {rest rest' : Outing σ} (hjournal : journal = journal')
    (hrest : rest.journal = rest'.journal ∧ rest.session.veiled = rest'.session.veiled) :
    (rest.behind asked journal).journal = (rest'.behind asked' journal').journal ∧
      (rest.behind asked journal).session.veiled = (rest'.behind asked' journal').session.veiled := by
  obtain ⟨htold, hleft⟩ := hrest
  refine ⟨?_, hleft⟩
  simp only [behind, hjournal, htold]

/-- Programs that are alike, run on scripts that are, with ways to ask for tokens that are, tell the same
and leave the same behind the veil. -/
theorem runWith_alike {script other : Script} (h : script.Alike other) (client : Client)
    (secret : Secret) {ask ask' : Acquisition (List Arrival × Nat)} (hask : ask.Alike ask')
    {program program' : Program} (hprogram : program.Alike program')
    {session session' : Session (List Arrival × Nat)} (hsession : session.veiled = session'.veiled)
    (hfit : SameFit client.settings (program.runWith client script.network ask session).asked
      (program'.runWith (client.withSecret secret) other.network ask' session').asked) :
    let ran := program.runWith client script.network ask session
    let ran' := program'.runWith (client.withSecret secret) other.network ask' session'
    ran.journal = ran'.journal ∧ ran.session.veiled = ran'.session.veiled := by
  -- by induction on the steps that both take; what was asked for is split between a step and the rest
  induction hprogram generalizing session session' with
  | finish => exact ⟨rfl, hsession⟩
  | @call α _ order order' next next' same further ih =>
    obtain ⟨hfirst, hrest⟩ := hfit.of_append (length_asked same)
    have hdone := order_alike (α := α) h client secret hask same hfirst hsession
    obtain ⟨hresult, hsession, hjournal⟩ := Done.mk.inj hdone
    exact Outing.behind_alike hjournal (ih _ _ hresult hsession hrest)
  | page same further ih =>
    obtain ⟨hfirst, hrest⟩ := hfit.of_append (length_pageDescriptor? same _)
    have hdone := page_alike h client secret hask _ same hfirst hsession
    obtain ⟨hresult, hsession, hjournal⟩ := Done.mk.inj hdone
    exact Outing.behind_alike hjournal (ih _ _ hresult hsession hrest)
  | token further ih =>
    have hdone := acquire_alike hask none hsession
    obtain ⟨hresult, hsession, hjournal⟩ := Done.mk.inj hdone
    exact Outing.behind_alike hjournal (ih _ _ hresult hsession hfit)
  | invalidate further ih => exact ih (invalidate_alike hsession) hfit

/-- A client tells no secret, no token and no value of a parameter. Two programs with the same methods,
paths and relations, whose parameters have the same outermost names, are run on the same script with
clients of the same settings; only the secrets differ, and the tokens that the script grants, which can
all be used. Where the same of their calls have addresses that are too long to be sent, both tell the
same spans, events and counts, entry by entry, and leave the same session but for its tokens. -/
theorem journal_tells_no_secret {script other : Script} (h : script.Alike other) (client : Client)
    (secret : Secret) {program program' : Program} (hprogram : program.Alike program')
    {session session' : Session (List Arrival × Nat)} (hsession : session.veiled = session'.veiled)
    (hfit : SameFit client.settings (program.run client script.network session).asked
      (program'.run (client.withSecret secret) other.network session').asked) :
    (program.run client script.network session).journal =
        (program'.run (client.withSecret secret) other.network session').journal ∧
      (program.run client script.network session).session.veiled =
        (program'.run (client.withSecret secret) other.network session').session.veiled := by
  simp only [Program.run_eq_runWith] at hfit ⊢
  exact runWith_alike h client secret (obtain_alike h client secret) hprogram hsession hfit

/-! ## Addresses that are too long -/

/-- A call whose address is too long is not sent. -/
theorem request?_of_isOverlong {settings : Settings} {d : Descriptor} {verb : Verb} {cargo : Cargo}
    (hplan : plan d.method d.params = .ok (verb, cargo)) (hlong : isOverlong settings d = true)
    (token : Secret) (now : Instant) : request? settings verb d.path cargo token now = none := by
  have harrival := arrival_request? settings verb d.path cargo token now
  rw [method_of_plan hplan] at harrival
  simp only [isOverlong, hplan, Except.toOption, Option.any_some, Option.any_eq_true] at hlong
  obtain ⟨bare, hbare, hlong⟩ := hlong
  have hfault : (cargo.load bare).url.wireFault? = some .tooLong := by
    simp only [Url.isOverlong, decide_eq_true_eq] at hlong
    simp only [Url.wireFault?, if_pos hlong]
  simpa [hbare, hfault] using harrival

theorem dispatch_of_isOverlong [Body α] {client : Client} {network : Network σ}
    {ask : Acquisition σ} {kind : CallKind} {d : Descriptor} {session : Session σ} {token : Secret}
    (hlong : isOverlong client.settings d = true)
    (htoken : (ask session).result = some (.ok token)) :
    (client.dispatch network ask kind d session : Done σ (Response α)).result =
      some (.error (.network .refused)) := by
  cases hplan : plan d.method d.params with
  | error e => simp [isOverlong, hplan, Except.toOption] at hlong
  | ok planned =>
    obtain ⟨verb, cargo⟩ := planned
    rw [(dispatch_of_plan (α := α) client network ask kind hplan session).1]
    simp only [perform, htoken, request?_of_isOverlong hplan hlong, transmit, conclude]

/-! ## Runs on a script -/

/-- A token document. -/
def tokenDocument (token : String) : String :=
  "\x7b\"access_token\":\"" ++ token ++ "\",\"token_type\":\"Bearer\",\"expires_in\":1799\x7d"

/-- What a token document holds beside the token. -/
def tokenFields : Fields Json :=
  [("expires_in", .number (.whole 1799)), ("token_type", .string "Bearer")]

/-- Whether a document holds these fields and a token. -/
def holdsToken (token : String) : Except Json.Fault Json → Bool
  | .ok (.object [(a, .string v), (b, .number n), (c, .string t)]) =>
    a == Exchange.tokenName && v == token && b == "expires_in" && n == .whole 1799 &&
      c == "token_type" && t == "Bearer"
  | _ => false

theorem eq_of_holdsToken {token : String} {read : Except Json.Fault Json}
    (h : holdsToken token read = true) :
    read = .ok (.object (tokenFields.insert Exchange.tokenName (.string token))) := by
  unfold holdsToken at h
  split at h
  · simp only [Bool.and_eq_true, beq_iff_eq] at h
    obtain ⟨⟨⟨⟨⟨rfl, rfl⟩, rfl⟩, rfl⟩, rfl⟩, rfl⟩ := h
    rfl
  · cases h

/-- A script that grants some token, and answers every call with a link to a page. -/
def linkingScript (token : String) : Script where
  answer _ arrival :=
    if arrival.exchanges then .ok ⟨200, [], Text.utf8 (tokenDocument token)⟩
    else .ok ⟨200, [], Text.utf8
      "\x7b\"meta\":\x7b\"links\":\x7b\"next\":\"/items?page[offset]=25\"\x7d\x7d\x7d"⟩
  clock _ := Desk.epoch

/-- A search, and the next page of what it finds. -/
def search (keyword : String) : Program :=
  .call Json (.call .get "/items" (.document (.object [("keyword", .string keyword)]))) fun
    | some (.ok first) => .page Json .next first fun _ => .finish
    | _ => .finish

theorem search_alike (keyword other : String) : (search keyword).Alike (search other) := by
  refine .call rfl fun result result' h => ?_
  rcases result with _ | _ | first
  · rcases result' with _ | _ | _ <;> first | exact .finish | cases h
  · rcases result' with _ | _ | _ <;> first | exact .finish | cases h
  · rcases result' with _ | _ | first'
    · cases h
    · cases h
    · exact .page (Except.ok.inj (Option.some.inj h)) fun _ _ _ => .finish

theorem linkingScript_alike : (linkingScript "T1").Alike (linkingScript "T2") where
  clock := rfl
  answer before arrival hcall := by simp [linkingScript, hcall]
  exchange before arrival hexchange := by
    have hfirst : holdsToken "T1" (Exchange.tokenShape.readFirst
        (Text.utf8 (tokenDocument "T1"))) = true := by
      decide +kernel
    have hsecond : holdsToken "T2" (Exchange.tokenShape.readFirst
        (Text.utf8 (tokenDocument "T2"))) = true := by
      decide +kernel
    simp only [linkingScript, hexchange, if_true]
    exact .granted ⟨rfl, rfl⟩ rfl (eq_of_holdsToken hfirst) (eq_of_holdsToken hsecond)
      ⟨by decide, by decide⟩

/-- A search for one word, with one secret and one token, tells what a search for another tells, with
another secret and another token; both look at two pages. -/
theorem search_tells_same :
    let ran := (search "LON").run sampleClient (linkingScript "T1").network ⟨{}, [], 0⟩
    let ran' := (search "New York").run (sampleClient.withSecret ⟨"other"⟩)
      (linkingScript "T2").network ⟨{}, [], 0⟩
    (ran.asked.length = 2 ∧ ran'.asked.length = 2) ∧ ran.journal = ran'.journal := by
  refine ⟨by decide +kernel, (journal_tells_no_secret linkingScript_alike sampleClient ⟨"other"⟩
    (search_alike "LON" "New York") rfl ?_).1⟩
  show List.map _ _ = List.map _ _
  decide +kernel

/-- A search for a word that fits no address. -/
theorem isOverlong_search {word : String} (h : 65534 < word.toList.length) :
    isOverlong sampleClient.settings
      ⟨Verb.get.method, "/items", .object [("keyword", .string word)]⟩ = true := by
  have hbare : (Request.to? Verb.get.method (sampleClient.settings.credentials.endpoint "/items")
      sampleClient.settings.timeout).isSome = true := by
    decide +kernel
  obtain ⟨bare, hbare⟩ := Option.isSome_iff_exists.mp hbare
  have hplan : plan Verb.get.method (.object [("keyword", .string word)]) =
      .ok (.get, .query [("keyword", word)]) := rfl
  have hlength := Url.length_le_withPairs bare.url
    (List.mem_singleton_self (("keyword", word) : Query.Pair))
  simp only [isOverlong, hplan, hbare, Except.toOption, Option.any_some]
  exact decide_eq_true (Nat.lt_of_lt_of_le h hlength)

/-- A search that cannot be sent is counted as a failure. -/
theorem search_fails {word : String} (h : 65534 < word.toList.length) :
    0 < ((search word).run sampleClient (linkingScript "T1").network ⟨{}, [], 0⟩).journal.count
      .request .failure := by
  have htoken : (sampleClient.obtain (linkingScript "T1").network ⟨{}, [], 0⟩).result =
      some (.ok ⟨"T1"⟩) := by
    decide +kernel
  let d : Descriptor := ⟨Verb.get.method, "/items", .object [("keyword", .string word)]⟩
  have hresult : (sampleClient.dispatch (linkingScript "T1").network
      (sampleClient.obtain (linkingScript "T1").network) .request d ⟨{}, [], 0⟩ :
        Done _ (Response Json)).result = some (.error (.network .refused)) :=
    dispatch_of_isOverlong (isOverlong_search h) htoken
  have hcounted := (dispatch_dispatched (α := Json) sampleClient (linkingScript "T1").network
    (show CallKind.request ≠ .tokenExchange by decide) d ⟨{}, [], 0⟩).counted .failure
  rw [hresult] at hcounted
  have hjournal : ((search word).run sampleClient (linkingScript "T1").network
      ⟨{}, [], 0⟩).journal.count .request .failure = _ := Journal.count_append _ _ _ _
  rw [hjournal]
  exact Nat.add_pos_left (hcounted ▸ Nat.one_pos) _

/-- A value that makes an address too long shows in the journal. -/
theorem long_search_tells :
    ∃ word : String, (search "LON").Alike (search word) ∧
      ((search "LON").run sampleClient (linkingScript "T1").network ⟨{}, [], 0⟩).journal ≠
        ((search word).run sampleClient (linkingScript "T1").network ⟨{}, [], 0⟩).journal := by
  refine ⟨String.ofList (List.replicate 65536 'a'), search_alike _ _, fun hsame => ?_⟩
  have hlong : 65534 < (String.ofList (List.replicate 65536 'a')).toList.length := by
    rw [String.toList_ofList, List.length_replicate]
    decide
  have hfails := search_fails hlong
  rw [← hsame] at hfails
  revert hfails
  decide +kernel

end Wayfare.Client
