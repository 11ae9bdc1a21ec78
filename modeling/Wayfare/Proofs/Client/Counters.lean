import Wayfare.Client.Catalogue
import Wayfare.Proofs.Client.Walk
import Wayfare.Proofs.Desk.Books

/-!
The counters of a client over any sequence of operations. What one operation counts is told by what
came of it, and what it adds to the counts of the desk by the exchange that it drove.
-/
namespace Wayfare

variable {σ α : Type}

/-- Whether a call fails before it asks for a token. -/
def CallError.isEarly : CallError → Bool
  | .unsupportedMethod _ | .invalidPayload | .unserializable _ | .missingParameter _ => true
  | _ => false

namespace Client

/-! ## Operations -/

/-- What a client is asked to do, with the type of the data where an answer has some. -/
inductive Operation where
  | request (α : Type) [Body α] (method : Method) (path : String) (params : Json)
  | call (α : Type) [Body α] (verb : Verb) (path : String) (payload : Payload)
  | collection (α : Type) [Body α] (op : CollectionOp) (payload : Payload)
  | item (α : Type) [Body α] (op : ItemOp) (id : String)
  | page (α : Type) [Paged α] [Body α] (relation : Relation) (previous : Response α)
  | invalidate

/-- What came of an operation: how a call ended, or how a page did and whether there is one. -/
inductive Upshot where
  | call (result : Called Unit)
  | page (result : Called Bool)
  | invalidated

/-- What operations come to: what came of each, the session that they leave, and what they told. -/
structure Ran (σ : Type) where
  upshots : List Upshot
  session : Session σ
  journal : Journal

def Ran.ofCall (d : Done σ α) : Ran σ :=
  ⟨[.call (d.result.map (·.map fun _ => ()))], d.session, d.journal⟩

def Ran.ofPage (d : Done σ (Option α)) : Ran σ :=
  ⟨[.page (d.result.map (·.map Option.isSome))], d.session, d.journal⟩

/-- An operation, run to its end. -/
def Operation.run (client : Client) (network : Network σ) (session : Session σ) :
    Operation → Ran σ
  | @request α _ method path params =>
    .ofCall (client.request network method path params session : Done σ (Response α))
  | @call α _ verb path payload =>
    .ofCall (client.call network verb path payload session : Done σ (Response α))
  | @collection α _ op payload =>
    .ofCall (client.collection network op payload session : Done σ (Response α))
  | @item α _ op id => .ofCall (client.item network op id session : Done σ (Response α))
  | @page _ _ _ relation previous => .ofPage (client.page network relation previous session)
  | .invalidate => ⟨[.invalidated], Client.invalidate session, []⟩

/-- Operations, one after the other. -/
def run (client : Client) (network : Network σ) (session : Session σ) : List Operation → Ran σ
  | [] => ⟨[], session, []⟩
  | op :: rest =>
    let first := op.run client network session
    let more := client.run network first.session rest
    ⟨first.upshots ++ more.upshots, more.session, first.journal ++ more.journal⟩

namespace Upshot

/-- The counter that an operation ends in. Pages that are not there, and operations that fail before
they are dispatched, end in none. -/
def counter? : Upshot → Option (CallKind × Outcome)
  | .call (some (.ok _)) => some (.request, .success)
  | .call (some (.error (.unserializable _))) => none
  | .call (some (.error (.missingParameter _))) => none
  | .call (some (.error _)) => some (.request, .failure)
  | .page (some (.ok true)) => some (.page, .success)
  | .page (some (.error (.unsupportedMethod _))) => none
  | .page (some (.error _)) => some (.page, .failure)
  | _ => none

/-- The kind of an operation that ended without a result or an error. -/
def brokenKind? : Upshot → Option CallKind
  | .call none => some .request
  | .page none => some .page
  | _ => none

/-- Whether a call of some kind broke off. A call breaks off with the exchange that it drives. -/
def brokeOff (kind : CallKind) (u : Upshot) : Bool :=
  u.brokenKind?.any fun broken => kind = broken || kind = .tokenExchange

theorem counter?_of_late {e : CallError} (h : e.isEarly = false) :
    counter? (.call (some (.error e))) = some (.request, .failure) ∧
      counter? (.page (some (.error e))) = some (.page, .failure) := by
  cases e with
  | token | status | network | decode => exact ⟨rfl, rfl⟩
  | _ => cases h

end Upshot

/-- How often operations ended in a counter. -/
def Ran.ended (ran : Ran σ) (kind : CallKind) (outcome : Outcome) : Nat :=
  ran.upshots.countP (·.counter? = some (kind, outcome))

/-- How often a call of some kind broke off. -/
def Ran.brokenOff (ran : Ran σ) (kind : CallKind) : Nat :=
  ran.upshots.countP (·.brokeOff kind)

/-! ## What a call counts -/

end Client

theorem Desk.count_journal_of_ne {kind : CallKind} (h : kind ≠ .tokenExchange)
    (outer : Option Span) (outcome : Outcome) (happenings : List Desk.Happening) :
    (Desk.journal outer happenings).count kind outcome = 0 := by
  induction happenings with
  | nil => rfl
  | cons e rest ih =>
    have hentries : Journal.count kind outcome (e.entries outer) = 0 := by
      cases e with
      | ended call cell grant =>
        cases grant <;> simp [Happening.entries, Journal.count, h.symm]
      | _ => simp [Happening.entries, Journal.count, h.symm]
    rw [journal, List.flatMap_cons, Journal.count_append, hentries, ← journal, ih]

/-- An exchange that was driven to its end gave a token, failed or broke off. -/
theorem Desk.acquire_tallied (exchange : σ → Option Grant × σ) (d : Desk) (now : Instant) (s : σ) :
    let (result, after, _, happenings) := d.acquire exchange now s
    after.exchanges = d.exchanges + tally .began happenings ∧
    after.failures = d.failures + tally .failed happenings ∧
    tally .began happenings =
      tally .granted happenings + tally .failed happenings + result.isNone.toNat := by
  unfold acquire
  cases d.cachedAt now with
  | some value => simp [serve, tally, Happening.item]
  | none =>
    rcases exchange s with ⟨_ | error | token, s⟩
    · simp [Desk.leave, abandon, begin, tally, Happening.item]
    · simp [Desk.leave, finish, begin, tally, Happening.item]
    · simp [Desk.leave, finish, begin, tally, Happening.item]

namespace Client

/-- What is counted of the exchanges behind some work, with what that changes at the desk. Exchanges
that are counted as neither a success nor a failure broke off. -/
structure Exchanged (session : Session σ) (brokenOff : Nat) (after : Session σ)
    (journal : Journal) : Prop where
  exchanges : after.desk.exchanges =
    session.desk.exchanges + journal.count .tokenExchange .attempt
  failures : after.desk.failures =
    session.desk.failures + journal.count .tokenExchange .failure
  attempts : journal.count .tokenExchange .attempt =
    journal.count .tokenExchange .success + journal.count .tokenExchange .failure + brokenOff

theorem Exchanged.none {session after : Session σ} {journal : Journal}
    (hdesk : after.desk.exchanges = session.desk.exchanges ∧
      after.desk.failures = session.desk.failures)
    (hcount : ∀ outcome, journal.count .tokenExchange outcome = 0) :
    Exchanged session 0 after journal := by
  constructor <;> simp [hdesk, hcount]

theorem obtain_exchanged (client : Client) (network : Network σ) (outer : Option Span)
    (session : Session σ) :
    let acquired := client.obtain network session
    Exchanged session acquired.result.isNone.toNat acquired.session
      (Desk.journal outer acquired.happenings) := by
  obtain ⟨hexchanges, hfailures, hattempts⟩ :=
    Desk.acquire_tallied (Exchange.run network client.settings client.tokenUrl) session.desk
      (network.clock session.world).1 (network.clock session.world).2
  constructor <;> simpa only [Desk.count_journal]

/-- How a call of some outcome counts: as an attempt in any case, and as what it came to. -/
def share : Called α → Outcome → Nat
  | _, .attempt => 1
  | some (.ok _), .success => 1
  | some (.error _), .failure => 1
  | _, _ => 0

theorem share_map {β : Type} (f : α → β) (result : Called α) (outcome : Outcome) :
    share (result.map (·.map f)) outcome = share result outcome := by
  rcases result with _ | _ | _ <;> cases outcome <;> rfl

/-- What a call of some kind is counted as. -/
structure Dispatched (kind : CallKind) (session : Session σ) (done : Done σ α) : Prop where
  exchanged : Exchanged session done.result.isNone.toNat done.session done.journal
  counted : ∀ outcome, done.journal.count kind outcome = share done.result outcome
  uncounted : ∀ other outcome, other ≠ kind → other ≠ .tokenExchange →
    done.journal.count other outcome = 0

theorem Dispatched.map {β : Type} {kind : CallKind} {session : Session σ} {done : Done σ α}
    (h : Dispatched kind session done) (f : α → β) : Dispatched kind session (done.map f) where
  exchanged := by simpa [Done.map] using h.exchanged
  counted outcome := (h.counted outcome).trans (share_map f done.result outcome).symm
  uncounted := h.uncounted

theorem count_counted (kind counted : CallKind) (told outcome : Outcome) :
    Journal.count counted outcome [.counted kind told] =
      if counted = kind then if told = outcome then 1 else 0 else 0 := by
  by_cases hkind : counted = kind
  · by_cases htold : told = outcome <;> simp [Journal.count, hkind, htold]
  · have hne : kind ≠ counted := fun h => hkind h.symm
    simp [Journal.count, hkind, hne]

theorem count_surround (d : Done σ α) (span : Span) (kind counted : CallKind) (outcome : Outcome) :
    (d.surround [.opened span, .counted kind .attempt] (countOutcome kind)).journal.count
        counted outcome =
      d.journal.count counted outcome + if counted = kind then share d.result outcome else 0 := by
  have hopened : Journal.count counted outcome [.opened span] = 0 := by simp [Journal.count]
  have hbefore : Journal.count counted outcome [.opened span, .counted kind .attempt] =
      if counted = kind then if .attempt = outcome then 1 else 0 else 0 := by
    rw [← List.singleton_append, Journal.count_append, hopened, count_counted, Nat.zero_add]
  have hafter : Journal.count counted outcome (countOutcome kind d.result) +
      (if counted = kind then if .attempt = outcome then 1 else 0 else 0) =
      if counted = kind then share d.result outcome else 0 := by
    rcases d.result with _ | _ | _
    · cases outcome <;> simp [countOutcome, share, Journal.count]
    · simp only [countOutcome, count_counted]
      cases outcome <;> simp [Outcome.ofResult, share]
    · simp only [countOutcome, count_counted]
      cases outcome <;> simp [Outcome.ofResult, share]
  simp only [Done.surround, Journal.count_append, hbefore]
  omega

theorem surround_dispatched {kind : CallKind} (hkind : kind ≠ .tokenExchange) {session : Session σ}
    {done : Done σ α}
    (hexchanged : Exchanged session done.result.isNone.toNat done.session done.journal)
    (hcount : ∀ kind outcome, kind ≠ .tokenExchange → done.journal.count kind outcome = 0)
    (span : Span) :
    Dispatched kind session
      (done.surround [.opened span, .counted kind .attempt] (countOutcome kind)) := by
  obtain ⟨hexchanges, hfailures, hattempts⟩ := hexchanged
  refine ⟨⟨?_, ?_, ?_⟩, fun outcome => ?_, fun other outcome hother hne => ?_⟩
  · rwa [count_surround, if_neg hkind.symm]
  · rwa [count_surround, if_neg hkind.symm]
  · simp only [count_surround, if_neg hkind.symm, Nat.add_zero]
    exact hattempts
  · rw [count_surround, hcount kind outcome hkind, if_pos rfl, Nat.zero_add]
    rfl
  · rw [count_surround, hcount other outcome hne, if_neg hother]

section Call

variable [Body α]

/-- Within its span a call tells of an exchange and of events, and it breaks off with its exchange. -/
theorem perform_told (client : Client) (network : Network σ) (ask : Acquisition σ) (span : Span)
    (verb : Verb) (cargo : Cargo) (d : Descriptor) (session : Session σ) :
    let done : Done σ (Response α) := client.perform network ask span verb cargo d session
    let acquired := ask session
    done.session.desk = acquired.session.desk ∧ done.result.isNone = acquired.result.isNone ∧
    ∀ kind outcome, done.journal.count kind outcome =
      (Desk.journal (some span) acquired.happenings).count kind outcome := by
  simp only [perform]
  rcases (ask session).result with _ | e | token
  · exact ⟨rfl, rfl, fun _ _ => rfl⟩
  · exact ⟨rfl, rfl, fun _ _ => rfl⟩
  · exact ⟨rfl, rfl, fun _ _ => by simp [Journal.count]⟩

theorem perform_exchanged (client : Client) (network : Network σ) (span : Span) (verb : Verb)
    (cargo : Cargo) (d : Descriptor) (session : Session σ) :
    let done : Done σ (Response α) :=
      client.perform network (client.obtain network) span verb cargo d session
    Exchanged session done.result.isNone.toNat done.session done.journal ∧
      ∀ kind outcome, kind ≠ .tokenExchange → done.journal.count kind outcome = 0 := by
  obtain ⟨hdesk, hbroke, htold⟩ :=
    perform_told (α := α) client network (client.obtain network) span verb cargo d session
  obtain ⟨hexchanges, hfailures, hattempts⟩ := obtain_exchanged client network (some span) session
  refine ⟨⟨?_, ?_, ?_⟩, fun kind outcome hkind => ?_⟩
  · rwa [hdesk, htold]
  · rwa [hdesk, htold]
  · rwa [hbroke, htold, htold, htold]
  · rw [htold, Desk.count_journal_of_ne hkind]

theorem dispatch_dispatched (client : Client) (network : Network σ) {kind : CallKind}
    (hkind : kind ≠ .tokenExchange) (d : Descriptor) (session : Session σ) :
    Dispatched kind session
      (client.dispatch network (client.obtain network) kind d session : Done σ (Response α)) := by
  unfold dispatch
  cases plan d.method d.params with
  | error e => exact surround_dispatched hkind (.none ⟨rfl, rfl⟩ fun _ => rfl) (fun _ _ _ => rfl) _
  | ok planned =>
    obtain ⟨verb, cargo⟩ := planned
    obtain ⟨hexchanged, hcount⟩ :=
      perform_exchanged (α := α) client network (dispatchSpan kind d) verb cargo d session
    exact surround_dispatched hkind hexchanged hcount _

theorem conclude_error {d : Descriptor} {answer : Except NetworkFault Answer} {e : CallError}
    (h : (conclude d answer : Except CallError (Response α)) = .error e) : e.isEarly = false := by
  cases answer with
  | error fault =>
    cases h
    rfl
  | ok a =>
    simp only [conclude] at h
    split at h
    · cases hdata : (decode a.status a.body : Except CallError α) with
      | error error =>
        obtain ⟨fault, rfl⟩ := decode_error hdata
        rw [hdata] at h
        cases h
        rfl
      | ok data =>
        rw [hdata] at h
        cases h
    · cases h
      rfl

theorem dispatch_error {client : Client} {network : Network σ} {ask : Acquisition σ}
    {kind : CallKind} {d : Descriptor} {session : Session σ} {e : CallError}
    (h : (client.dispatch network ask kind d session : Done σ (Response α)).result =
      some (.error e)) :
    plan d.method d.params = .error e ∨ e.isEarly = false := by
  cases hplan : plan d.method d.params with
  | error planned =>
    rw [(dispatch_of_plan_error (α := α) client network ask kind hplan session).1] at h
    cases h
    exact .inl rfl
  | ok planned =>
    obtain ⟨verb, cargo⟩ := planned
    rw [(dispatch_of_plan (α := α) client network ask kind hplan session).1] at h
    cases hasked : (ask session).result with
    | none => simp [perform, hasked] at h
    | some asked =>
      cases asked with
      | error error =>
        obtain rfl : .token error = e := by simpa [perform, hasked] using h
        exact .inr rfl
      | ok token =>
        simp only [perform, hasked, Option.some.injEq] at h
        exact .inr (conclude_error h)

end Call

/-! ## One operation -/

/-- What some operations count, as told by what came of them. -/
structure Tallied (session : Session σ) (ran : Ran σ) : Prop where
  exchanged : Exchanged session (ran.brokenOff .tokenExchange) ran.session ran.journal
  attempts : ∀ kind, kind ≠ .tokenExchange → ran.journal.count kind .attempt =
    ran.journal.count kind .success + ran.journal.count kind .failure + ran.brokenOff kind
  ended : ∀ kind outcome, kind ≠ .tokenExchange → outcome ≠ .attempt →
    ran.journal.count kind outcome = ran.ended kind outcome

theorem Tallied.append {session : Session σ} {first more : Ran σ}
    (h : Tallied session first) (h' : Tallied first.session more) :
    Tallied session
      ⟨first.upshots ++ more.upshots, more.session, first.journal ++ more.journal⟩ := by
  obtain ⟨⟨hexchanges, hfailures, hattempts⟩, hcalls, hended⟩ := h
  obtain ⟨⟨hexchanges', hfailures', hattempts'⟩, hcalls', hended'⟩ := h'
  simp only [Ran.brokenOff, Ran.ended] at *
  refine ⟨⟨?_, ?_, ?_⟩, fun kind hkind => ?_, fun kind outcome hkind houtcome => ?_⟩
  · rw [hexchanges', hexchanges, Journal.count_append, Nat.add_assoc]
  · rw [hfailures', hfailures, Journal.count_append, Nat.add_assoc]
  · simp only [Journal.count_append, Ran.brokenOff, List.countP_append]
    omega
  · have hfirst := hcalls kind hkind
    have hmore := hcalls' kind hkind
    simp only [Journal.count_append, Ran.brokenOff, List.countP_append]
    omega
  · have hfirst := hended kind outcome hkind houtcome
    have hmore := hended' kind outcome hkind houtcome
    simp only [Journal.count_append, Ran.ended, List.countP_append]
    omega

@[simp] theorem ended_single (u : Upshot) (session : Session σ) (journal : Journal)
    (kind : CallKind) (outcome : Outcome) :
    Ran.ended ⟨[u], session, journal⟩ kind outcome =
      if u.counter? = some (kind, outcome) then 1 else 0 := by
  simp [Ran.ended]

@[simp] theorem brokenOff_single (u : Upshot) (session : Session σ) (journal : Journal)
    (kind : CallKind) :
    Ran.brokenOff ⟨[u], session, journal⟩ kind = (u.brokeOff kind).toNat := by
  cases h : u.brokeOff kind <;> simp [Ran.brokenOff, h]

/-- Work that is not counted, and changes no count of the desk. -/
theorem tallied_of_uncounted {session after : Session σ} {u : Upshot} {journal : Journal}
    (hdesk : after.desk.exchanges = session.desk.exchanges ∧
      after.desk.failures = session.desk.failures)
    (hcount : ∀ kind outcome, journal.count kind outcome = 0) (hcounter : u.counter? = none)
    (hbroken : u.brokenKind? = none) : Tallied session ⟨[u], after, journal⟩ where
  exchanged := by simpa [Upshot.brokeOff, hbroken] using .none hdesk (hcount _)
  attempts kind _ := by simp [hcount, Upshot.brokeOff, hbroken]
  ended kind outcome _ _ := by simp [hcount, hcounter]

/-- A call of some kind, with what came of it. -/
theorem Dispatched.tallied {kind : CallKind} (hkind : kind ≠ .tokenExchange) {session : Session σ}
    {done : Done σ α} (h : Dispatched kind session done) {u : Upshot}
    (hcounter : u.counter? = done.result.map fun r => (kind, Outcome.ofResult r))
    (hbroken : u.brokenKind? = if done.result.isNone then some kind else none) :
    Tallied session ⟨[u], done.session, done.journal⟩ where
  exchanged := by
    have hbroke : u.brokeOff .tokenExchange = done.result.isNone := by
      rw [Upshot.brokeOff, hbroken]
      cases done.result.isNone <;> simp
    simpa only [brokenOff_single, hbroke] using h.exchanged
  attempts other hother := by
    rw [brokenOff_single, Upshot.brokeOff, hbroken]
    by_cases hsame : other = kind
    · subst hsame
      rw [h.counted, h.counted, h.counted]
      rcases done.result with _ | _ | _ <;> simp [share]
    · rw [h.uncounted _ _ hsame hother, h.uncounted _ _ hsame hother,
        h.uncounted _ _ hsame hother]
      cases done.result.isNone <;> simp [hsame, hother]
  ended other outcome hother houtcome := by
    rw [ended_single, hcounter]
    by_cases hsame : other = kind
    · subst hsame
      rw [h.counted]
      rcases done.result with _ | _ | _ <;> cases outcome <;> simp_all [share, Outcome.ofResult]
    · have hne : kind ≠ other := fun h => hsame h.symm
      rw [h.uncounted _ _ hsame hother]
      rcases done.result with _ | _ | _ <;> simp [hne]

theorem plan_error {method : Method} {params : Json} {e : CallError}
    (h : plan method params = .error e) :
    e = .invalidPayload ∨
      e = .unsupportedMethod method.name ∧ method.name ∉ ["GET", "POST", "DELETE"] := by
  by_cases hmethod : method.name ∈ ["GET", "POST", "DELETE"]
  · by_cases hplaceable : Placeable method params
    · obtain ⟨verb, cargo, hplan⟩ := plan_of_placeable hplaceable
      cases hplan.symm.trans h
    · have hpost : method.name ≠ "POST" := fun hpost => hplaceable (.inl hpost)
      have hquery : method.name ∈ ["GET", "DELETE"] := by simpa [hpost] using hmethod
      have hplan := plan_of_not_encodable hquery fun hparams => hplaceable (.inr ⟨hquery, hparams⟩)
      exact .inl (Except.error.inj (h.symm.trans hplan))
  · have hplan := plan_of_unsupported hmethod params
    exact .inr ⟨Except.error.inj (h.symm.trans hplan), hmethod⟩

section Operations

variable [Body α] (client : Client) (network : Network σ) (session : Session σ)

theorem request_tallied (method : Method) (path : String) (params : Json) :
    Tallied session
      (.ofCall (client.request network method path params session : Done σ (Response α))) := by
  have dispatched : Dispatched .request session
      (client.request network method path params session : Done σ (Response α)) :=
    dispatch_dispatched client network (by decide) _ session
  refine dispatched.tallied (by decide) ?_ ?_
  · cases hresult : (client.request network method path params session :
        Done σ (Response α)).result with
    | none => rfl
    | some result =>
      cases result with
      | ok response => rfl
      | error e =>
        rcases dispatch_error hresult with hplan | hlate
        · rcases plan_error hplan with rfl | ⟨rfl, -⟩ <;> rfl
        · exact (Upshot.counter?_of_late hlate).1
  · cases (client.request network method path params session : Done σ (Response α)).result <;> rfl

theorem call_tallied (verb : Verb) (path : String) (payload : Payload) :
    Tallied session
      (.ofCall (client.call network verb path payload session : Done σ (Response α))) := by
  cases payload with
  | document params => exact client.request_tallied network session verb.method path params
  | formless reason => exact tallied_of_uncounted ⟨rfl, rfl⟩ (fun _ _ => rfl) rfl rfl

theorem item_tallied (op : ItemOp) (id : String) :
    Tallied session (.ofCall (client.item network op id session : Done σ (Response α))) := by
  cases h : op.path id with
  | error e =>
    have he : e = .missingParameter op.parameter := by
      unfold ItemOp.path at h
      split at h <;> cases h
      rfl
    simp only [item, h, he]
    exact tallied_of_uncounted ⟨rfl, rfl⟩ (fun _ _ => rfl) rfl rfl
  | ok path =>
    simp only [item, h]
    exact client.call_tallied network session op.verb path (.document .null)

/-- A page is a call of its own kind, or no call at all. -/
theorem page_tallied [Paged α] (relation : Relation) (previous : Response α) :
    let paged := client.page network relation previous session
    Tallied session (.ofPage paged) ∧ ∀ outcome, paged.journal.count .request outcome = 0 := by
  intro paged
  rcases pageWith_cases client network (client.obtain network) relation previous session with
    ⟨-, message, hpage⟩ | ⟨offset, -, ⟨e, herror, hpage⟩ | ⟨verb, hverb, hpage⟩⟩
  · rw [show paged = _ from hpage]
    exact ⟨tallied_of_uncounted ⟨rfl, rfl⟩ (fun _ _ => rfl) rfl rfl, fun _ => rfl⟩
  · have he : e = .unsupportedMethod previous.request.method.name := by
      unfold Verb.ofMethod at herror
      split at herror <;> cases herror
      rfl
    rw [show paged = _ from hpage, he]
    exact ⟨tallied_of_uncounted ⟨rfl, rfl⟩ (fun _ _ => rfl) rfl rfl, fun _ => rfl⟩
  · rw [show paged = _ from hpage]
    have dispatched : Dispatched CallKind.page session
        (client.dispatch network (client.obtain network) .page
          (pageRequest previous.request offset) session : Done σ (Response α)) :=
      dispatch_dispatched client network (by decide) _ session
    have hmethod : previous.request.method.name ∈ ["GET", "POST", "DELETE"] := by
      rw [← Verb.ofMethod_eq_ok_iff.mp hverb]
      exact verb.name_mem
    generalize hdone : (client.dispatch network (client.obtain network) .page
      (pageRequest previous.request offset) session : Done σ (Response α)) = done at dispatched
    refine ⟨(dispatched.map some).tallied (by decide) ?_ ?_,
      fun outcome => dispatched.uncounted .request outcome (by decide) (by decide)⟩
    · obtain ⟨_ | e | response, after, journal⟩ := done
      · rfl
      · rcases dispatch_error (congrArg Done.result hdone) with hplan | hlate
        · rcases plan_error hplan with rfl | ⟨-, hnot⟩
          · rfl
          · exact absurd hmethod hnot
        · exact (Upshot.counter?_of_late hlate).2
      · rfl
    · obtain ⟨_ | _, after, journal⟩ := done <;> rfl

theorem operation_tallied (op : Operation) : Tallied session (op.run client network session) := by
  cases op with
  | request α method path params => exact client.request_tallied network session method path params
  | call α verb path payload => exact client.call_tallied network session verb path payload
  | collection α op payload => exact client.call_tallied network session op.verb op.path payload
  | item α op id => exact client.item_tallied network session op id
  | page α relation previous => exact (client.page_tallied network session relation previous).1
  | invalidate => exact tallied_of_uncounted ⟨rfl, rfl⟩ (fun _ _ => rfl) rfl rfl

end Operations

/-! ## Sequences of operations -/

theorem run_tallied (client : Client) (network : Network σ) (session : Session σ)
    (operations : List Operation) : Tallied session (client.run network session operations) := by
  induction operations generalizing session with
  | nil => exact ⟨⟨rfl, rfl, rfl⟩, fun _ _ => rfl, fun _ _ _ _ => rfl⟩
  | cons op rest ih => exact (operation_tallied client network session op).append (ih _)

/-- Over any sequence of operations of a new client, requests and pages are attempted as often as they
succeed, fail or break off, and each succeeds or fails as often as operations came to that. Exchanges
are counted as the desk counts them: they succeed, fail, or break off with the call that drives them.
A page never counts as a request. -/
theorem counters_match_results (client : Client) (network : Network σ) (world : σ)
    (operations : List Operation) :
    let ran := client.run network ⟨{}, world⟩ operations
    let count := fun kind outcome => ran.journal.count kind outcome
    let desk := ran.session.desk
    (∀ kind, count kind .attempt =
      count kind .success + count kind .failure + ran.brokenOff kind) ∧
    (count .request .success = ran.ended .request .success ∧
      count .request .failure = ran.ended .request .failure) ∧
    (count .page .success = ran.ended .page .success ∧
      count .page .failure = ran.ended .page .failure) ∧
    (count .tokenExchange .attempt = desk.exchanges ∧
      count .tokenExchange .failure = desk.failures) ∧
    ∀ (α : Type) [Paged α] [Body α] (relation : Relation) (previous : Response α)
      (session : Session σ) (outcome : Outcome),
      (client.page network relation previous session).journal.count .request outcome = 0 := by
  intro ran count desk
  obtain ⟨⟨hexchanges, hfailures, hattempts⟩, hcalls, hended⟩ :=
    client.run_tallied network ⟨{}, world⟩ operations
  refine ⟨fun kind => ?_, ⟨?_, ?_⟩, ⟨?_, ?_⟩, ⟨?_, ?_⟩, ?_⟩
  · by_cases hkind : kind = .tokenExchange
    · subst hkind
      exact hattempts
    · exact hcalls kind hkind
  · exact hended .request .success (by decide) (by decide)
  · exact hended .request .failure (by decide) (by decide)
  · exact hended .page .success (by decide) (by decide)
  · exact hended .page .failure (by decide) (by decide)
  · exact (hexchanges.trans (Nat.zero_add _)).symm
  · exact (hfailures.trans (Nat.zero_add _)).symm
  · intro α _ _ relation previous session outcome
    exact (client.page_tallied network session relation previous).2 outcome

end Client

end Wayfare
