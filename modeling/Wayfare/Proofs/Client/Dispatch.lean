import Wayfare.Proofs.Client.Record

/-!
The order of a call: method, parameters, token, request, answer. What fails at one stage has no effect
of a later one, and of the calls that reach the network each sends one request at most.
-/
namespace Wayfare

/-! ## Methods and parameters -/

/-- Parameters with a form as a query. -/
def Query.Encodable (params : Json) : Prop :=
  params = .null ∨ ∃ fields, params = .object fields

theorem Query.encode_of_encodable {params : Json} (h : Encodable params) :
    ∃ pairs, encode params = .ok pairs := by
  rcases h with rfl | ⟨fields, rfl⟩
  · exact ⟨[], rfl⟩
  · exact ⟨ofFields fields, rfl⟩

theorem Query.encode_of_not_encodable {params : Json} (h : ¬ Encodable params) :
    encode params = .error .invalidPayload := by
  cases params with
  | null => exact absurd (.inl rfl) h
  | object fields => exact absurd (.inr ⟨fields, rfl⟩) h
  | _ => rfl

theorem Verb.exists_method {m : Method} (h : m.name ∈ ["GET", "POST", "DELETE"]) :
    ∃ v : Verb, v.method = m := by
  have hverb : ∃ v : Verb, v.method.name = m.name := by
    simp only [List.mem_cons, List.not_mem_nil, or_false] at h
    rcases h with h | h | h
    · exact ⟨.get, h.symm⟩
    · exact ⟨.post, h.symm⟩
    · exact ⟨.delete, h.symm⟩
  obtain ⟨v, hv⟩ := hverb
  exact ⟨v, Method.eq_of_name hv⟩

theorem Verb.name_mem (v : Verb) : v.method.name ∈ ["GET", "POST", "DELETE"] := by
  cases v <;> simp [method]

namespace Client

/-- A method with parameters that it can carry. -/
def Placeable (method : Method) (params : Json) : Prop :=
  method.name = "POST" ∨ method.name ∈ ["GET", "DELETE"] ∧ Query.Encodable params

theorem plan_method (v : Verb) (params : Json) :
    plan v.method params =
      if v.usesQuery then (Query.encode params).map fun pairs => (v, .query pairs)
      else .ok (v, .body params) := by
  simp only [plan, Verb.ofMethod_eq_ok_iff.mpr rfl, bind, Except.bind]
  cases v.usesQuery with
  | false => rfl
  | true => cases Query.encode params <;> rfl

theorem plan_of_unsupported {method : Method} (h : method.name ∉ ["GET", "POST", "DELETE"])
    (params : Json) : plan method params = .error (.unsupportedMethod method.name) := by
  have hne : ∀ v : Verb, v.name ≠ method.name := by
    intro v hv
    rw [← hv] at h
    cases v <;> simp [Verb.name] at h
  simp [plan, Verb.ofMethod_of_forall_ne hne, bind, Except.bind]

theorem usesQuery_of_name {v : Verb} (h : v.method.name ∈ ["GET", "DELETE"]) :
    v.usesQuery = true := by
  cases v with
  | post => simp [Verb.method] at h
  | _ => rfl

theorem plan_of_not_encodable {method : Method} {params : Json}
    (hmethod : method.name ∈ ["GET", "DELETE"]) (hparams : ¬ Query.Encodable params) :
    plan method params = .error .invalidPayload := by
  obtain ⟨v, rfl⟩ := Verb.exists_method (m := method) (by grind)
  rw [plan_method, if_pos (usesQuery_of_name hmethod), Query.encode_of_not_encodable hparams]
  rfl

theorem plan_of_placeable {method : Method} {params : Json} (h : Placeable method params) :
    ∃ verb cargo, plan method params = .ok (verb, cargo) := by
  rcases h with hpost | ⟨hquery, hparams⟩
  · obtain rfl : Verb.post.method = method := Method.eq_of_name hpost.symm
    exact ⟨.post, .body params, rfl⟩
  · obtain ⟨v, rfl⟩ := Verb.exists_method (m := method) (by grind)
    obtain ⟨pairs, hpairs⟩ := Query.encode_of_encodable hparams
    refine ⟨v, .query pairs, ?_⟩
    rw [plan_method, if_pos (usesQuery_of_name hquery), hpairs]
    rfl

theorem method_of_plan {method : Method} {params : Json} {verb : Verb} {cargo : Cargo}
    (h : plan method params = .ok (verb, cargo)) : verb.method = method := by
  cases hverb : Verb.ofMethod method with
  | error e => simp [plan, hverb, bind, Except.bind] at h
  | ok v =>
    obtain rfl := Verb.ofMethod_eq_ok_iff.mp hverb
    rw [plan_method] at h
    split at h
    · cases hpairs : Query.encode params with
      | error e => simp [hpairs, Except.map] at h
      | ok pairs =>
        rw [hpairs] at h
        cases h
        rfl
    · cases h
      rfl

/-! ## The request -/

theorem withHeader?_spec {r r' : Request} {name value : String}
    (h : r.withHeader? name value = some r') :
    r'.method = r.method ∧ r'.headers = r.headers ++ [(name, value)] := by
  unfold Request.withHeader? at h
  split at h
  · cases h
    exact ⟨rfl, rfl⟩
  · cases h

theorem method_of_to? {method : Method} {address : String} {timeout : Nat} {r : Request}
    (h : Request.to? method address timeout = some r) : r.method = method := by
  unfold Request.to? at h
  split at h
  · cases h
  · split at h
    · cases h
    · split at h <;> cases h <;> rfl

theorem load_spec (cargo : Cargo) (r : Request) :
    (cargo.load r).method = r.method ∧ r.headers ⊆ (cargo.load r).headers := by
  cases cargo with
  | query pairs => exact ⟨rfl, List.Subset.refl _⟩
  | body document => exact ⟨rfl, List.subset_append_left _ _⟩

theorem request?_spec {settings : Settings} {verb : Verb} {path : String} {cargo : Cargo}
    {token : Secret} {now : Instant} {r : Request}
    (h : request? settings verb path cargo token now = some r) :
    r.method = verb.method ∧ (tokenHeader, bearer token) ∈ r.headers := by
  simp only [request?, headers, List.foldlM_cons, List.foldlM_nil, Option.bind_eq_bind,
    Option.bind_eq_some_iff, Option.pure_def, Option.some.injEq] at h
  obtain ⟨bare, hbare, full, ⟨referred, hreferred, authorized, hauthorized, rfl⟩, h⟩ := h
  obtain ⟨hmethod, -⟩ := withHeader?_spec hreferred
  obtain ⟨hmethod', hheaders⟩ := withHeader?_spec hauthorized
  obtain ⟨hloaded, hsubset⟩ := load_spec cargo authorized
  obtain ⟨-, hr⟩ := Option.ite_none_right_eq_some.mp h
  obtain rfl := Option.some.inj hr
  refine ⟨?_, hsubset ?_⟩
  · exact hloaded.trans (hmethod'.trans (hmethod.trans (method_of_to? hbare)))
  · simp [hheaders]

/-! ## The answer -/

variable {σ α : Type} [Body α]

theorem isSuccess_iff {status : Nat} : isSuccess status = true ↔ 200 ≤ status ∧ status < 300 := by
  simp [isSuccess]

theorem decode_error {status : Nat} {body : List UInt8} {e : CallError}
    (h : (decode status body : Except CallError α) = .error e) : ∃ f, e = .decode status f := by
  simp only [decode] at h
  split at h
  · cases h
  · next f _ =>
    cases h
    exact ⟨f, rfl⟩

theorem conclude_eq_ok_iff {d : Descriptor} {answer : Except NetworkFault Answer}
    {response : Response α} :
    conclude d answer = .ok response ↔
      ∃ a, answer = .ok a ∧ (200 ≤ a.status ∧ a.status < 300) ∧
        decode a.status a.body = .ok response.data ∧ response.status = a.status ∧
        response.request = d := by
  constructor
  · intro h
    cases answer with
    | error f => cases h
    | ok a =>
      simp only [conclude] at h
      split at h
      · next hstatus =>
        cases hdata : (decode a.status a.body : Except CallError α) with
        | error e =>
          rw [hdata] at h
          cases h
        | ok data =>
          rw [hdata] at h
          cases h
          exact ⟨a, rfl, isSuccess_iff.mp hstatus, hdata, rfl, rfl⟩
      · cases h
  · obtain ⟨data, status, request⟩ := response
    rintro ⟨a, rfl, hstatus, hdata, rfl, rfl⟩
    have hdata : (decode a.status a.body : Except CallError α) = .ok data := hdata
    simp [conclude, isSuccess_iff.mpr hstatus, hdata, Except.map]

/-! ## The call -/

/-- What a call comes to once it has its token. It sends its request, if there is one to send, and so
one at most, for its method and with the token; and it returns what the answer to that request amounts
to. -/
structure Placed (settings : Settings) (d : Descriptor) (token : Secret) (sent : List Sent)
    (result : Except CallError (Response α)) : Prop where
  sends : ∃ verb cargo now, plan d.method d.params = .ok (verb, cargo) ∧
    sent.map (·.request) = (request? settings verb d.path cargo token now).toList
  once : sent.length ≤ 1
  addressed : ∀ s ∈ sent,
    s.request.method = d.method ∧ (tokenHeader, bearer token) ∈ s.request.headers
  ok_iff : ∀ response, result = .ok response ↔ ∃ s ∈ sent, ∃ a, s.answer = .ok a ∧
    (200 ≤ a.status ∧ a.status < 300) ∧ decode a.status a.body = .ok response.data ∧
    response.status = a.status ∧ response.request = d
  failed : ∀ s ∈ sent, ∀ a, s.answer = .ok a → ¬ (200 ≤ a.status ∧ a.status < 300) →
    result = .error (.status a.status (Answer.failureBody a.body))
  undecoded : ∀ s ∈ sent, ∀ a e, s.answer = .ok a → (200 ≤ a.status ∧ a.status < 300) →
    (decode a.status a.body : Except CallError α) = .error e →
    result = .error e ∧ ∃ f, e = .decode a.status f
  unanswered : ∀ s ∈ sent, ∀ f, s.answer = .error f → result = .error (.network f)
  unsent : sent = [] → result = .error (.network .refused)

section Placed

variable {settings : Settings} {d : Descriptor} {verb : Verb} {cargo : Cargo} {token : Secret}
  {now : Instant}

theorem placed_unsent (hplan : plan d.method d.params = .ok (verb, cargo))
    (hrequest : request? settings verb d.path cargo token now = none) :
    Placed (α := α) settings d token [] (.error (.network .refused)) where
  sends := ⟨verb, cargo, now, hplan, by simp [hrequest]⟩
  once := by simp
  addressed := by simp
  ok_iff := by simp
  failed := by simp
  undecoded := by simp
  unanswered := by simp
  unsent _ := rfl

theorem placed_sent {r : Request} (hplan : plan d.method d.params = .ok (verb, cargo))
    (hrequest : request? settings verb d.path cargo token now = some r)
    (answer : Except NetworkFault Answer) :
    Placed (α := α) settings d token [⟨r, answer⟩] (conclude d answer) where
  sends := ⟨verb, cargo, now, hplan, by simp [hrequest]⟩
  once := by simp
  addressed := by
    obtain ⟨hmethod, htoken⟩ := request?_spec hrequest
    simp [hmethod, htoken, method_of_plan hplan]
  ok_iff := by simp [conclude_eq_ok_iff]
  failed := by
    simp only [List.mem_singleton, forall_eq]
    rintro a rfl hstatus
    simp [conclude, mt isSuccess_iff.mp hstatus, CallError.ofAnswer]
  undecoded := by
    simp only [List.mem_singleton, forall_eq]
    rintro a e rfl hstatus hdata
    refine ⟨?_, decode_error hdata⟩
    simp [conclude, isSuccess_iff.mpr hstatus, hdata, Except.map]
  unanswered := by
    simp only [List.mem_singleton, forall_eq]
    rintro f rfl
    rfl
  unsent := by simp

end Placed

/-- What a call does, in its order: first the method and the parameters are checked, then a token is
asked for, and then the call is placed. -/
structure Conducted (settings : Settings) (ask : Acquisition (σ × List Sent)) (d : Descriptor)
    (session : Session (σ × List Sent)) (done : Done (σ × List Sent) (Response α)) : Prop where
  unsupported : d.method.name ∉ ["GET", "POST", "DELETE"] →
    done.result = some (.error (.unsupportedMethod d.method.name)) ∧ done.session = session
  unencodable : d.method.name ∈ ["GET", "DELETE"] → ¬ Query.Encodable d.params →
    done.result = some (.error .invalidPayload) ∧ done.session = session
  brokeOff : Placeable d.method d.params → (ask session).result = none →
    done.result = none ∧ done.session = (ask session).session
  refused : Placeable d.method d.params → ∀ e, (ask session).result = some (.error e) →
    done.result = some (.error (.token e)) ∧ done.session = (ask session).session
  placed : Placeable d.method d.params → ∀ token, (ask session).result = some (.ok token) →
    ∃ sent result, done.result = some result ∧ done.session.desk = (ask session).session.desk ∧
      done.session.record = (ask session).session.record ++ sent ∧
      Placed settings d token sent result

theorem dispatch_of_plan_error (client : Client) (network : Network σ) (ask : Acquisition σ)
    (kind : CallKind) {d : Descriptor} {e : CallError} (h : plan d.method d.params = .error e)
    (session : Session σ) :
    let done : Done σ (Response α) := client.dispatch network ask kind d session
    done.result = some (.error e) ∧ done.session = session := by
  simp [dispatch, h, Done.surround, Done.still]

theorem dispatch_of_plan (client : Client) (network : Network σ) (ask : Acquisition σ)
    (kind : CallKind) {d : Descriptor} {verb : Verb} {cargo : Cargo}
    (h : plan d.method d.params = .ok (verb, cargo)) (session : Session σ) :
    let done : Done σ (Response α) := client.dispatch network ask kind d session
    let performed : Done σ (Response α) :=
      client.perform network ask (dispatchSpan kind d) verb cargo d session
    done.result = performed.result ∧ done.session = performed.session := by
  simp [dispatch, h, Done.surround]

theorem perform_placed (client : Client) (network : Network σ)
    (ask : Acquisition (σ × List Sent)) (span : Span) {verb : Verb} {cargo : Cargo}
    {d : Descriptor} (hplan : plan d.method d.params = .ok (verb, cargo))
    {session : Session (σ × List Sent)} {token : Secret}
    (h : (ask session).result = some (.ok token)) :
    let done : Done _ (Response α) := client.perform network.recorded ask span verb cargo d session
    ∃ sent result, done.result = some result ∧ done.session.desk = (ask session).session.desk ∧
      done.session.record = (ask session).session.record ++ sent ∧
      Placed client.settings d token sent result := by
  simp only [perform, h]
  -- the request is made when the token is there, with the clock's reading of that moment
  cases hrequest : request? client.settings verb d.path cargo token
      (network.recorded.clock (ask session).session.world).1 with
  | none => exact ⟨[], _, rfl, trivial, (List.append_nil _).symm, placed_unsent hplan hrequest⟩
  | some r => exact ⟨_, _, rfl, trivial, rfl, placed_sent hplan hrequest _⟩

theorem dispatch_conducted (client : Client) (network : Network σ)
    (ask : Acquisition (σ × List Sent)) (kind : CallKind) (d : Descriptor)
    (session : Session (σ × List Sent)) :
    Conducted (α := α) client.settings ask d session
      (client.dispatch network.recorded ask kind d session) where
  unsupported hmethod :=
    dispatch_of_plan_error client _ ask kind (plan_of_unsupported hmethod d.params) session
  unencodable hmethod hparams :=
    dispatch_of_plan_error client _ ask kind (plan_of_not_encodable hmethod hparams) session
  brokeOff hplaceable hnone := by
    obtain ⟨verb, cargo, hplan⟩ := plan_of_placeable hplaceable
    simpa [perform, hnone] using
      dispatch_of_plan (α := α) client network.recorded ask kind hplan session
  refused hplaceable e herror := by
    obtain ⟨verb, cargo, hplan⟩ := plan_of_placeable hplaceable
    simpa [perform, herror] using
      dispatch_of_plan (α := α) client network.recorded ask kind hplan session
  placed hplaceable token htoken := by
    obtain ⟨verb, cargo, hplan⟩ := plan_of_placeable hplaceable
    obtain ⟨hresult, hsession⟩ :=
      dispatch_of_plan (α := α) client network.recorded ask kind hplan session
    rw [hresult, hsession]
    exact perform_placed client network ask (dispatchSpan kind d) hplan htoken

theorem Placed.ne_unsupported {settings : Settings} {d : Descriptor} {token : Secret}
    {sent : List Sent} {result : Except CallError (Response α)}
    (h : Placed settings d token sent result) (name : String) :
    result ≠ .error (.unsupportedMethod name) := by
  rintro rfl
  cases sent with
  | nil => simpa using h.unsent rfl
  | cons s rest =>
    have hs : s ∈ s :: rest := List.mem_cons_self
    cases hanswer : s.answer with
    | error f => simpa using h.unanswered s hs f hanswer
    | ok a =>
      by_cases hstatus : 200 ≤ a.status ∧ a.status < 300
      · cases hdata : (decode a.status a.body : Except CallError α) with
        | error e =>
          obtain ⟨heq, f, rfl⟩ := h.undecoded s hs a e hanswer hstatus hdata
          cases heq
        | ok data =>
          have hok := (h.ok_iff ⟨data, a.status, d⟩).mpr ⟨s, hs, a, hanswer, hstatus, hdata, rfl, rfl⟩
          cases hok
      · simpa using h.failed s hs a hanswer hstatus

section Conducted

variable {settings : Settings} {d : Descriptor} {ask : Acquisition (σ × List Sent)}
  {session : Session (σ × List Sent)} {done : Done (σ × List Sent) (Response α)}

theorem Conducted.result_cases (h : Conducted settings ask d session done)
    (hmethod : d.method.name ∈ ["GET", "POST", "DELETE"]) :
    done.result = some (.error .invalidPayload) ∨ done.result = none ∨
      (∃ e, done.result = some (.error (.token e))) ∨
      ∃ token sent result, done.result = some result ∧ Placed settings d token sent result := by
  by_cases hplaceable : Placeable d.method d.params
  · cases hasked : (ask session).result with
    | none => exact .inr (.inl (h.brokeOff hplaceable hasked).1)
    | some asked =>
      cases asked with
      | error e => exact .inr (.inr (.inl ⟨e, (h.refused hplaceable e hasked).1⟩))
      | ok token =>
        obtain ⟨sent, result, hresult, -, -, placed⟩ := h.placed hplaceable token hasked
        exact .inr (.inr (.inr ⟨token, sent, result, hresult, placed⟩))
  · have hpost : d.method.name ≠ "POST" := fun hpost => hplaceable (.inl hpost)
    have hquery : d.method.name ∈ ["GET", "DELETE"] := by
      simpa [hpost] using hmethod
    exact .inl (h.unencodable hquery fun hparams => hplaceable (.inr ⟨hquery, hparams⟩)).1

theorem Conducted.method_of_ok (h : Conducted settings ask d session done) {response : Response α}
    (hok : done.result = some (.ok response)) : d.method.name ∈ ["GET", "POST", "DELETE"] := by
  refine Decidable.byContradiction fun hmethod => ?_
  simp [(h.unsupported hmethod).1] at hok

theorem Conducted.request_of_ok (h : Conducted settings ask d session done) {response : Response α}
    (hok : done.result = some (.ok response)) : response.request = d := by
  rcases h.result_cases (h.method_of_ok hok) with
    hresult | hresult | ⟨e, hresult⟩ | ⟨token, sent, result, hresult, placed⟩
  · simp [hresult] at hok
  · simp [hresult] at hok
  · simp [hresult] at hok
  · obtain rfl : result = .ok response := by simpa [hresult] using hok
    obtain ⟨-, -, -, -, -, -, -, hrequest⟩ := (placed.ok_iff response).mp rfl
    exact hrequest

theorem Conducted.ne_unsupported (h : Conducted settings ask d session done)
    (hmethod : d.method.name ∈ ["GET", "POST", "DELETE"]) (name : String) :
    done.result ≠ some (.error (.unsupportedMethod name)) := by
  rcases h.result_cases hmethod with
    hresult | hresult | ⟨e, hresult⟩ | ⟨token, sent, result, hresult, placed⟩
  · simp [hresult]
  · simp [hresult]
  · simp [hresult]
  · simpa [hresult] using placed.ne_unsupported name

end Conducted

theorem perform_span (client : Client) (network : Network σ) (ask : Acquisition σ)
    (span span' : Span) (verb : Verb) (cargo : Cargo) (d : Descriptor) (session : Session σ) :
    let done : Done σ (Response α) := client.perform network ask span verb cargo d session
    let done' : Done σ (Response α) := client.perform network ask span' verb cargo d session
    done.result = done'.result ∧ done.session = done'.session := by
  simp only [perform]
  rcases (ask session).result with _ | e | token
  · exact ⟨rfl, rfl⟩
  · exact ⟨rfl, rfl⟩
  · exact ⟨rfl, rfl⟩

/-- The kind of a call shows in what is told of it only. -/
theorem dispatch_kind (client : Client) (network : Network σ) (ask : Acquisition σ)
    (kind kind' : CallKind) (d : Descriptor) (session : Session σ) :
    let done : Done σ (Response α) := client.dispatch network ask kind d session
    let done' : Done σ (Response α) := client.dispatch network ask kind' d session
    done.result = done'.result ∧ done.session = done'.session := by
  cases hplan : plan d.method d.params with
  | error e => simp [dispatch_of_plan_error client network ask _ hplan session]
  | ok planned =>
    obtain ⟨verb, cargo⟩ := planned
    obtain ⟨hresult, hsession⟩ := dispatch_of_plan (α := α) client network ask kind hplan session
    obtain ⟨hresult', hsession'⟩ :=
      dispatch_of_plan (α := α) client network ask kind' hplan session
    obtain ⟨hperform, hperform'⟩ := perform_span (α := α) client network ask
      (dispatchSpan kind d) (dispatchSpan kind' d) verb cargo d session
    exact ⟨hresult.trans (hperform.trans hresult'.symm),
      hsession.trans (hperform'.trans hsession'.symm)⟩

/-- A call of any kind, in whatever way its token is asked for, keeps the order of its stages and
sends one request of its own at most. So does a request while no other call waits for a token; on
the network itself it comes to the same as on the network with a record. -/
theorem request_conducted (client : Client) (network : Network σ) (method : Method) (path : String)
    (params : Json) (session : Session (σ × List Sent)) :
    (∀ ask kind, Conducted (α := α) client.settings ask ⟨method, path, params⟩ session
      (client.dispatch network.recorded ask kind ⟨method, path, params⟩ session)) ∧
    Conducted (α := α) client.settings (client.obtain network.recorded) ⟨method, path, params⟩
      session (client.request network.recorded method path params session) ∧
    (client.request network method path params session.unrecorded : Done σ (Response α)) =
      (client.request network.recorded method path params session).onSession Prod.fst :=
  ⟨fun ask kind => dispatch_conducted client network ask kind ⟨method, path, params⟩ session,
    dispatch_conducted client network _ .request ⟨method, path, params⟩ session,
    client.request_through network.recorded_through method path params session⟩

end Client

end Wayfare
