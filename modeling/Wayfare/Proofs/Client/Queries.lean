import Wayfare.Proofs.Client.Walk
import Wayfare.Proofs.Settings.Origin
import Wayfare.Proofs.Url.Form
import Wayfare.Proofs.Url.Web

/-!
The query on the wire. The address of a request with a query is that of its path below the base, and
the query is that of the parameters.
-/
namespace Wayfare

/-- Text that begins no query and no fragment of an address. -/
def Url.Plain (s : String) : Prop :=
  '?' ∉ s.toList ∧ '#' ∉ s.toList

theorem Url.Plain.endpoint {c : Credentials} {path : String} (hbase : Plain c.baseUrl)
    (hpath : Plain path) : Plain (c.endpoint path) := by
  rw [Plain, Credentials.endpoint, String.toList_append, List.mem_append, List.mem_append]
  exact ⟨not_or_intro hbase.1 hpath.1, not_or_intro hbase.2 hpath.2⟩

namespace Client

variable {σ α : Type} [Body α] {settings : Settings} {verb : Verb} {path : String} {token : Secret} {now : Instant}
  {r : Request}

theorem url_of_to? {method : Method} {address : String} {timeout : Nat}
    (h : Request.to? method address timeout = some r) :
    ∃ v, Url.parse address = .ok v ∧ (r.url = v ∨ r.url = v.withoutUser) := by
  simp only [Request.to?] at h
  split at h
  · cases h
  next v hv =>
  refine ⟨v, hv, ?_⟩
  split at h
  · cases h
  split at h
  · obtain rfl := Option.some.inj h
    exact .inr rfl
  · obtain rfl := Option.some.inj h
    exact .inl rfl

/-- The address of a request with pairs: the one that its text writes, with or without the user, and
the pairs behind it. -/
theorem url_of_request? {pairs : List (String × String)}
    (h : request? settings verb path (.query pairs) token now = some r) :
    ∃ v bare, Url.parse (settings.credentials.endpoint path) = .ok v ∧
      (bare = v ∨ bare = v.withoutUser) ∧ bare.isReachable = true ∧
      r.url = (bare.withPairs pairs).onWire := by
  simp only [request?, headers, List.foldlM_cons, List.foldlM_nil, Option.bind_eq_bind,
    Option.bind_eq_some_iff, Option.pure_def, Option.some.injEq] at h
  obtain ⟨first, hfirst, full, ⟨referred, hreferred, authorized, hauthorized, rfl⟩, h⟩ := h
  obtain ⟨hsendable, hr⟩ := Option.ite_none_right_eq_some.mp h
  obtain rfl := Option.some.inj hr
  obtain ⟨v, hv, hbare⟩ := url_of_to? hfirst
  have hurl : authorized.url = first.url := by
    rw [Request.url_of_withHeader? hauthorized, Request.url_of_withHeader? hreferred]
  have hreachable : (authorized.url.withPairs pairs).isReachable = true :=
    (Bool.and_eq_true_iff.mp hsendable).1
  exact ⟨v, authorized.url, hv, by rwa [hurl], hreachable, rfl⟩

/-- Neither the base nor the path begins a query of the address. -/
theorem query_of_parse {c : Credentials} {v : Url} (hbase : Url.Plain c.baseUrl)
    (hpath : Url.Plain path) (hv : Url.parse (c.endpoint path) = .ok v)
    (hweb : Url.familyOf v.scheme = .web) : v.query = none := by
  obtain ⟨-, -, -, -, -, -, -, -, hquery⟩ := Url.web_eq_ok hv hweb
  rw [hquery, Url.Parts.writtenQuery, Url.query_ofText (hbase.endpoint hpath).1]
  rfl

/-- The query of a request is made of its pairs alone. -/
theorem query_of_request? {pairs : List (String × String)}
    (hbase : Url.Plain settings.credentials.baseUrl) (hpath : Url.Plain path)
    (h : request? settings verb path (.query pairs) token now = some r) :
    r.url.query = if pairs = [] then none else some (Url.Form.encode pairs) := by
  obtain ⟨v, bare, hv, hbare, hreachable, hurl⟩ := url_of_request? h
  have hweb : Url.familyOf v.scheme = .web := by
    rcases hbare with rfl | rfl <;> exact Url.familyOf_of_isReachable hreachable
  have hnone := query_of_parse hbase hpath hv hweb
  have hbareQuery : bare.query = none := by
    rcases hbare with rfl | rfl <;> exact hnone
  rw [hurl, Url.query_withPairs hbareQuery]

/-- What a call with placeable parameters sends, once its token is there, is the request of its plan. -/
theorem Conducted.exists_sent {ask : Acquisition (σ × List Sent)} {d : Descriptor}
    {session : Session (σ × List Sent)} {done : Done (σ × List Sent) (Response α)}
    (h : Conducted settings ask d session done) (hplaceable : Placeable d.method d.params) :
    ∃ sent, done.session.record = (ask session).session.record ++ sent ∧
      ∀ s ∈ sent, ∃ verb cargo token now, plan d.method d.params = .ok (verb, cargo) ∧
        request? settings verb d.path cargo token now = some s.request := by
  cases hasked : (ask session).result with
  | none => exact ⟨[], by simp [(h.brokeOff hplaceable hasked).2], by simp⟩
  | some asked =>
    cases asked with
    | error e => exact ⟨[], by simp [(h.refused hplaceable e hasked).2], by simp⟩
    | ok token =>
      obtain ⟨sent, result, -, -, hrecord, placed⟩ := h.placed hplaceable token hasked
      refine ⟨sent, hrecord, fun s hs => ?_⟩
      obtain ⟨verb, cargo, now, hplan, hsent⟩ := placed.sends
      have hmem : s.request ∈ (request? settings verb d.path cargo token now).toList :=
        hsent ▸ List.mem_map_of_mem hs
      exact ⟨verb, cargo, token, now, hplan, Option.mem_toList.mp hmem⟩

/-- With a verb that uses the query, and parameters that have one, it is the request with those
pairs. -/
theorem Conducted.exists_query {ask : Acquisition (σ × List Sent)} {params : Json}
    {session : Session (σ × List Sent)} {done : Done (σ × List Sent) (Response α)}
    (h : Conducted settings ask ⟨verb.method, path, params⟩ session done)
    (hverb : verb.usesQuery = true) (hparams : Query.Encodable params) :
    ∃ sent pairs, done.session.record = (ask session).session.record ++ sent ∧
      Query.encode params = .ok pairs ∧
      ∀ s ∈ sent, ∃ token now,
        request? settings verb path (.query pairs) token now = some s.request := by
  obtain ⟨pairs, hpairs⟩ := Query.encode_of_encodable hparams
  have hquery : verb.method.name ∈ ["GET", "DELETE"] := by
    cases verb with
    | post => cases hverb
    | _ => simp [Verb.method]
  have hplan : plan verb.method params = .ok (verb, .query pairs) := by
    rw [plan_method, if_pos hverb, hpairs]
    rfl
  obtain ⟨sent, hrecord, hsent⟩ := h.exists_sent (.inr ⟨hquery, hparams⟩)
  refine ⟨sent, pairs, hrecord, hpairs, fun s hs => ?_⟩
  obtain ⟨verb', cargo, token, now, hplan', hrequest⟩ := hsent s hs
  obtain ⟨rfl, rfl⟩ : verb' = verb ∧ cargo = .query pairs := by
    simpa using Except.ok.inj (hplan'.symm.trans hplan)
  exact ⟨token, now, hrequest⟩

/-- What a call sends with a verb that uses the query reads back, from the query of its address, as the
pairs of the parameters; without pairs the address has no query. Neither the base nor the path may
begin a query of their own. -/
theorem sent_query_reads_back (client : Client) (network : Network σ)
    (ask : Acquisition (σ × List Sent)) (kind : CallKind) {verb : Verb} {path : String}
    {params : Json} (session : Session (σ × List Sent)) (hverb : verb.usesQuery = true)
    (hparams : Query.Encodable params)
    (hbase : Url.Plain client.settings.credentials.baseUrl) (hpath : Url.Plain path) :
    let done : Done (σ × List Sent) (Response α) :=
      client.dispatch network.recorded ask kind ⟨verb.method, path, params⟩ session
    ∃ sent, done.session.record = (ask session).session.record ++ sent ∧ ∀ s ∈ sent,
      Query.encode params = .ok (Url.Form.decode (s.request.url.query.getD [])) ∧
      (s.request.url.query = none ↔ Query.encode params = .ok []) := by
  intro done
  have conducted : Conducted client.settings ask ⟨verb.method, path, params⟩ session done :=
    dispatch_conducted client network ask kind _ session
  obtain ⟨sent, pairs, hrecord, hpairs, hsent⟩ := conducted.exists_query hverb hparams
  refine ⟨sent, hrecord, fun s hs => ?_⟩
  obtain ⟨token, now, hrequest⟩ := hsent s hs
  rw [query_of_request? hbase hpath hrequest, hpairs]
  by_cases hnone : pairs = []
  · subst hnone
    simp [Url.Form.decode, Text.cut, Text.cutBy]
  · simp [hnone, Url.Form.decode_encode]

/-- Parameters with separators in their keys and values. -/
def oddParams : Json :=
  .object [("", .string "+ %"), ("a&b", .object [("=", .array [.string "é", .bool true])])]

def oddCall : Done (Nat × List Sent) (Response Json) :=
  sampleClient.dispatch linking.recorded sampleToken .request
    ⟨Verb.get.method, "/items", oddParams⟩ ⟨{}, 0, []⟩

theorem odd_query_reads_back :
    ∃ s : Sent, oddCall.session.record = [s] ∧
      s.request.url.text =
        "https://api.test/items?=%2B+%25&a%26b%5B%3D%5D%5B%5D=%C3%A9&a%26b%5B%3D%5D%5B%5D=true" ∧
      Url.Form.decode (s.request.url.query.getD []) =
        [("", "+ %"), ("a&b[=][]", "é"), ("a&b[=][]", "true")] := by
  obtain ⟨sent, hrecord, hsent⟩ := sent_query_reads_back (α := Json) sampleClient linking
    sampleToken .request ⟨{}, 0, []⟩ (show Verb.get.usesQuery = true from rfl)
    (show Query.Encodable oddParams from .inr ⟨_, rfl⟩)
    ⟨by decide, by decide⟩ (show Url.Plain "/items" from ⟨by decide, by decide⟩)
  have htexts : oddCall.session.record.map (·.request.url.text) =
      ["https://api.test/items?=%2B+%25&a%26b%5B%3D%5D%5B%5D=%C3%A9&a%26b%5B%3D%5D%5B%5D=true"] := by
    decide +kernel
  obtain ⟨s, hone, htext⟩ := List.map_eq_singleton_iff.mp htexts
  obtain rfl : [s] = sent := hone.symm.trans (hrecord.trans (List.nil_append sent))
  have hpairs : Query.encode oddParams =
      .ok [("", "+ %"), ("a&b[=][]", "é"), ("a&b[=][]", "true")] := by
    rfl
  have hread := (hsent s (List.mem_singleton_self s)).1
  exact ⟨s, hone, htext, Except.ok.inj (hread.symm.trans hpairs)⟩

end Client

end Wayfare
