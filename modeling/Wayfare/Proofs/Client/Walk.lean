import Wayfare.Proofs.Client.Dispatch
import Wayfare.Proofs.Desk.Play

/-!
Walks from page to page. However many pages lie between, a page asks for what the first call asked
for, at the offset of its own link. Each is the request for which its link stands, or nothing at all.
-/
namespace Wayfare.Client

variable {σ α : Type} [Paged α] [Body α]

/-! ## One page -/

/-- The offset of the page that some data links to. -/
def linkedOffset (relation : Relation) (data : α) : Option String :=
  (Paged.link relation data).bind Page.offsetOfLink

/-- Without a link or without a verb a page leaves the session as it was; else it is a call. -/
theorem pageWith_cases (client : Client) (network : Network σ) (ask : Acquisition σ)
    (relation : Relation) (previous : Response α) (session : Session σ) :
    let paged := client.pageWith network ask relation previous session
    (linkedOffset relation previous.data = none ∧
      ∃ message, paged = .still session (some (.ok none)) [noPageEvent relation message]) ∨
    ∃ offset, linkedOffset relation previous.data = some offset ∧
      ((∃ e, Verb.ofMethod previous.request.method = .error e ∧
          paged = .still session (some (.error e))) ∨
        ∃ verb, Verb.ofMethod previous.request.method = .ok verb ∧
          paged = (client.dispatch network ask .page (pageRequest previous.request offset)
            session).map some) := by
  simp only [pageWith, linkedOffset]
  cases Paged.link relation previous.data with
  | none => exact .inl ⟨rfl, _, rfl⟩
  | some link =>
    simp only [Option.bind_some]
    cases Page.offsetOfLink link with
    | none => exact .inl ⟨rfl, _, rfl⟩
    | some offset =>
      refine .inr ⟨offset, rfl, ?_⟩
      cases Verb.ofMethod previous.request.method with
      | error e => exact .inl ⟨e, rfl, rfl⟩
      | ok verb => exact .inr ⟨verb, rfl, rfl⟩

section Recorded

variable {client : Client} {network : Network σ} {ask : Acquisition (σ × List Sent)}
  {relation : Relation} {previous : Response α} {session : Session (σ × List Sent)}

theorem pageWith_of_ok {next : Response α}
    (h : (client.pageWith network.recorded ask relation previous session).result =
      some (.ok (some next))) :
    ∃ offset, linkedOffset relation previous.data = some offset ∧
      next.request = pageRequest previous.request offset := by
  rcases pageWith_cases client network.recorded ask relation previous session with
    ⟨-, message, hpage⟩ | ⟨offset, hlinked, ⟨e, -, hpage⟩ | ⟨verb, -, hpage⟩⟩
  · simp [hpage, Done.still] at h
  · simp [hpage, Done.still] at h
  · rw [hpage] at h
    obtain ⟨response, hok, hnext⟩ := Done.result_map_eq_ok_iff.mp h
    obtain rfl := Option.some.inj hnext
    exact ⟨offset, hlinked, (dispatch_conducted client network ask .page _ session).request_of_ok hok⟩

/-- Without a page, and without a verb, nothing is sent, counted or changed. -/
theorem pageWith_unsent
    (h : (client.pageWith network.recorded ask relation previous session).result =
        some (.ok none) ∨
      ∃ name, (client.pageWith network.recorded ask relation previous session).result =
        some (.error (.unsupportedMethod name))) :
    (client.pageWith network.recorded ask relation previous session).session = session ∧
      ∀ kind outcome, Journal.count kind outcome
        (client.pageWith network.recorded ask relation previous session).journal = 0 := by
  rcases pageWith_cases client network.recorded ask relation previous session with
    ⟨-, message, hpage⟩ | ⟨offset, -, ⟨e, -, hpage⟩ | ⟨verb, hverb, hpage⟩⟩
  · rw [hpage]
    exact ⟨rfl, fun kind outcome => rfl⟩
  · rw [hpage]
    exact ⟨rfl, fun kind outcome => rfl⟩
  · -- a call whose method has a verb ends in neither way
    rw [hpage] at h
    rcases h with hnone | ⟨name, herror⟩
    · obtain ⟨response, -, hnone⟩ := Done.result_map_eq_ok_iff.mp hnone
      cases hnone
    · have hmethod : previous.request.method.name ∈ ["GET", "POST", "DELETE"] := by
        rw [← Verb.ofMethod_eq_ok_iff.mp hverb]
        exact verb.name_mem
      have conducted := dispatch_conducted (α := α) client network ask .page
        (pageRequest previous.request offset) session
      exact absurd (Done.result_map_eq_error_iff.mp herror)
        (conducted.ne_unsupported hmethod name)

end Recorded

/-! ## Walks -/

theorem pageRequest_pageRequest (d : Descriptor) (offset later : String) :
    pageRequest (pageRequest d offset) later = pageRequest d later := by
  simp [pageRequest, Page.withOffset_withOffset]

/-- The answers that pages lead to: each step takes any relation, from any session, and in any way to
ask for a token. -/
inductive Walk (client : Client) (network : Network σ) (first : Response α) : Response α → Prop
  | start : Walk client network first first
  | step {last next : Response α} {ask : Acquisition σ} {relation : Relation} {session : Session σ}
      (walk : Walk client network first last)
      (page : (client.pageWith network ask relation last session).result = some (.ok (some next))) :
      Walk client network first next

theorem Walk.pageRequest {client : Client} {network : Network σ} {first last : Response α}
    (walk : Walk client network.recorded first last) (offset : String) :
    Client.pageRequest last.request offset = Client.pageRequest first.request offset := by
  induction walk with
  | start => rfl
  | step walk page ih =>
    -- the offset of this page is gone once the next one is set, so none piles up
    obtain ⟨linked, -, hrequest⟩ := pageWith_of_ok page
    rw [hrequest, pageRequest_pageRequest, ih]

/-- Wherever a walk has come, the page that is linked to there is the call with the method, the path
and the parameters of the first call, and the linked offset: the result is the same, and so are all
that is sent and the session that is left. The answer names that call as its request. Of any answer, a
page that is not there, or whose method has no verb, sends nothing, changes nothing and counts nothing.
On the network itself a page comes to the same as on the network with a record. -/
theorem page_in_walk {client : Client} {network : Network σ} {method : Method} {path : String}
    {params : Json} {ask₀ : Acquisition (σ × List Sent)} {session₀ : Session (σ × List Sent)}
    {first last : Response α}
    (call : (client.requestWith network.recorded ask₀ method path params session₀).result =
      some (.ok first))
    (walk : Walk client network.recorded first last) (ask : Acquisition (σ × List Sent))
    (relation : Relation) (session : Session (σ × List Sent)) :
    (∀ offset, linkedOffset relation last.data = some offset →
      let paged := client.pageWith network.recorded ask relation last session
      let requested : Done (σ × List Sent) (Response α) :=
        client.requestWith network.recorded ask method path (Page.withOffset params offset) session
      paged.result = (requested.map some).result ∧ paged.session = requested.session) ∧
    (∀ next,
      (client.pageWith network.recorded ask relation last session).result = some (.ok (some next)) →
      ∃ offset, linkedOffset relation last.data = some offset ∧
        next.request = ⟨method, path, Page.withOffset params offset⟩) ∧
    (∀ previous : Response α,
      let paged := client.pageWith network.recorded ask relation previous session
      (paged.result = some (.ok none) ∨
        ∃ name, paged.result = some (.error (.unsupportedMethod name))) →
      paged.session = session ∧ ∀ kind outcome, paged.journal.count kind outcome = 0) ∧
    client.page network relation last session.unrecorded =
      (client.page network.recorded relation last session).onSession Prod.fst := by
  have conducted := dispatch_conducted (α := α) client network ask₀ .request
    ⟨method, path, params⟩ session₀
  have hfirst : first.request = ⟨method, path, params⟩ := conducted.request_of_ok call
  have hlast : ∀ offset, pageRequest last.request offset =
      ⟨method, path, Page.withOffset params offset⟩ := by
    intro offset
    rw [walk.pageRequest, hfirst]
    rfl
  refine ⟨?_, ?_, fun previous => pageWith_unsent,
    client.page_through network.recorded_through relation last session⟩
  · intro offset hlinked
    obtain ⟨verb, hverb⟩ := Verb.exists_method (conducted.method_of_ok call)
    have hmethod : last.request.method = method := congrArg Descriptor.method (hlast offset)
    have hok : Verb.ofMethod last.request.method = .ok verb :=
      Verb.ofMethod_eq_ok_iff.mpr (hverb.trans hmethod.symm)
    rcases pageWith_cases client network.recorded ask relation last session with
      ⟨hnone, -⟩ | ⟨offset', hlinked', ⟨e, herror, -⟩ | ⟨verb', -, hpage⟩⟩
    · cases hnone.symm.trans hlinked
    · cases herror.symm.trans hok
    · obtain rfl : offset' = offset := Option.some.inj (hlinked'.symm.trans hlinked)
      obtain ⟨hresult, hsession⟩ := dispatch_kind (α := α) client network.recorded ask .page
        .request ⟨method, path, Page.withOffset params offset'⟩ session
      rw [hpage, hlast]
      exact ⟨congrArg (Option.map (Except.map some)) hresult, hsession⟩
  · intro next hnext
    obtain ⟨offset, hlinked, hrequest⟩ := pageWith_of_ok hnext
    exact ⟨offset, hlinked, hrequest.trans (hlast offset)⟩

/-- A network with pages at 25, 50 and so on, each with a link to the next. -/
def linking : Network Nat where
  send _ n :=
    (.ok ⟨200, [], Text.utf8 ("\x7b\"meta\":\x7b\"links\":\x7b\"next\":\"/items?page[offset]=" ++
      toString (25 * (n + 1)) ++ "\"\x7d\x7d\x7d")⟩, n + 1)
  clock n := (Desk.epoch, n)

def sampleClient : Client :=
  ⟨⟨⟨"https://api.test", "id", ⟨"secret"⟩⟩, "app", defaultTimeout⟩, Page.linkBase⟩

def sampleParams : Json :=
  .object [("keyword", .string "LON")]

/-- Always the same token, without an exchange. -/
def sampleToken : Acquisition (Nat × List Sent) :=
  fun session => ⟨some (.ok ⟨"T1"⟩), session, []⟩

def sampleCall : Done (Nat × List Sent) (Response Json) :=
  sampleClient.requestWith linking.recorded sampleToken Verb.get.method "/items" sampleParams
    ⟨{}, 0, []⟩

/-- The page behind an answer, after some requests. -/
def samplePage (previous : Response Json) (n : Nat) :
    Done (Nat × List Sent) (Option (Response Json)) :=
  sampleClient.pageWith linking.recorded sampleToken .next previous ⟨{}, n, []⟩

/-- The value of a call that succeeded. -/
def value? {β : Type} (result : Called β) : Option β :=
  result.bind Except.toOption

theorem value?_eq_some_iff {β : Type} {result : Called β} {b : β} :
    value? result = some b ↔ result = some (.ok b) := by
  rcases result with _ | e | value <;> simp [value?, Except.toOption]

/-- The third answer of a walk was asked for at the offset that the second one links to. -/
theorem third_page_of_walk :
    ∃ first second third, sampleCall.result = some (.ok first) ∧
      (samplePage first 1).result = some (.ok (some second)) ∧
      (samplePage second 2).result = some (.ok (some third)) ∧
      third.request = ⟨Verb.get.method, "/items", Page.withOffset sampleParams "50"⟩ := by
  have h : ((value? sampleCall.result).any fun first =>
      (value? (samplePage first 1).result).any fun second? => second?.any fun second =>
        linkedOffset .next second.data == some "50" &&
          (value? (samplePage second 2).result).any Option.isSome) = true := by
    decide +kernel
  simp only [Option.any_eq_true, Bool.and_eq_true, beq_iff_eq, value?_eq_some_iff,
    Option.isSome_iff_exists] at h
  obtain ⟨first, hfirst, _, hsecond, second, rfl, hlink, _, hthird, third, rfl⟩ := h
  obtain ⟨offset, hlinked, hrequest⟩ :=
    (page_in_walk hfirst (.step .start hsecond) sampleToken .next ⟨{}, 2, []⟩).2.1 third hthird
  obtain rfl : offset = "50" := Option.some.inj (hlinked.symm.trans hlink)
  exact ⟨first, second, third, hfirst, hsecond, hthird, hrequest⟩

end Wayfare.Client
