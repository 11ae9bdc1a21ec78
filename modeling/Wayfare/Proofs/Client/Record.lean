import Wayfare.Client.Page

/-!
Records of what is sent. A network that keeps a record answers as it did without: what a call comes to
on it is, with the record left out, what it comes to on the network itself.
-/
namespace Wayfare

variable {σ τ α : Type}

/-- A request that was sent, and what came of it. -/
structure Sent where
  request : Request
  answer : Except NetworkFault Answer

/-- The network with a record of what is sent over it, oldest first. -/
def Network.recorded (network : Network σ) : Network (σ × List Sent) where
  send r s :=
    let (answer, world) := network.send r s.1
    (answer, world, s.2 ++ [⟨r, answer⟩])
  clock s :=
    let (now, world) := network.clock s.1
    (now, world, s.2)

namespace Session

/-- What was sent so far. -/
def record (session : Session (σ × List Sent)) : List Sent :=
  session.world.2

def map (f : τ → σ) (session : Session τ) : Session σ :=
  ⟨session.desk, f session.world⟩

/-- The session without its record. -/
abbrev unrecorded (session : Session (σ × List Sent)) : Session σ :=
  session.map Prod.fst

end Session

def Acquired.map (f : τ → σ) (a : Acquired τ) : Acquired σ :=
  ⟨a.result, a.session.map f, a.happenings⟩

/-- The same outcome, with the session changed. -/
def Done.onSession (f : τ → σ) (d : Done τ α) : Done σ α :=
  ⟨d.result, d.session.map f, d.journal⟩

/-! ## Networks that look alike -/

/-- A map of states through which one network looks like another. -/
structure Network.Through (f : τ → σ) (inner : Network τ) (outer : Network σ) : Prop where
  send : ∀ r s, outer.send r (f s) = Prod.map id f (inner.send r s)
  clock : ∀ s, outer.clock (f s) = Prod.map id f (inner.clock s)

theorem Network.recorded_through (network : Network σ) :
    network.recorded.Through Prod.fst network where
  send _ _ := rfl
  clock _ := rfl

section Through

variable {f : τ → σ} {inner : Network τ} {outer : Network σ}

theorem Exchange.run_through (h : inner.Through f outer) (settings : Settings) (url : Url) (s : τ) :
    run outer settings url (f s) = Prod.map id f (run inner settings url s) := by
  unfold run
  cases url.wireFault? with
  | some fault => rfl
  | none =>
    cases url.isReachable with
    | false => rfl
    | true =>
      simp only [h.send]
      rcases inner.send (request settings url) s with ⟨fault | answer, s⟩
      · rfl
      · simp [h.clock]

theorem Desk.acquire_through {inner : τ → Option Grant × τ} {outer : σ → Option Grant × σ}
    (h : ∀ s, outer (f s) = Prod.map id f (inner s)) (d : Desk) (now : Instant) (s : τ) :
    d.acquire outer now (f s) =
      Prod.map id (Prod.map id (Prod.map f id)) (d.acquire inner now s) := by
  unfold acquire
  cases d.cachedAt now with
  | some value => rfl
  | none =>
    simp only [h]
    rcases inner s with ⟨_ | grant, s⟩ <;> rfl

namespace Client

variable [Body α] {ask : Acquisition τ} {asked : Acquisition σ}

theorem obtain_through (h : inner.Through f outer) (client : Client) (session : Session τ) :
    client.obtain outer (session.map f) = (client.obtain inner session).map f := by
  have hrun := Exchange.run_through h client.settings client.tokenUrl
  simp only [obtain, Session.map, h.clock, Prod.map, id_eq, Desk.acquire_through hrun]
  rfl

theorem transmit_through (h : inner.Through f outer) (request? : Option Request) (s : τ) :
    transmit outer request? (f s) = Prod.map id f (transmit inner request? s) := by
  cases request? with
  | none => rfl
  | some r => exact h.send r s

theorem perform_through (h : inner.Through f outer) (client : Client)
    (hask : ∀ session, asked (session.map f) = (ask session).map f) (span : Span) (verb : Verb)
    (cargo : Cargo) (d : Descriptor) (session : Session τ) :
    (client.perform outer asked span verb cargo d (session.map f) : Done σ (Response α)) =
      (client.perform inner ask span verb cargo d session).onSession f := by
  unfold perform
  rw [hask]
  rcases ask session with ⟨_ | e | token, session, happenings⟩
  · rfl
  · rfl
  · simp only [Acquired.map, Session.map, h.clock, transmit_through h, Prod.map, id_eq]
    rfl

theorem dispatch_through (h : inner.Through f outer) (client : Client)
    (hask : ∀ session, asked (session.map f) = (ask session).map f) (kind : CallKind)
    (d : Descriptor) (session : Session τ) :
    (client.dispatch outer asked kind d (session.map f) : Done σ (Response α)) =
      (client.dispatch inner ask kind d session).onSession f := by
  unfold dispatch
  cases plan d.method d.params with
  | error e => rfl
  | ok planned =>
    simp only [perform_through h client hask]
    rfl

/-- A call comes to the same on a network through which its own looks alike. -/
theorem request_through (h : inner.Through f outer) (client : Client) (method : Method)
    (path : String) (params : Json) (session : Session τ) :
    (client.request outer method path params (session.map f) : Done σ (Response α)) =
      (client.request inner method path params session).onSession f :=
  client.dispatch_through h (client.obtain_through h) .request ⟨method, path, params⟩ session

theorem pageWith_through [Paged α] (h : inner.Through f outer) (client : Client)
    (hask : ∀ session, asked (session.map f) = (ask session).map f) (relation : Relation)
    (previous : Response α) (session : Session τ) :
    client.pageWith outer asked relation previous (session.map f) =
      (client.pageWith inner ask relation previous session).onSession f := by
  simp only [pageWith, dispatch_through h client hask]
  cases Paged.link relation previous.data with
  | none => rfl
  | some link =>
    dsimp only
    cases Page.offsetOfLink link with
    | none => rfl
    | some offset =>
      dsimp only
      cases Verb.ofMethod previous.request.method with
      | error e => rfl
      | ok verb => rfl

theorem page_through [Paged α] (h : inner.Through f outer) (client : Client) (relation : Relation)
    (previous : Response α) (session : Session τ) :
    client.page outer relation previous (session.map f) =
      (client.page inner relation previous session).onSession f :=
  client.pageWith_through h (client.obtain_through h) relation previous session

end Client

end Through

end Wayfare
