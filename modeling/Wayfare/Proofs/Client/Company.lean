import Wayfare.Proofs.Client.Counters
import Wayfare.Proofs.Client.Discretion

/-!
Clients in company. While a call asks for a token, other calls come and go at the same desk: they share
its exchange, leave it their own, and are given up at any time. A client on its own is one whose company
does nothing, and in any company a client tells no secret.
-/
namespace Wayfare

variable {σ α : Type}

/-! ## Company -/

/-- What goes on around one call for a token. -/
structure Company (σ : Type) where
  /-- What is done at the desk before the call starts. -/
  before : List Desk.Move := []
  /-- What the clock shows when it starts. -/
  now : Instant
  /-- What is done from then on, the looks of the call among it. -/
  meanwhile : List Desk.Move := []
  /-- What has become of the network in the end. -/
  world : σ

/-- The company of each call. It may differ from call to call, as each call changes the session. -/
abbrev Companies (σ : Type) := Session σ → Company σ

namespace Company

def veiled (company : Company σ) : Company σ :=
  { company with
    before := company.before.map Desk.Move.veiled
    meanwhile := company.meanwhile.map Desk.Move.veiled }

/-- What is done from the start of a call on. If it has not returned in the end, it is given up. -/
def moves (company : Company σ) (call : Nat) : List Desk.Move :=
  .call company.now :: company.meanwhile ++ [.drop call]

/-- Asks for a token in company. The number of the call is how many were started before it. -/
def obtain (company : Company σ) (desk : Desk) : Acquired σ :=
  let desk := (desk.play company.before).1
  let (after, happenings) := desk.play (company.moves desk.calls)
  ⟨Desk.outcome? desk.calls happenings, ⟨after, company.world⟩,
    happenings.filter (·.isOf desk.calls)⟩

theorem moves_veiled (company : Company σ) (call : Nat) :
    company.veiled.moves call = (company.moves call).map Desk.Move.veiled := by
  simp [moves, veiled, Desk.Move.veiled]

/-- Behind the veil a call is one at the veiled desk, in veiled company. -/
theorem obtain_veiled (company : Company σ) (desk : Desk) :
    (company.obtain desk).veiled = company.veiled.obtain desk.veiled := by
  have hbefore : (desk.veiled.play company.veiled.before).1 = (desk.play company.before).1.veiled :=
    congrArg Prod.fst (Desk.play_veiled desk company.before)
  have hmoves (d : Desk) : d.veiled.play (company.veiled.moves d.calls) =
      Desk.veiledMoved (d.play (company.moves d.calls)) := by
    rw [moves_veiled, Desk.play_veiled]
  simp only [obtain, hbefore, Desk.calls_veiled, hmoves, Desk.veiledMoved, Acquired.veiled,
    Session.veiled]
  rw [← Desk.outcome?_veiled, ← Desk.filter_isOf_veiled]
  rfl

end Company

/-- Companies that do the same behind the veil. -/
def Companies.Alike (companies companies' : Companies σ) : Prop :=
  ∀ ⦃session session' : Session σ⦄, session.veiled = session'.veiled →
    (companies session).veiled = (companies' session').veiled

namespace Client

/-- Asks for a token in the company that the call has. -/
def obtainAmong (companies : Companies σ) : Acquisition σ := fun session =>
  (companies session).obtain session.desk

theorem obtainAmong_alike {companies companies' : Companies σ} (h : companies.Alike companies') :
    (obtainAmong companies).Alike (obtainAmong companies') := by
  intro session session' hsession
  have hdesk : session.desk.veiled = session'.desk.veiled := congrArg Session.desk hsession
  simp only [obtainAmong, Company.obtain_veiled, h hsession, hdesk]

/-! ## A client on its own -/

/-- Company that does nothing: a call drives its exchange itself, and nothing else changes the network. -/
def alone (client : Client) (network : Network σ) : Companies σ := fun session =>
  let (now, world) := network.clock session.world
  let exchange := Exchange.run network client.settings client.tokenUrl
  { now
    meanwhile := session.desk.ownLooks now (exchange world).1
    world := (client.obtain network session).session.world }

theorem obtain_vacant (client : Client) (network : Network σ) {session : Session σ}
    (h : session.desk.Vacant) : (client.obtain network session).session.desk.Vacant :=
  h.acquire _ _ _

theorem obtain_eq_obtainAmong (client : Client) (network : Network σ) {session : Session σ}
    (h : session.desk.Vacant) :
    client.obtain network session = obtainAmong (client.alone network) session := by
  obtain ⟨hplay, houtcome, hown⟩ := h.acquire_play
    (Exchange.run network client.settings client.tokenUrl) (network.clock session.world).1
    (network.clock session.world).2
  simp only [obtainAmong, Company.obtain, alone, Company.moves, Desk.play_nil, hplay, houtcome, hown]
  rfl

/-! ### Programs -/

section Vacant

variable {session : Session σ} (client : Client) (network : Network σ)

theorem dispatch_alone [Body α] (h : session.desk.Vacant) (kind : CallKind) (d : Descriptor) :
    let done : Done σ (Response α) :=
      client.dispatch network (client.obtain network) kind d session
    client.dispatch network (obtainAmong (client.alone network)) kind d session = done ∧
      done.session.desk.Vacant := by
  refine ⟨by simp only [dispatch, perform, obtain_eq_obtainAmong client network h], ?_⟩
  cases hplan : plan d.method d.params with
  | error e =>
    rw [(dispatch_of_plan_error (α := α) client network _ kind hplan session).2]
    exact h
  | ok planned =>
    obtain ⟨verb, cargo⟩ := planned
    rw [(dispatch_of_plan (α := α) client network _ kind hplan session).2,
      (perform_told (α := α) client network _ _ verb cargo d session).1]
    exact client.obtain_vacant network h

theorem order_alone [Body α] (h : session.desk.Vacant) (order : Order) :
    let done : Done σ (Response α) :=
      order.runWith client network (client.obtain network) session
    order.runWith client network (obtainAmong (client.alone network)) session = done ∧
      done.session.desk.Vacant := by
  unfold Order.runWith
  cases order.descriptor with
  | error e => exact ⟨rfl, h⟩
  | ok d => exact dispatch_alone client network h .request d

theorem page_alone [Paged α] [Body α] (h : session.desk.Vacant) (relation : Relation)
    (previous : Response α) :
    let done := client.pageWith network (client.obtain network) relation previous session
    client.pageWith network (obtainAmong (client.alone network)) relation previous session = done ∧
      done.session.desk.Vacant := by
  simp only [pageWith]
  cases Paged.link relation previous.data with
  | none => exact ⟨rfl, h⟩
  | some link =>
    dsimp only
    cases Page.offsetOfLink link with
    | none => exact ⟨rfl, h⟩
    | some offset =>
      dsimp only
      cases Verb.ofMethod previous.request.method with
      | error e => exact ⟨rfl, h⟩
      | ok verb =>
        obtain ⟨hdone, hvacant⟩ := dispatch_alone (α := α) client network h .page
          (pageRequest previous.request offset)
        exact ⟨congrArg (Done.map some) hdone, hvacant⟩

/-- A client on its own does what it does in company that does nothing. -/
theorem run_eq_runWith_alone (program : Program) (h : session.desk.Vacant) :
    program.run client network session =
      program.runWith client network (obtainAmong (client.alone network)) session := by
  rw [Program.run_eq_runWith]
  induction program generalizing session with
  | finish => rfl
  | call α order next ih =>
    obtain ⟨hdone, hvacant⟩ := order_alone (α := α) client network h order
    simp only [Program.runWith, hdone, ih _ hvacant]
  | page α relation previous next ih =>
    obtain ⟨hdone, hvacant⟩ := page_alone client network h relation previous
    simp only [Program.runWith, hdone, ih _ hvacant]
  | token next ih =>
    simp only [Program.runWith, acquireWith, ← obtain_eq_obtainAmong client network h,
      ih _ (client.obtain_vacant network h)]
  | invalidate next ih => exact ih h.invalidate

end Vacant

/-! ## Discretion -/

/-- In company, too, a client tells no secret. Around each call for a token others do what they like, and
the same in both runs: they start calls, drive exchanges and wait for them, leave exchanges to others, and
are given up, as the call itself may be. The exchanges bring tokens that differ behind the veil only. -/
theorem company_tells_no_secret {script other : Script} (h : script.Alike other) (client : Client)
    (secret : Secret) {companies companies' : Companies (List Arrival × Nat)}
    (hcompanies : companies.Alike companies') {program program' : Program}
    (hprogram : program.Alike program') {session session' : Session (List Arrival × Nat)}
    (hsession : session.veiled = session'.veiled)
    (hfit : SameFit client.settings
      (program.runWith client script.network (obtainAmong companies) session).asked
      (program'.runWith (client.withSecret secret) other.network (obtainAmong companies')
        session').asked) :
    let ran := program.runWith client script.network (obtainAmong companies) session
    let ran' := program'.runWith (client.withSecret secret) other.network (obtainAmong companies')
      session'
    ran.journal = ran'.journal ∧ ran.session.veiled = ran'.session.veiled :=
  runWith_alike h client secret (obtainAmong_alike hcompanies) hprogram hsession hfit

/-- Another call begins an exchange and is given up; the call at hand takes over and gets a token. -/
def overtaking (token : String) : Companies σ := fun session =>
  let first := session.desk.calls
  { before := [.call Desk.epoch, .look first none]
    now := Desk.epoch
    meanwhile :=
      [.look (first + 1) none, .drop first,
        .look (first + 1) (some (.ok ⟨⟨token⟩, Desk.epoch, Desk.epoch⟩))]
    world := session.world }

theorem overtaking_alike : (overtaking "T1" : Companies σ).Alike (overtaking "T2") := by
  intro session session' h
  obtain ⟨hdesk, hworld⟩ := Session.mk.inj h
  have hcalls : session.desk.calls = session'.desk.calls := by
    simpa using congrArg Desk.calls hdesk
  have hveil : (Secret.mk "T1").veiled = (Secret.mk "T2").veiled := by decide +kernel
  simp [overtaking, Company.veiled, Desk.Move.veiled, Grant.veiled, Except.map, AccessToken.veiled,
    hcalls, hworld, hveil]

example :
    let ran := (search "LON").runWith sampleClient (linkingScript "T1").network
      (obtainAmong (overtaking "T1")) ⟨{}, [], 0⟩
    let ran' := (search "New York").runWith (sampleClient.withSecret ⟨"other"⟩)
      (linkingScript "T2").network (obtainAmong (overtaking "T2")) ⟨{}, [], 0⟩
    (ran.asked.length = 2 ∧ ran.journal.count .tokenExchange .success = 2) ∧
      ran.journal = ran'.journal := by
  refine ⟨by decide +kernel, (company_tells_no_secret linkingScript_alike sampleClient ⟨"other"⟩
    overtaking_alike (search_alike "LON" "New York") rfl ?_).1⟩
  show List.map _ _ = List.map _ _
  decide +kernel

end Client

end Wayfare
