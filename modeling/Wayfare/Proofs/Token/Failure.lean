import Wayfare.Proofs.Token.Lifetime
import Wayfare.StatusSlot

/-!
Which failure an exchange ends in. The server's status decides between a rejection and a malformed
answer, but for an empty rejection and for an error document sent with a status of success.
-/
namespace Wayfare.Exchange

/-! ## The status on its way -/

/-- Why an exchange has no token document, before the status of its answer is looked at. -/
inductive Setback where
  /-- The server's error document. -/
  | refused (j : Json)
  /-- No complete answer. -/
  | unanswered (message : String)
  /-- A body that is not the expected document. -/
  | unread (report : String) (body : List UInt8)
  | other (message : String)

/-- The failure that a setback is for its caller. -/
def Setback.error (status : Option Nat) : Setback → TokenError
  | .refused j => .rejected status (refusalReason j)
  | .unanswered message => .unreachable message
  | .unread report body =>
    if status.any (!isSuccess ·) then .rejected status (bodyReason body)
    else .malformed status report
  | .other message => .malformed status message

/-- The token document of an answer. -/
def document (a : Answer) : Except Setback Json :=
  if a.status ≠ 200 then
    if a.body.isEmpty then .error (.other "server returned empty error response")
    else match refusalShape.readFirst a.body with
      | .ok j => .error (.refused j)
      | .error f => .error (.unread (f.report a.body) a.body)
  else match frameFault? a with
    | some message => .error (.other message)
    | none =>
      match tokenShape.readFirst a.body with
      | .error f => .error (.unread (f.report a.body) a.body)
      | .ok j => .ok j

/-- Sends the request for a token. The slot is emptied first, and filled as soon as an answer begins:
`begun` is what an answer that breaks off leaves there. -/
def send (network : Network σ) (settings : Settings) (url : Url) (begun : StatusSlot)
    (slot : StatusSlot) (s : σ) : Except Setback Answer × StatusSlot × σ :=
  match url.wireFault? with
  | some f => (.error (.other ("failed to prepare request: " ++ f.message)), slot, s)
  | none =>
    let slot := slot.take.2
    if !url.isReachable then
      (.error (.unanswered ("builder error for url (" ++ url.onWire.text ++ ")")), slot, s)
    else
      match network.send (request settings url) s with
      | (.error f, s) => (.error (.unanswered (faultMessage url f)), begun, s)
      | (.ok a, s) => (.ok a, slot.store a.status, s)

/-- An exchange with a slot of its own, through which the status of its answer reaches its error. -/
def runWithSlot (network : Network σ) (settings : Settings) (url : Url) (begun : StatusSlot)
    (s : σ) : Option Grant × σ :=
  match send network settings url begun {} s with
  | (.error e, slot, s) => (some (.error (e.error slot.take.1)), s)
  | (.ok a, slot, s) =>
    let (now, s) := network.clock s
    match document a with
    | .error e => (some (.error (e.error slot.take.1)), s)
    | .ok j => (grantOfToken now j, s)

theorem refusal_eq_error {a : Answer} (hstatus : a.status ≠ 200) :
    ∃ e, document a = .error e ∧ e.error (some a.status) = refusal a := by
  simp only [document, refusal, if_pos hstatus]
  split
  · exact ⟨_, rfl, rfl⟩
  · cases refusalShape.readFirst a.body with
    | ok j => exact ⟨_, rfl, rfl⟩
    | error f =>
      refine ⟨_, rfl, ?_⟩
      cases hsuccess : isSuccess a.status <;> simp [Setback.error, hsuccess]

theorem grantOfAnswer_eq (now : Instant) (a : Answer) :
    grantOfAnswer now a =
      match document a with
      | .error e => some (.error (e.error (some a.status)))
      | .ok j => grantOfToken now j := by
  by_cases hstatus : a.status = 200
  · cases hframe : frameFault? a with
    | some message => simp [grantOfAnswer, document, hstatus, hframe, Setback.error]
    | none =>
      cases hread : tokenShape.readFirst a.body with
      | error f =>
        simp [grantOfAnswer, document, hstatus, hframe, hread, Setback.error, isSuccess]
      | ok j => simp [grantOfAnswer, document, hstatus, hframe, hread]
  · obtain ⟨e, hdocument, herror⟩ := refusal_eq_error hstatus
    simp [grantOfAnswer, hstatus, hdocument, herror]

/-- The slot carries the status of the exchange's own answer, whatever an answer that broke off left
there. -/
theorem runWithSlot_eq_run (network : Network σ) (settings : Settings) (url : Url)
    (begun : StatusSlot) (s : σ) :
    runWithSlot network settings url begun s = run network settings url s := by
  unfold runWithSlot send run
  cases url.wireFault? with
  | some f => rfl
  | none =>
    cases url.isReachable with
    | false => rfl
    | true =>
      rcases network.send (request settings url) s with ⟨f | a, s'⟩
      · rfl
      · simp only [Bool.not_true, Bool.false_eq_true, if_false, grantOfAnswer_eq]
        cases document a <;> rfl

/-! ## What the server did -/

/-- The complete answer that an exchange gets. -/
def answer? (network : Network σ) (settings : Settings) (url : Url) (s : σ) : Option Answer :=
  if url.wireFault?.isNone && url.isReachable then
    (network.send (request settings url) s).1.toOption
  else none

/-- The instant at which an answer is read. -/
def arrival (network : Network σ) (settings : Settings) (url : Url) (s : σ) : Instant :=
  (network.clock (network.send (request settings url) s).2).1

/-- The end of an exchange goes by what the server did: without an answer it was not reached, with a
status of success it granted a token or answered something else, and any other status rejects. -/
def Classified (answer : Option Answer) (outcome : Option Grant) : Prop :=
  match answer with
  | none => ∃ message, outcome = some (.error (.unreachable message))
  | some a =>
    if isSuccess a.status then
      (∃ token, outcome = some (.ok token)) ∨
        ∃ message, outcome = some (.error (.malformed (some a.status) message))
    else ∃ reason, outcome = some (.error (.rejected (some a.status) reason))

/-- The exchanges that end otherwise, and how. -/
inductive Misread (url : Url) (now : Instant) : Option Answer → Option Grant → Prop where
  /-- The address is none that a request can be made for. -/
  | unprepared {f : Url.WireFault} (fault : url.wireFault? = some f) :
    Misread url now none
      (some (.error (.malformed none ("failed to prepare request: " ++ f.message))))
  /-- The server refuses without a word. -/
  | emptyRefusal {a : Answer} (status : isSuccess a.status = false) (body : a.body = []) :
    Misread url now (some a)
      (some (.error (.malformed (some a.status) "server returned empty error response")))
  /-- An error document comes with a status of success other than 200. -/
  | refusedInSuccess {a : Answer} {j : Json} (status : isSuccess a.status = true)
    (other : a.status ≠ 200) (body : refusalShape.readFirst a.body = .ok j) :
    Misread url now (some a) (some (.error (.rejected (some a.status) (refusalReason j))))
  /-- The token lasts beyond the calendar. -/
  | beyondCalendar {a : Answer} (out : OutOfReach now a) : Misread url now (some a) none

theorem Misread.not_classified {url : Url} {now : Instant} {answer : Option Answer}
    {outcome : Option Grant} (h : Misread url now answer outcome) :
    ¬ Classified answer outcome := by
  cases h with
  | unprepared fault => simp [Classified]
  | emptyRefusal status body => simp [Classified, status]
  | refusedInSuccess status other body => simp [Classified, status]
  | beyondCalendar out => simp [Classified, out.status, isSuccess]

/-! ## One answer -/

theorem grantOfToken_cases (now : Instant) (j : Json) :
    grantOfToken now j = none ∨ (∃ token, grantOfToken now j = some (.ok token)) ∨
      ∃ message, grantOfToken now j = some (.error (.malformed (some 200) message)) := by
  unfold grantOfToken
  cases lifetime? j with
  | none => simp
  | some seconds =>
    simp only
    split
    · simp
    · split
      · simp
      · split
        · simp
        · cases AccessToken.issued? (textOf j "access_token") now (seconds * perSecond) <;> simp

theorem grantOfAnswer_cases {a : Answer} (now : Instant) (h : a.status = 200) :
    grantOfAnswer now a = none ∨ (∃ token, grantOfAnswer now a = some (.ok token)) ∨
      ∃ message, grantOfAnswer now a = some (.error (.malformed (some a.status) message)) := by
  cases hframe : frameFault? a with
  | some message => simp [grantOfAnswer, h, hframe]
  | none =>
    cases hread : tokenShape.readFirst a.body with
    | error f => simp [grantOfAnswer, h, hframe, hread]
    | ok j => simpa [grantOfAnswer, h, hframe, hread] using grantOfToken_cases now j

theorem grantOfAnswer_of_other {a : Answer} (now : Instant) (h : a.status ≠ 200) :
    grantOfAnswer now a = some (.error (refusal a)) := by
  simp [grantOfAnswer, h]

theorem refusal_of_empty {a : Answer} (h : a.body = []) :
    refusal a = .malformed (some a.status) "server returned empty error response" := by
  simp [refusal, h]

theorem readFirst_ne_nil {body : List UInt8} {j : Json} (h : refusalShape.readFirst body = .ok j) :
    body ≠ [] := by
  rintro rfl
  cases h

theorem refusal_of_document {a : Answer} {j : Json} (h : refusalShape.readFirst a.body = .ok j) :
    refusal a = .rejected (some a.status) (refusalReason j) := by
  simp [refusal, readFirst_ne_nil h, h]

theorem refusal_of_unread {a : Answer} (hbody : a.body ≠ []) {f : Json.Fault}
    (h : refusalShape.readFirst a.body = .error f) :
    refusal a =
      if isSuccess a.status then .malformed (some a.status) (f.report a.body)
      else .rejected (some a.status) (bodyReason a.body) := by
  simp [refusal, hbody, h]

theorem status_of_refusal (a : Answer) : (refusal a).status = some a.status := by
  by_cases hbody : a.body = []
  · simp [refusal_of_empty hbody, TokenError.status]
  · cases hread : refusalShape.readFirst a.body with
    | ok j => simp [refusal_of_document hread, TokenError.status]
    | error f =>
      rw [refusal_of_unread hbody hread]
      split <;> rfl

theorem status_of_grantOfAnswer {now : Instant} {a : Answer} {e : TokenError}
    (h : grantOfAnswer now a = some (.error e)) : e.status = some a.status := by
  by_cases hstatus : a.status = 200
  · rcases grantOfAnswer_cases now hstatus with hnone | ⟨token, hok⟩ | ⟨message, herror⟩
    · simp [hnone] at h
    · simp [hok] at h
    · obtain rfl : TokenError.malformed (some a.status) message = e := by simpa [herror] using h
      rfl
  · obtain rfl : refusal a = e := by simpa [grantOfAnswer_of_other now hstatus] using h
    exact status_of_refusal a

theorem classified_of_answer (url : Url) {now : Instant} {a : Answer}
    (h : ∀ outcome, ¬ Misread url now (some a) outcome) :
    Classified (some a) (grantOfAnswer now a) := by
  by_cases hstatus : a.status = 200
  · have hsuccess : isSuccess a.status = true := by simp [hstatus, isSuccess]
    have hfits : grantOfAnswer now a ≠ none := fun hnone =>
      h none (.beyondCalendar (grantOfAnswer_eq_none_iff.mp hnone))
    simpa [Classified, hsuccess] using (grantOfAnswer_cases now hstatus).resolve_left hfits
  · rw [grantOfAnswer_of_other now hstatus]
    cases hsuccess : isSuccess a.status with
    | false =>
      have hbody : a.body ≠ [] := fun hbody => h _ (.emptyRefusal hsuccess hbody)
      cases hread : refusalShape.readFirst a.body with
      | ok j => simp [Classified, hsuccess, refusal_of_document hread]
      | error f => simp [Classified, hsuccess, refusal_of_unread hbody hread]
    | true =>
      by_cases hbody : a.body = []
      · simp [Classified, hsuccess, refusal_of_empty hbody]
      · cases hread : refusalShape.readFirst a.body with
        | ok j => exact absurd (.refusedInSuccess hsuccess hstatus hread) (h _)
        | error f => simp [Classified, hsuccess, refusal_of_unread hbody hread]

theorem grantOfAnswer_of_misread {url : Url} {now : Instant} {a : Answer} {outcome : Option Grant}
    (h : Misread url now (some a) outcome) : grantOfAnswer now a = outcome := by
  cases h with
  | emptyRefusal status body =>
    have hstatus : a.status ≠ 200 := by
      intro h
      simp [h, isSuccess] at status
    rw [grantOfAnswer_of_other now hstatus, refusal_of_empty body]
  | refusedInSuccess status other body =>
    rw [grantOfAnswer_of_other now other, refusal_of_document body]
  | beyondCalendar out => exact grantOfAnswer_eq_none_iff.mpr out

/-! ## One exchange -/

section Run

variable {network : Network σ} {settings : Settings} {url : Url} {s : σ}

theorem run_of_answer {a : Answer} (h : answer? network settings url s = some a) :
    (run network settings url s).1 = grantOfAnswer (arrival network settings url s) a := by
  unfold answer? at h
  obtain ⟨hready, ha⟩ := Option.ite_none_right_eq_some.mp h
  obtain ⟨hwire, hreach⟩ := by simpa using hready
  unfold run arrival
  rcases hsend : network.send (request settings url) s with ⟨f | b, s'⟩
  · simp [hsend, Except.toOption] at ha
  · obtain rfl : b = a := by simpa [hsend, Except.toOption] using ha
    simp [hwire, hreach]

theorem run_of_no_answer (h : answer? network settings url s = none) :
    (∃ f, url.wireFault? = some f ∧ (run network settings url s).1 =
      some (.error (.malformed none ("failed to prepare request: " ++ f.message)))) ∨
    url.wireFault? = none ∧ ∃ message,
      (run network settings url s).1 = some (.error (.unreachable message)) := by
  unfold answer? at h
  unfold run
  cases hwire : url.wireFault? with
  | some f => simp
  | none =>
    cases hreach : url.isReachable with
    | false => simp
    | true =>
      rcases hsend : network.send (request settings url) s with ⟨f | a, s'⟩
      · simp
      · simp [hwire, hreach, hsend, Except.toOption] at h

end Run

/-- An exchange ends as the server's answer, or the lack of one, has it, but for four cases: a request
that cannot be made, a rejection without a body, an error document with a status of success, and a
token that lasts beyond the calendar. An error shows the status of the exchange's own answer, which
reaches it through the slot. -/
theorem run_classified (network : Network σ) (settings : Settings) (url : Url) (s : σ) :
    let answer := answer? network settings url s
    let now := arrival network settings url s
    let outcome := (run network settings url s).1
    ((∀ other, ¬ Misread url now answer other) → Classified answer outcome) ∧
    (∀ other, Misread url now answer other → outcome = other ∧ ¬ Classified answer outcome) ∧
    (∀ e, outcome = some (.error e) → e.status = answer.map (·.status)) ∧
    ∀ begun, (runWithSlot network settings url begun s).1 = outcome := by
  intro answer now outcome
  refine ⟨fun hread => ?_, fun other hmisread => ?_, fun e he => ?_,
    fun begun => by rw [runWithSlot_eq_run]⟩
  · cases hanswer : answer with
    | some a =>
      rw [hanswer] at hread
      rw [show outcome = _ from run_of_answer hanswer]
      exact classified_of_answer url hread
    | none =>
      rcases run_of_no_answer hanswer with ⟨f, hwire, hrun⟩ | ⟨-, hrun⟩
      · rw [hanswer] at hread
        exact absurd (.unprepared hwire) (hread _)
      · exact hrun
  · have houtcome : outcome = other := by
      cases hanswer : answer with
      | some a =>
        rw [hanswer] at hmisread
        exact (run_of_answer hanswer).trans (grantOfAnswer_of_misread hmisread)
      | none =>
        rw [hanswer] at hmisread
        cases hmisread with
        | unprepared fault =>
          rcases run_of_no_answer hanswer with ⟨f, hwire, hrun⟩ | ⟨hwire, -⟩
          · obtain rfl := Option.some.inj (fault.symm.trans hwire)
            exact hrun
          · simp [hwire] at fault
    exact ⟨houtcome, houtcome ▸ hmisread.not_classified⟩
  · cases hanswer : answer with
    | some a =>
      rw [show outcome = _ from run_of_answer hanswer] at he
      exact status_of_grantOfAnswer he
    | none =>
      rcases run_of_no_answer hanswer with ⟨f, -, hrun⟩ | ⟨-, message, hrun⟩
      · obtain rfl : TokenError.malformed none _ = e := by
          simpa using (show outcome = _ from hrun).symm.trans he
        rfl
      · obtain rfl : TokenError.unreachable message = e := by
          simpa using (show outcome = _ from hrun).symm.trans he
        rfl

/-- The settings of a client whose base names no host. -/
def hostless : Settings :=
  { sampleSettings with credentials := { sampleSettings.credentials with baseUrl := "mailto:x" } }

/-- A rejection without a body. -/
def silent : Answer := ⟨401, [], []⟩

/-- An error document, sent with a status of success. -/
def disguised : Answer := ⟨201, [], Text.utf8 "\x7b\"error\":\"invalid_client\"\x7d"⟩

theorem answer?_answering {url : Url} (hwire : url.wireFault? = none) (hreach : url.isReachable = true)
    (a : Answer) (settings : Settings) : answer? (answering a) settings url () = some a := by
  simp [answer?, hwire, hreach, answering, Except.toOption]

/-- An exchange with its answer, and an outcome that this answer does not stand for. -/
structure Astray (network : Network σ) (settings : Settings) (url : Url) (s : σ)
    (answer : Option Answer) (outcome : Option Grant) : Prop where
  answered : answer? network settings url s = answer
  ended : (run network settings url s).1 = outcome
  unlike : ¬ Classified answer outcome

/-- An exchange over an address without a host gets no answer and says that the answer is malformed. A
rejection without a body counts as malformed too, and an error document with a status of success as a
rejection. -/
theorem misread_exchanges :
    (∃ url, hostless.credentials.tokenUrl = .ok url ∧
      Astray (answering silent) hostless url () none
        (some (.error (.malformed none "failed to prepare request: invalid format")))) ∧
    ∃ url, sampleSettings.credentials.tokenUrl = .ok url ∧
      Astray (answering silent) sampleSettings url () (some silent)
        (some (.error (.malformed (some 401) "server returned empty error response"))) ∧
      Astray (answering disguised) sampleSettings url () (some disguised)
        (some (.error (.rejected (some 201) "invalid_client"))) := by
  have hhostless : hostless.credentials.tokenUrl.toOption.map (·.wireFault?) =
      some (some .noAuthority) := by decide +kernel
  have hready : sampleSettings.credentials.tokenUrl.toOption.map
      (fun url => (url.wireFault?, url.isReachable)) = some (none, true) := by decide +kernel
  constructor
  · cases hurl : hostless.credentials.tokenUrl with
    | error e => simp [hurl, Except.toOption] at hhostless
    | ok url =>
      have hwire : url.wireFault? = some .noAuthority := by
        simpa [hurl, Except.toOption] using hhostless
      exact ⟨url, rfl, by simp [answer?, hwire], by simp [run, hwire, Url.WireFault.message],
        by simp [Classified]⟩
  · cases hurl : sampleSettings.credentials.tokenUrl with
    | error e => simp [hurl, Except.toOption] at hready
    | ok url =>
      obtain ⟨hwire, hreach⟩ : url.wireFault? = none ∧ url.isReachable = true := by
        simpa [hurl, Except.toOption] using hready
      have hsilent := answer?_answering hwire hreach silent sampleSettings
      have hdisguised := answer?_answering hwire hreach disguised sampleSettings
      have hempty : refusal silent =
          .malformed (some 401) "server returned empty error response" := rfl
      have hdocument : refusal disguised = .rejected (some 201) "invalid_client" := by
        decide +kernel
      refine ⟨url, rfl, ⟨hsilent, ?_, ?_⟩, hdisguised, ?_, ?_⟩
      · rw [run_of_answer hsilent, grantOfAnswer_of_other _ (by decide), hempty]
      · simp [Classified, silent, isSuccess]
      · rw [run_of_answer hdisguised, grantOfAnswer_of_other _ (by decide), hdocument]
      · simp [Classified, disguised, isSuccess]

end Wayfare.Exchange
