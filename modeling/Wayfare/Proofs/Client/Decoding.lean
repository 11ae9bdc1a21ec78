import Wayfare.Proofs.Client.Walk
import Wayfare.Proofs.Json.Reading

/-!
Bodies of success. A blank body stands for null, and any other for the document it begins with: what
follows that document is not looked at, where the body of a failure has to be one whole document.
-/
namespace Wayfare.Client

open Json

/-! ## Bodies -/

/-- A body that is one whole document, or blank and stands for null. -/
def Whole (body : List UInt8) (v : Json) : Prop :=
  Answer.isBlank body = true ∧ v = .null ∨ Document body v

/-- A body with a document at its start and more than blanks behind it. -/
def Overlong (body : List UInt8) (v : Json) : Prop :=
  ∃ w t rest, body = w ++ (t ++ rest) ∧ Spaces w ∧ Value Scan.maxDepth t v ∧ Stops t rest ∧
    ¬ Spaces rest

variable {body w t rest : List UInt8} {v v' : Json} {status : Nat}

theorem not_isBlank (ht : Value Scan.maxDepth t v) (w rest : List UInt8) :
    Answer.isBlank (w ++ (t ++ rest)) = false := by
  obtain ⟨b, more, rfl, hb, -⟩ := value_begins ht
  rw [Answer.isBlank, List.all_eq_false]
  exact ⟨b, by simp, by simp [hb]⟩

theorem Overlong.not_whole (h : Overlong body v) : ¬ Whole body v' := by
  obtain ⟨w, t, rest, rfl, hw, ht, hstops, hrest⟩ := h
  rintro (⟨hblank, -⟩ | ⟨w', t', rest', hbody, hw', ht', hrest'⟩)
  · exact Bool.false_ne_true ((not_isBlank ht w rest).symm.trans hblank)
  · have hread := (value_agrees Scan.maxDepth).complete hw ht hstops
    rw [hbody, (value_agrees Scan.maxDepth).complete hw' ht' (hrest'.stops t')] at hread
    cases hread
    exact hrest hrest'

theorem whole_or_overlong_iff :
    Whole body v ∨ Overlong body v ↔
      Answer.isBlank body = true ∧ v = .null ∨
        ∃ w t rest, body = w ++ (t ++ rest) ∧ Spaces w ∧ Value Scan.maxDepth t v ∧ Stops t rest := by
  constructor
  · rintro ((hblank | ⟨w, t, w', hbody, hw, ht, hw'⟩) | ⟨w, t, rest, hbody, hw, ht, hstops, -⟩)
    · exact .inl hblank
    · exact .inr ⟨w, t, w', hbody, hw, ht, hw'.stops t⟩
    · exact .inr ⟨w, t, rest, hbody, hw, ht, hstops⟩
  · rintro (hblank | ⟨w, t, rest, hbody, hw, ht, hstops⟩)
    · exact .inl (.inl hblank)
    · by_cases hrest : Spaces rest
      · exact .inl (.inr ⟨w, t, rest, hbody, hw, ht, hrest⟩)
      · exact .inr ⟨w, t, rest, hbody, hw, ht, hstops, hrest⟩

theorem decode_eq (status : Nat) (body : List UInt8) :
    (decode status body : Except CallError Json) =
      (readFirst (if Answer.isBlank body then Text.utf8 "null" else body)).mapError
        (.decode status) := by
  simp only [decode, show (Body.shape Json).readFirst = readFirst from rfl]
  cases readFirst (if Answer.isBlank body then Text.utf8 "null" else body) <;> rfl

theorem decode_eq_ok_iff :
    (decode status body : Except CallError Json) = .ok v ↔ Whole body v ∨ Overlong body v := by
  rw [decode_eq, mapError_eq_ok_iff, whole_or_overlong_iff]
  cases hblank : Answer.isBlank body with
  | true =>
    have hnull : readFirst (Text.utf8 "null") = .ok .null :=
      readFirst_eq_ok_iff.mpr ⟨[], _, [], by simp, spaces_nil, .inl .nullWord, .of_head rfl⟩
    rw [if_pos rfl, hnull]
    constructor
    · intro h
      cases h
      exact .inl ⟨rfl, rfl⟩
    · rintro (⟨-, rfl⟩ | ⟨w, t, rest, rfl, -, ht, -⟩)
      · rfl
      · exact absurd hblank (by simp [not_isBlank ht])
  | false => simp [readFirst_eq_ok_iff]

theorem failureBody_of_document (h : Document body v) : Answer.failureBody body = v := by
  obtain ⟨w, t, w', rfl, hw, ht, hw'⟩ := h
  have hparse : parse? (w ++ (t ++ w')) = some v :=
    parse?_eq_some_iff.mpr ⟨w, t, w', rfl, hw, ht, hw'⟩
  simp [Answer.failureBody, not_isBlank ht w w', hparse]

theorem failureBody_of_not_whole (h : ∀ v, ¬ Whole body v) :
    Answer.failureBody body = .string (Text.lossyString body) := by
  have hblank : Answer.isBlank body = false := by
    rw [Bool.eq_false_iff]
    exact fun hblank => h .null (.inl ⟨hblank, rfl⟩)
  have hparse : parse? body = none := by
    rw [Option.eq_none_iff_forall_ne_some]
    exact fun v hv => h v (.inr (parse?_eq_some_iff.mp hv))
  simp [Answer.failureBody, hblank, hparse]

/-! ## Answers -/

/-- How a call ends that is answered with success. It returns the document of the body, be that the
whole body or only its start, or it fails with the fault met there; for the body of a failure, only
a whole document counts. -/
structure Taken (d : Descriptor) (a : Answer) (result : Except CallError (Response Json)) : Prop where
  ok_iff : ∀ response, result = .ok response ↔
    (Whole a.body response.data ∨ Overlong a.body response.data) ∧ response.status = a.status ∧
      response.request = d
  undecoded : (∀ v, ¬ Whole a.body v ∧ ¬ Overlong a.body v) →
    ∃ f, result = .error (.decode a.status f)
  apart : ∀ v v', Overlong a.body v → ¬ Whole a.body v'
  failed : Answer.isBlank a.body = false → ∀ v, Whole a.body v → Answer.failureBody a.body = v
  failed_text : (∀ v, ¬ Whole a.body v) →
    Answer.failureBody a.body = .string (Text.lossyString a.body)

section

variable {settings : Settings} {d : Descriptor} {token : Secret} {sent : List Sent} {s : Sent}
  {a : Answer} {result : Except CallError (Response Json)}

theorem Placed.taken (h : Placed settings d token sent result) (hs : s ∈ sent)
    (ha : s.answer = .ok a) (hstatus : 200 ≤ a.status ∧ a.status < 300) : Taken d a result where
  ok_iff response := by
    obtain ⟨s', rfl⟩ := List.length_eq_one_iff.mp
      (Nat.le_antisymm h.once (List.length_pos_of_mem hs))
    obtain rfl := List.mem_singleton.mp hs
    simp [h.ok_iff, ha, hstatus, decode_eq_ok_iff]
  undecoded hbody := by
    cases hdata : (decode a.status a.body : Except CallError Json) with
    | ok v => exact absurd (decode_eq_ok_iff.mp hdata) (not_or.mpr (hbody v))
    | error e =>
      obtain ⟨hresult, f, rfl⟩ := h.undecoded s hs a e ha hstatus hdata
      exact ⟨f, hresult⟩
  apart _ _ hv := hv.not_whole
  failed hblank v hv := by
    rcases hv with ⟨hblank', -⟩ | hv
    · exact absurd (hblank.symm.trans hblank') Bool.false_ne_true
    · exact failureBody_of_document hv
  failed_text := failureBody_of_not_whole

end

/-- A request whose answer is a success returns what the body begins with, whatever follows; other
bodies are errors. -/
theorem requestWith_taken {σ : Type} (client : Client) (network : Network σ)
    (ask : Acquisition (σ × List Sent)) {method : Method} {params : Json}
    (hparams : Placeable method params) (path : String) {session : Session (σ × List Sent)}
    {token : Secret} (htoken : (ask session).result = some (.ok token)) :
    let done : Done (σ × List Sent) (Response Json) :=
      client.requestWith network.recorded ask method path params session
    ∃ sent result, done.result = some result ∧
      done.session.record = (ask session).session.record ++ sent ∧ sent.length ≤ 1 ∧
      ∀ s ∈ sent, ∀ a, s.answer = .ok a → 200 ≤ a.status ∧ a.status < 300 →
        Taken ⟨method, path, params⟩ a result := by
  obtain ⟨sent, result, hresult, -, hrecord, hplaced⟩ :=
    (dispatch_conducted (α := Json) client network ask .request ⟨method, path, params⟩
      session).placed hparams token htoken
  exact ⟨sent, result, hresult, hrecord, hplaced.once, fun s hs a ha hstatus =>
    hplaced.taken hs ha hstatus⟩

/-- A network whose answers all have the same body. -/
def replying (body : List UInt8) : Network Unit where
  send _ s := (.ok ⟨200, [], body⟩, s)
  clock s := (Desk.epoch, s)

/-- A session with a token that is good for a minute. -/
def supplied {σ : Type} (world : σ) : Session σ :=
  ⟨{ cached := AccessToken.issued? "T1" Desk.epoch
      (AccessToken.safetyMargin + AccessToken.safetyMargin) }, world⟩

/-- What is listed on some network. -/
def listing {σ : Type} (network : Network σ) (world : σ) : Done σ (Response Json) :=
  sampleClient.request network Verb.get.method "/items" .null (supplied world)

/-- An empty list with a blank on each side. -/
def emptyList : List UInt8 :=
  Text.utf8 " [] "

/-- A whole body is returned as its document. -/
theorem emptyList_taken :
    (listing (replying emptyList).recorded ((), [])).result =
      some (.ok ⟨.array [], 200, ⟨Verb.get.method, "/items", .null⟩⟩) := by
  have hparams : Placeable Verb.get.method .null := .inr ⟨by decide, .inl rfl⟩
  have htoken : (sampleClient.obtain (replying emptyList).recorded (supplied ((), []))).result =
      some (.ok ⟨"T1"⟩) := rfl
  obtain ⟨sent, result, hresult, hrecord, -, htaken⟩ :=
    requestWith_taken sampleClient (replying emptyList) _ hparams "/items" htoken
  have hanswers : sent.map (fun s => s.answer.toOption.map fun a => (a.status, a.body)) =
      [some (200, emptyList)] := by
    have hsent : (listing (replying emptyList).recorded ((), [])).session.record = sent := hrecord
    rw [← hsent]
    decide +kernel
  obtain ⟨s, rfl, hs⟩ := List.map_eq_singleton_iff.mp hanswers
  obtain ⟨a, ha, hbody⟩ := Option.map_eq_some_iff.mp hs
  obtain ⟨hstatus, hbody⟩ := Prod.mk.inj hbody
  have hanswer : s.answer = .ok a := toOption_eq_some_iff.mp ha
  have hwhole : Whole emptyList (.array []) := .inr (parse?_eq_some_iff.mp rfl)
  have hok := ((htaken s (by simp) a hanswer (by omega)).ok_iff
    ⟨.array [], 200, ⟨Verb.get.method, "/items", .null⟩⟩).mpr ⟨.inl (hbody ▸ hwhole), hstatus.symm, rfl⟩
  exact hresult.trans (congrArg some hok)

/-- A list and a letter behind it. -/
def listAndMore : List UInt8 :=
  Text.utf8 "[] x"

/-- A list with a letter behind it is no whole body, and is taken for the list. -/
theorem listAndMore_taken :
    (∃ response, (listing (replying listAndMore) ()).result = some (.ok response)) ∧
      ∀ v, ¬ Whole listAndMore v := by
  have hlisted : (value? (listing (replying listAndMore) ()).result).isSome = true := by
    decide +kernel
  have hparse : (parse? listAndMore).isNone = true := by decide +kernel
  constructor
  · obtain ⟨response, hresponse⟩ := Option.isSome_iff_exists.mp hlisted
    exact ⟨response, value?_eq_some_iff.mp hresponse⟩
  · rintro v (⟨hblank, -⟩ | hv)
    · exact absurd hblank (by decide)
    · simp [parse?_eq_some_iff.mpr hv] at hparse

end Wayfare.Client
