import Wayfare.Proofs.Desk.Cache
import Wayfare.Proofs.Desk.Singleflight

/-!
The books of a desk. Its counts grow with what happens, step by step, so they balance at all times:
exchanges against how they ended, calls against how they left, and the counters of the journal against
both.
-/
namespace Wayfare

theorem Journal.count_append (kind : CallKind) (outcome : Outcome) (j k : Journal) :
    Journal.count kind outcome (j ++ k) = j.count kind outcome + k.count kind outcome := by
  simp [Journal.count]

namespace Desk

variable {d d' d'' : Desk} {e : Happening} {happenings first rest : List Happening}

/-! ## What is counted -/

/-- The kinds of happening that the books tell apart. -/
inductive Item where
  | hit
  | joined
  | began
  /-- An exchange ended with a token. -/
  | granted
  /-- An exchange ended with an error. -/
  | failed
  | cancelled
  | returned
  | dropped
  | invalidated
  deriving DecidableEq

def Happening.item : Happening → Item
  | .hit _ _ => .hit
  | .joined _ _ => .joined
  | .began _ _ => .began
  | .ended _ _ (.ok _) => .granted
  | .ended _ _ (.error _) => .failed
  | .cancelled _ _ => .cancelled
  | .returned _ _ => .returned
  | .dropped _ => .dropped
  | .invalidated => .invalidated

/-- How often something happened. -/
def tally (item : Item) (happenings : List Happening) : Nat :=
  happenings.countP (·.item = item)

@[simp] theorem tally_nil (item : Item) : tally item [] = 0 := rfl

theorem tally_append (item : Item) (first rest : List Happening) :
    tally item (first ++ rest) = tally item first + tally item rest :=
  List.countP_append

@[simp] theorem tally_singleton (item : Item) (e : Happening) :
    tally item [e] = if e.item = item then 1 else 0 := by
  simp [tally]

/-- Whether an exchange runs. -/
def isExchanging (d : Desk) : Bool :=
  d.cells.any fun
    | .running _ => true
    | _ => false

theorem isExchanging_iff :
    d.isExchanging = true ↔ ∃ c driver : Nat, d.cells[c]? = some (.running driver) := by
  simp only [isExchanging, List.any_eq_true]
  constructor
  · rintro ⟨cell, hcell, hrun⟩
    cases cell with
    | running driver =>
      obtain ⟨c, hc⟩ := List.mem_iff_getElem?.mp hcell
      exact ⟨c, driver, hc⟩
    | _ => simp at hrun
  · rintro ⟨c, driver, h⟩
    exact ⟨.running driver, List.mem_of_getElem? h, rfl⟩

/-- How the counts of a desk grew with what happened. -/
structure Booked (d : Desk) (happenings : List Happening) (d' : Desk) : Prop where
  exchanges : d'.exchanges = d.exchanges + tally .began happenings
  failures : d'.failures = d.failures + tally .failed happenings
  cacheHits : d'.cacheHits = d.cacheHits + tally .hit happenings
  calls : d'.calls = d.calls + tally .hit happenings + tally .joined happenings
  waiting : d'.waiting.length + tally .returned happenings + tally .dropped happenings =
    d.waiting.length + tally .joined happenings
  running : d'.isExchanging.toNat + tally .granted happenings + tally .failed happenings +
    tally .cancelled happenings = d.isExchanging.toNat + tally .began happenings

theorem Booked.refl (d : Desk) : Booked d [] d := by
  constructor <;> simp

theorem Booked.append (h : Booked d first d') (h' : Booked d' rest d'') :
    Booked d (first ++ rest) d'' := by
  obtain ⟨hexchanges, hfailures, hhits, hcalls, hwaiting, hrunning⟩ := h
  obtain ⟨hexchanges', hfailures', hhits', hcalls', hwaiting', hrunning'⟩ := h'
  constructor <;> simp only [tally_append] <;> omega

/-! ## One step -/

@[simp] theorem exchanges_join (d : Desk) : d.join.1.exchanges = d.exchanges := by
  unfold join
  split <;> rfl

@[simp] theorem failures_join (d : Desk) : d.join.1.failures = d.failures := by
  unfold join
  split <;> rfl

@[simp] theorem cacheHits_join (d : Desk) : d.join.1.cacheHits = d.cacheHits := by
  unfold join
  split <;> rfl

/-- A call that leaves is the only one of its number. -/
theorem Sound.length_leave (hd : d.Sound) {w : Waiting} (hw : w ∈ d.waiting) :
    (d.leave w.call).waiting.length + 1 = d.waiting.length := by
  obtain ⟨before, after, hsplit⟩ := List.append_of_mem hw
  have horder := hd.in_order
  rw [hsplit, List.pairwise_append, List.pairwise_cons] at horder
  obtain ⟨-, ⟨hafter, -⟩, hbefore⟩ := horder
  have hkept : ∀ v ∈ before ++ after, decide (v.call ≠ w.call) = true := by
    intro v hv
    rcases List.mem_append.mp hv with hv | hv
    · simpa using Nat.ne_of_lt (hbefore v hv w List.mem_cons_self)
    · simpa using Nat.ne_of_gt (hafter v hv)
  have hleave : (d.leave w.call).waiting = before ++ after := by
    calc (d.leave w.call).waiting
        = (before ++ w :: after).filter (·.call ≠ w.call) := by rw [Desk.leave, hsplit]
      _ = (before ++ after).filter (·.call ≠ w.call) := by simp
      _ = before ++ after := List.filter_eq_self.mpr hkept
  rw [hleave, hsplit, List.length_append, List.length_append, List.length_cons]
  rfl

theorem Sound.not_exchanging_of_idle (hd : d.Sound) {c : Nat} (h : d.cells[c]? = some .idle) :
    d.isExchanging = false := by
  rw [Bool.eq_false_iff]
  intro hrun
  obtain ⟨c', driver, hrun⟩ := isExchanging_iff.mp hrun
  have hc : c' = c :=
    Option.some.inj ((hd.registered_of_running hrun).symm.trans (hd.registered_of_idle h))
  simp [hc, h] at hrun

namespace Step

variable (step : Step d e d')

include step

theorem isExchanging_eq (hbegan : e.item ≠ .began) (hended : e.grant? = none)
    (hcancelled : e.item ≠ .cancelled) : d'.isExchanging = d.isExchanging := by
  rw [Bool.eq_iff_iff, isExchanging_iff, isExchanging_iff]
  constructor
  · rintro ⟨c, driver, hrun⟩
    rcases step.running hrun with rfl | hrun
    · exact absurd rfl hbegan
    · exact ⟨c, driver, hrun⟩
  · rintro ⟨c, driver, hrun⟩
    rcases step.runs_on hrun with hrun | ⟨grant, rfl⟩ | rfl
    · exact ⟨c, driver, hrun⟩
    · cases hended
    · exact absurd rfl hcancelled

/-- The one exchange that runs is over when its cell is done or idle. -/
theorem not_exchanging (hd : d.Sound) {c driver : Nat} {cell : Cell}
    (hrun : d.cells[c]? = some (.running driver)) (hover : d'.cells[c]? = some cell)
    (hcell : ∀ driver, cell ≠ .running driver) (hbegan : e.item ≠ .began) :
    d'.isExchanging = false := by
  rw [Bool.eq_false_iff]
  intro hstill
  obtain ⟨c', driver', hstill⟩ := isExchanging_iff.mp hstill
  rcases step.running hstill with rfl | hbefore
  · exact hbegan rfl
  · obtain ⟨rfl, -⟩ := hd.running_unique hbefore hrun
    exact hcell driver' (Option.some.inj (hover.symm.trans hstill))

theorem running_booked (hd : d.Sound) :
    d'.isExchanging.toNat + tally .granted [e] + tally .failed [e] + tally .cancelled [e] =
      d.isExchanging.toNat + tally .began [e] := by
  have hstep := step
  cases step with
  | began hw hidle =>
    have hrun : (d.begin _).isExchanging = true := isExchanging_iff.mpr ⟨_, _, cells_begin hidle⟩
    simp [hrun, hd.not_exchanging_of_idle hidle, Happening.item]
  | ended grant hw hrun =>
    have hbefore : d.isExchanging = true := isExchanging_iff.mpr ⟨_, _, hrun⟩
    have hafter := hstep.not_exchanging hd hrun (cells_finish hrun grant) (by simp)
      (by cases grant <;> simp [Happening.item])
    cases grant <;> simp [hbefore, hafter, Happening.item]
  | cancelled hw hrun =>
    have hbefore : d.isExchanging = true := isExchanging_iff.mpr ⟨_, _, hrun⟩
    have hafter := hstep.not_exchanging hd hrun (cells_abandon hrun) (by simp)
      (by simp [Happening.item])
    simp [hbefore, hafter, Happening.item]
  | _ =>
    rw [hstep.isExchanging_eq (by simp [Happening.item]) rfl (by simp [Happening.item])]
    simp [Happening.item]

theorem waiting_booked (hd : d.Sound) :
    d'.waiting.length + tally .returned [e] + tally .dropped [e] =
      d.waiting.length + tally .joined [e] := by
  cases step with
  | joined _ => simp [Happening.item]
  | returned hw _ => simpa [Happening.item] using hd.length_leave hw
  | dropped hw _ => simpa [Happening.item] using hd.length_leave hw
  | ended grant _ _ => cases grant <;> simp [finish, Happening.item]
  | _ => simp [serve, begin, abandon, invalidate, Happening.item]

theorem counts_booked : d'.exchanges = d.exchanges + tally .began [e] ∧
    d'.failures = d.failures + tally .failed [e] ∧
    d'.cacheHits = d.cacheHits + tally .hit [e] ∧
    d'.calls = d.calls + tally .hit [e] + tally .joined [e] := by
  cases step with
  | ended grant _ _ => cases grant <;> simp [finish, Happening.item]
  | _ => simp [serve, begin, abandon, Desk.leave, invalidate, Happening.item]

theorem booked (hd : d.Sound) : Booked d [e] d' where
  exchanges := step.counts_booked.1
  failures := step.counts_booked.2.1
  cacheHits := step.counts_booked.2.2.1
  calls := step.counts_booked.2.2.2
  waiting := step.waiting_booked hd
  running := step.running_booked hd

end Step

theorem Trail.booked (h : Trail d happenings d') (hd : d.Sound) : Booked d happenings d' := by
  induction h with
  | nil d => exact .refl d
  | cons step _ ih => exact (step.booked hd).append (ih (step.sound hd))

/-! ## Calls and counters -/

theorem tally_call (d : Desk) (now : Instant) :
    tally .hit (d.call now).2 + tally .joined (d.call now).2 = 1 := by
  cases h : d.cachedAt now with
  | none => simp [call_of_missed h, Happening.item]
  | some value =>
    obtain ⟨token, hc, hv, -⟩ := cachedAt_eq_some_iff.mp h
    simp [call_of_valid hc hv, Happening.item]

/-- A call starts with one of the moves. -/
theorem tally_move (d : Desk) (m : Move) :
    tally .hit (d.move m).2 + tally .joined (d.move m).2 = (instants [m]).length := by
  by_cases hcall : ∃ now, m = .call now
  · obtain ⟨now, rfl⟩ := hcall
    exact tally_call d now
  · have hnone : (instants [m]).length = 0 := by
      cases m with
      | call now => exact absurd ⟨now, rfl⟩ hcall
      | _ => rfl
    have hm := moved d m
    rw [hnone]
    generalize d.move m = r at hm ⊢
    cases hm with
    | hit _ _ => exact absurd ⟨_, rfl⟩ hcall
    | joined _ => exact absurd ⟨_, rfl⟩ hcall
    | ended grant _ _ => cases grant <;> rfl
    | served grant _ _ => cases grant <;> rfl
    | _ => rfl

theorem instants_cons (m : Move) (rest : List Move) :
    instants (m :: rest) = instants [m] ++ instants rest := by
  cases m <;> rfl

theorem tally_play (d : Desk) (moves : List Move) :
    tally .hit (d.play moves).2 + tally .joined (d.play moves).2 = (instants moves).length := by
  induction moves generalizing d with
  | nil => rfl
  | cons m rest ih =>
    have hmove := tally_move d m
    have hrest := ih (d.move m).1
    rw [instants_cons, List.length_append, play_cons, tally_append, tally_append]
    omega

/-- What the journal counts of an exchange. -/
def countedItem : Outcome → Item
  | .attempt => .began
  | .success => .granted
  | .failure => .failed

theorem count_entries (outer : Option Span) (outcome : Outcome) (e : Happening) :
    Journal.count .tokenExchange outcome (e.entries outer) = tally (countedItem outcome) [e] := by
  cases e with
  | ended call cell grant => cases grant <;> cases outcome <;> rfl
  | _ => cases outcome <;> rfl

theorem count_journal (outer : Option Span) (outcome : Outcome) (happenings : List Happening) :
    (journal outer happenings).count .tokenExchange outcome =
      tally (countedItem outcome) happenings := by
  induction happenings with
  | nil => rfl
  | cons e rest ih =>
    rw [journal, List.flatMap_cons, Journal.count_append, ← journal, ih, count_entries,
      ← tally_append, List.singleton_append]

/-- In every play, the exchanges that began are those that gave a token, failed or were cancelled, and
the one that runs; the calls that started are those that were served from the cache, returned the
outcome of an exchange or were given up, and those that wait; and the journal counts the exchanges. -/
theorem books_balance (moves : List Move) (outer : Option Span) :
    let run := play {} moves
    let d := run.1
    let told := journal outer run.2
    d.exchanges = tally .granted run.2 + d.failures + tally .cancelled run.2 +
      (if d.isExchanging then 1 else 0) ∧
    (instants moves).length = d.cacheHits + tally .returned run.2 + tally .dropped run.2 +
      d.waiting.length ∧
    told.count .tokenExchange .attempt = d.exchanges ∧
    told.count .tokenExchange .failure = d.failures ∧
    told.count .tokenExchange .success = tally .granted run.2 := by
  intro run d told
  have hbooked : Booked {} run.2 d := (play_trail {} moves).booked sound_init
  have hcalls : tally .hit run.2 + tally .joined run.2 = (instants moves).length :=
    tally_play {} moves
  have hexchanges : d.exchanges = tally .began run.2 := by simpa using hbooked.exchanges
  have hfailures : d.failures = tally .failed run.2 := by simpa using hbooked.failures
  have hhits : d.cacheHits = tally .hit run.2 := by simpa using hbooked.cacheHits
  have hwaiting : d.waiting.length + tally .returned run.2 + tally .dropped run.2 =
      tally .joined run.2 := by
    simpa using hbooked.waiting
  have hrunning : (if d.isExchanging then 1 else 0) + tally .granted run.2 + tally .failed run.2 +
      tally .cancelled run.2 = tally .began run.2 := by
    have htoNat : (if d.isExchanging then 1 else 0) = d.isExchanging.toNat := by
      cases d.isExchanging <;> rfl
    rw [htoNat]
    simpa [isExchanging] using hbooked.running
  refine ⟨?_, ?_, ?_, ?_, count_journal outer .success run.2⟩
  · omega
  · omega
  · exact (count_journal outer .attempt run.2).trans hexchanges.symm
  · exact (count_journal outer .failure run.2).trans hfailures.symm

end Desk

end Wayfare
