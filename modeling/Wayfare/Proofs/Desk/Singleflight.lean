import Wayfare.Proofs.Desk.Change

/-!
One exchange for all. When every call has looked and nothing is left to do, an exchange runs exactly
if a call waits, and all that wait stand at the one registered cell.
-/
namespace Wayfare.Desk

variable {d : Desk}

/-! ## Rest -/

/-- While the source gives nothing, no waiting call has anything to do. -/
def Quiet (d : Desk) : Prop :=
  ∀ w ∈ d.waiting, d.move (.look w.call none) = (d, [])

theorem Sound.quiet_iff (hd : d.Sound) :
    d.Quiet ↔ ∀ w ∈ d.waiting, ∃ driver, d.cells[w.cell]? = some (.running driver) := by
  constructor
  · intro hq w hw
    have hlook : d.look w none = (d, []) := by
      rw [← hd.move_look hw]
      exact hq w hw
    rcases hd.registered_or_done hw with hreg | ⟨grant, hdone⟩
    · rcases hd.open_of_registered hreg with hidle | hrun
      · simp [look_idle hidle] at hlook
      · exact hrun
    · simp [look_done hdone] at hlook
  · intro h w hw
    obtain ⟨driver, hrun⟩ := h w hw
    rw [hd.move_look hw]
    by_cases hdriver : driver = w.call
    · exact look_running (hdriver ▸ hrun)
    · exact look_running_of_ne hrun hdriver none

/-- One exchange runs for all calls that wait, at the registered cell. -/
structure Singleflight (d : Desk) : Prop where
  at_most_one : ∀ c driver c' driver' : Nat, d.cells[c]? = some (.running driver) →
    d.cells[c']? = some (.running driver') → c = c' ∧ driver = driver'
  runs_iff : (∃ c driver : Nat, d.cells[c]? = some (.running driver)) ↔ d.waiting ≠ []
  at_registered : d.waiting ≠ [] → ∃ c driver : Nat, d.registered = some c ∧
    d.cells[c]? = some (.running driver) ∧ ∀ w ∈ d.waiting, w.cell = c

theorem Sound.running_unique (hd : d.Sound) {c driver c' driver' : Nat}
    (h : d.cells[c]? = some (.running driver)) (h' : d.cells[c']? = some (.running driver')) :
    c = c' ∧ driver = driver' := by
  have hc : c = c' :=
    Option.some.inj ((hd.registered_of_running h).symm.trans (hd.registered_of_running h'))
  subst hc
  exact ⟨rfl, Cell.running.inj (Option.some.inj (h.symm.trans h'))⟩

theorem Sound.singleflight (hd : d.Sound) (hq : d.Quiet) : d.Singleflight := by
  have hrun := hd.quiet_iff.mp hq
  refine ⟨fun _ _ _ _ => hd.running_unique, ⟨?_, ?_⟩, ?_⟩
  · rintro ⟨c, driver, h⟩ hnil
    simpa [hnil] using hd.driver_waits c driver h
  · intro hne
    obtain ⟨w, hw⟩ := List.exists_mem_of_ne_nil _ hne
    exact ⟨w.cell, hrun w hw⟩
  · intro hne
    obtain ⟨w, hw⟩ := List.exists_mem_of_ne_nil _ hne
    obtain ⟨driver, h⟩ := hrun w hw
    refine ⟨w.cell, driver, hd.registered_of_running h, h, fun v hv => ?_⟩
    obtain ⟨driver', h'⟩ := hrun v hv
    exact (hd.running_unique h' h).1

/-! ## The next exchange -/

theorem Sound.registered_of_ended (hd : d.Sound) {m : Move} {driver cell : Nat} {grant : Grant}
    (h : .ended driver cell grant ∈ (d.move m).2) : (d.move m).1.registered = none := by
  obtain ⟨before, after, d₁, d₂, hsplit, first, step, rest⟩ := (move_trail d m).step_of_mem h
  have hnone : d₂.registered = none := by
    cases step with
    | ended _ _ hrun => simp [Desk.finish, (first.sound hd).registered_of_running hrun]
  refine rest.unregistered hnone fun call c hmem => ?_
  have hjoined : .joined call c ∈ (d.move m).2 := by
    rw [hsplit]
    exact List.mem_append_right _ (List.mem_cons_of_mem _ hmem)
  rcases move_of_ended h with hm | hm <;> simp [hm] at hjoined

/-- What happens when a call begins an exchange and the source gives it this answer. -/
def exchangeHappenings (call cell : Nat) : Option Grant → List Happening
  | none => [.began call cell]
  | some grant => [.began call cell, .ended call cell grant, .returned call (result grant)]

/-- A call that joins an idle cell begins an exchange there with its first look. -/
theorem Sound.call_begins (hd : d.Sound) {now : Instant} (hmissed : d.cachedAt now = none)
    (hidle : d.join.1.cells[d.join.2.cell]? = some .idle) (answer : Option Grant) :
    (d.play [.call now, .look d.calls answer]).2 =
      .joined d.calls d.join.2.cell :: exchangeHappenings d.calls d.join.2.cell answer := by
  have hlook := hd.join.move_look (mem_waiting_join d) answer
  rw [join_call] at hlook
  have hcall : d.move (.call now) = (d.join.1, [.joined d.calls d.join.2.cell]) := by
    rw [← join_call d]
    exact call_of_missed hmissed
  simp only [play_cons, play_nil, hcall, hlook, List.append_nil]
  cases answer with
  | none => rw [look_idle hidle, join_call]; rfl
  | some grant => rw [look_idle_grant hidle, join_call]; rfl

theorem Sound.call_begins_new (hd : d.Sound) {now : Instant} (hmissed : d.cachedAt now = none)
    (hreg : d.registered = none) (answer : Option Grant) :
    (d.play [.call now, .look d.calls answer]).2 =
      .joined d.calls d.cells.length :: exchangeHappenings d.calls d.cells.length answer := by
  obtain ⟨hwaiting, hcells⟩ := join_of_unregistered hreg
  have hcell : d.join.2.cell = d.cells.length := by rw [hwaiting]
  rw [← hcell]
  exact hd.call_begins hmissed (by simp [hcell, hcells]) answer

theorem Sound.call_takes_over (hd : d.Sound) {now : Instant} {c : Nat}
    (hmissed : d.cachedAt now = none) (hreg : d.registered = some c) (hnil : d.waiting = [])
    (answer : Option Grant) :
    (d.play [.call now, .look d.calls answer]).2 =
      .joined d.calls c :: exchangeHappenings d.calls c answer := by
  obtain ⟨hwaiting, hcells⟩ := join_of_registered hreg
  have hcell : d.join.2.cell = c := by rw [hwaiting]
  have hidle : d.cells[c]? = some .idle := by
    rcases hd.open_of_registered hreg with hidle | ⟨driver, hrun⟩
    · exact hidle
    · simpa [hnil] using hd.driver_waits c driver hrun
  rw [← hcell]
  exact hd.call_begins hmissed (by rw [hcell, hcells, hidle]) answer

/-- In every play, a desk at rest runs one exchange for all calls that wait, and none if none waits.
When an exchange ends, no cell is registered until the next call that finds no token, and that call
begins an exchange at a new cell. A cell that all its calls have left is taken over by the next call
that finds no token, which begins one exchange there. -/
theorem singleflight_in_play (moves : List Move) :
    let d := (play {} moves).1
    (d.Quiet → d.Singleflight) ∧
    (∀ m driver cell grant, .ended driver cell grant ∈ (d.move m).2 → ∀ rest,
      let later := (d.move m).1.play rest
      (∀ call c, .joined call c ∉ later.2) →
        later.1.registered = none ∧
        ∀ now answer, (∀ token ∈ later.1.cached, token.validAt now = false) →
          (later.1.play [.call now, .look later.1.calls answer]).2 =
            .joined later.1.calls later.1.cells.length ::
              exchangeHappenings later.1.calls later.1.cells.length answer) ∧
    ∀ c, d.registered = some c → d.waiting = [] →
      ∀ now answer, (∀ token ∈ d.cached, token.validAt now = false) →
        (d.play [.call now, .look d.calls answer]).2 =
          .joined d.calls c :: exchangeHappenings d.calls c answer := by
  intro d
  have hd : d.Sound := sound_play moves
  refine ⟨hd.singleflight, ?_, ?_⟩
  · intro m driver cell grant hended rest later hnone
    have hreg : later.1.registered = none :=
      (play_trail _ rest).unregistered (hd.registered_of_ended hended) hnone
    refine ⟨hreg, fun now answer hmissed => ?_⟩
    exact ((hd.move m).play rest).call_begins_new (cachedAt_eq_none_iff.mpr hmissed) hreg answer
  · intro c hreg hnil now answer hmissed
    exact hd.call_takes_over (cachedAt_eq_none_iff.mpr hmissed) hreg hnil answer

/-- The driver of two calls is given up, and the other takes its exchange over. -/
theorem singleflight_after_take_over :
    let d := (play {} [.call epoch, .call epoch, .look 0 none, .drop 0, .look 1 none]).1
    d.waiting = [⟨1, 0⟩] ∧ d.Quiet ∧ d.Singleflight := by
  intro d
  have hwaiting : d.waiting = [⟨1, 0⟩] := rfl
  have hq : d.Quiet := by
    intro w hw
    rw [hwaiting] at hw
    obtain rfl := List.mem_singleton.mp hw
    rfl
  exact ⟨hwaiting, hq, (singleflight_in_play _).1 hq⟩

end Wayfare.Desk
