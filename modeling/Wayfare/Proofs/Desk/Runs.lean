import Wayfare.Proofs.Desk.Singleflight

/-!
Runs in which every waiting call looks after each act. Such a run is a play, and one round of looks
brings the desk to rest.
-/
namespace Wayfare.Desk

variable {d : Desk} {σ : Type} {source : Source σ}

/-- Some acts, one after the other. -/
def Run.after (r : Run) : List Act → Run × List Happening
  | [] => (r, [])
  | act :: rest =>
    let (r, first) := r.step act
    let (r, more) := r.after rest
    (r, first ++ more)

/-! ## A run is a play -/

theorem drive_once (source : Source σ) (d : Desk) (s : σ) (w : Waiting) :
    ∃ s', drive source d s w = ((drive once d ((source s).map (·.1)) w).1, s',
      (drive once d ((source s).map (·.1)) w).2.2) := by
  cases hs : source s with
  | none => exact ⟨s, by simp [drive, hs, once]⟩
  | some pair => exact ⟨pair.2, by simp [drive, hs, once]⟩

/-- A poll is a look, with the answer that the source gives. -/
theorem poll_look (source : Source σ) (d : Desk) (s : σ) (w : Waiting) :
    ∃ answer s', poll source d s w = ((d.look w answer).1, s', (d.look w answer).2) := by
  refine ⟨(source s).map (·.1), ?_⟩
  unfold look poll
  cases d.cells[w.cell]? with
  | none => exact ⟨s, rfl⟩
  | some cell =>
    cases cell with
    | idle =>
      obtain ⟨s', h⟩ := drive_once source (d.begin w) s w
      exact ⟨s', by simp only [h]⟩
    | running driver =>
      by_cases hdriver : driver = w.call
      · obtain ⟨s', h⟩ := drive_once source d s w
        exact ⟨s', by simp only [hdriver, if_true, h]⟩
      · exact ⟨s, by simp only [hdriver, if_false]⟩
    | done grant => exact ⟨s, rfl⟩

/-- A look of another call does not send a call away. -/
theorem mem_waiting_look {v w : Waiting} (hv : v ∈ d.waiting) (hw : w ∈ d.waiting)
    (hne : v.call ≠ w.call) (answer : Option Grant) : v ∈ (d.look w answer).1.waiting := by
  have hm := moved_look hw answer
  generalize d.look w answer = r at hm ⊢
  generalize hlook : Move.look w.call answer = m at hm
  cases hm with
  | nothing _ => exact hv
  | began _ _ => exact hv
  | returned _ _ _ | served _ _ _ | ended _ _ _ =>
    obtain ⟨hcall, -⟩ := Move.look.inj hlook
    exact List.mem_filter.mpr ⟨hv, by simpa [← hcall] using hne⟩
  | _ => cases hlook

theorem pollAll_play (hd : d.Sound) {ws : List Waiting} (hws : ∀ w ∈ ws, w ∈ d.waiting)
    (hcalls : ws.Pairwise (·.call < ·.call)) (s : σ) :
    ∃ moves, d.play moves = ((pollAll source d s ws).1, (pollAll source d s ws).2.2) := by
  induction ws generalizing d s with
  | nil => exact ⟨[], rfl⟩
  | cons w ws ih =>
    obtain ⟨hw, hws⟩ := List.forall_mem_cons.mp hws
    obtain ⟨hlt, hcalls⟩ := List.pairwise_cons.mp hcalls
    obtain ⟨answer, s', hpoll⟩ := poll_look source d s w
    have hmove := hd.move_look hw answer
    have hws' : ∀ v ∈ ws, v ∈ (d.look w answer).1.waiting := fun v hv =>
      mem_waiting_look (hws v hv) hw (Nat.ne_of_gt (hlt v hv)) answer
    obtain ⟨moves, hplay⟩ := ih (hmove ▸ hd.move (.look w.call answer)) hws' hcalls s'
    refine ⟨.look w.call answer :: moves, ?_⟩
    simp only [play_cons, hmove, hplay, pollAll, hpoll]

theorem settle_play (source : Source σ) (hd : d.Sound) (s : σ) :
    ∃ moves, d.play moves = ((settle source d s).1, (settle source d s).2.2) :=
  pollAll_play hd (fun _ h => h) hd.in_order s

theorem dropAll_play (d : Desk) (calls : List Nat) :
    d.play (calls.map .drop) = d.dropAll calls := by
  induction calls generalizing d with
  | nil => rfl
  | cons call calls ih =>
    rw [List.map_cons, play_cons, ih]
    rfl

/-- An act is made of moves, none of them a look, and all waiting calls look then. -/
theorem Run.step_play (r : Run) (act : Act) :
    ∃ moves grants, (∀ m ∈ moves, ∀ call answer, m ≠ .look call answer) ∧
      let d := r.desk.play moves
      let settled := settle queued d.1 grants
      r.step act = (⟨settled.1, settled.2.1⟩, d.2 ++ settled.2.2) := by
  cases act with
  | call now => exact ⟨[.call now], r.grants, by simp, by simp [Run.step, move]⟩
  | drop calls =>
    exact ⟨calls.map .drop, r.grants, by simp, by rw [dropAll_play]; rfl⟩
  | deliver grant => exact ⟨[], r.grants ++ [grant], by simp, rfl⟩
  | invalidate => exact ⟨[.invalidate], r.grants, by simp, by simp [Run.step, move]⟩

/-! ## A round of looks brings rest -/

/-- No call has missed the end of its exchange, and the oldest call drives. -/
structure Calm (d : Desk) : Prop where
  sound : d.Sound
  at_registered : ∀ w ∈ d.waiting, d.registered = some w.cell
  oldest_drives : ∀ c driver : Nat, d.cells[c]? = some (.running driver) →
    ∀ w ∈ d.waiting, driver ≤ w.call

theorem Sound.calm (hd : d.Sound) (h : d.waiting = []) : d.Calm :=
  ⟨hd, by simp [h], by simp [h]⟩

/-- A desk stays calm while no exchange begins or ends. -/
theorem Step.calm {d' : Desk} {e : Happening} (step : Step d e d') (hd : d.Calm)
    (hbegan : ∀ call cell, e ≠ .began call cell) (hended : e.grant? = none) : d'.Calm := by
  refine ⟨step.sound hd.sound, fun w hw => ?_, fun c driver hrun w hw => ?_⟩
  · rcases step.waited hw with hold | ⟨rfl, -⟩
    · rcases step.registered hd.sound (hd.at_registered w hold) with ⟨hreg, -⟩ | ⟨_, _, rfl, -⟩
      · exact hreg
      · simp [Happening.grant?] at hended
    · generalize hjoined : Happening.joined w.call w.cell = e at step
      cases step with
      | joined _ =>
        obtain ⟨-, hcell⟩ := Happening.joined.inj hjoined
        rw [registered_join, hcell]
      | _ => cases hjoined
  · have hold := (step.running hrun).resolve_left (hbegan driver c)
    rcases step.waited hw with hw | ⟨-, hcall⟩
    · exact hd.oldest_drives c driver hold w hw
    · rw [hcall]
      exact Nat.le_of_lt (hd.sound.call_lt _ (hd.sound.driver_waits c driver hold))

theorem Trail.calm {d' : Desk} {happenings : List Happening} (h : Trail d happenings d')
    (hd : d.Calm)
    (hnone : ∀ e ∈ happenings, (∀ call cell, e ≠ .began call cell) ∧ e.grant? = none) :
    d'.Calm := by
  induction h with
  | nil => exact hd
  | cons step _ ih =>
    obtain ⟨⟨hbegan, hended⟩, hrest⟩ := List.forall_mem_cons.mp hnone
    exact ih (step.calm hd hbegan hended) hrest

theorem Calm.move (hd : d.Calm) {m : Move} (h : ∀ call answer, m ≠ .look call answer) :
    (d.move m).1.Calm := by
  refine (move_trail d m).calm hd ?_
  have hm := moved d m
  generalize d.move m = r at hm ⊢
  cases hm with
  | returned _ _ _ | began _ _ | served _ _ _ | ended _ _ _ => exact absurd rfl (h _ _)
  | _ => simp [Happening.grant?]

theorem Calm.play (hd : d.Calm) {moves : List Move}
    (h : ∀ m ∈ moves, ∀ call answer, m ≠ .look call answer) : (d.play moves).1.Calm := by
  induction moves generalizing d with
  | nil => exact hd
  | cons m rest ih =>
    obtain ⟨hm, hrest⟩ := List.forall_mem_cons.mp h
    exact ih (hd.move hm) hrest

theorem pollAll_running {ws : List Waiting} {c driver : Nat}
    (h : d.cells[c]? = some (.running driver)) (hws : ∀ w ∈ ws, w.cell = c ∧ driver ≠ w.call)
    (s : σ) : pollAll source d s ws = (d, s, []) := by
  induction ws with
  | nil => rfl
  | cons w ws ih =>
    obtain ⟨⟨rfl, hne⟩, hws⟩ := List.forall_mem_cons.mp hws
    simp [pollAll, poll, h, hne, ih hws]

theorem pollAll_done {ws : List Waiting} {c : Nat} {grant : Grant}
    (h : d.cells[c]? = some (.done grant)) (hws : ∀ w ∈ ws, w.cell = c) (s : σ) :
    ∀ v ∈ (pollAll source d s ws).1.waiting, v ∈ d.waiting ∧ v ∉ ws := by
  induction ws generalizing d s with
  | nil => exact fun v hv => ⟨hv, by simp⟩
  | cons w ws ih =>
    obtain ⟨rfl, hws⟩ := List.forall_mem_cons.mp hws
    intro v hv
    have hpoll : poll source d s w = (d.leave w.call, s, [.returned w.call (result grant)]) := by
      simp [poll, h]
    simp only [pollAll, hpoll] at hv
    obtain ⟨hv, hnot⟩ := ih (d := d.leave w.call) h hws s v hv
    obtain ⟨hv, hne⟩ := List.mem_filter.mp hv
    refine ⟨hv, List.not_mem_cons_of_ne_of_not_mem ?_ hnot⟩
    rintro rfl
    simp at hne

/-- A look of the oldest call at an open cell: it drives the exchange then, or has ended it. -/
theorem Sound.look_open (hd : d.Sound) {w : Waiting} (hreg : d.registered = some w.cell)
    (hdrives : ∀ driver, d.cells[w.cell]? = some (.running driver) → driver = w.call)
    (answer : Option Grant) :
    let d' := (d.look w answer).1
    d'.cells[w.cell]? = some (.running w.call) ∧ d'.waiting = d.waiting ∨
      ∃ grant, d'.cells[w.cell]? = some (.done grant) ∧
        d'.waiting = d.waiting.filter (·.call ≠ w.call) := by
  rcases hd.open_of_registered hreg with hidle | ⟨driver, hrun⟩
  · have hrun := cells_begin hidle
    cases answer with
    | none =>
      rw [look_idle hidle]
      exact .inl ⟨hrun, rfl⟩
    | some grant =>
      rw [look_idle_grant hidle]
      exact .inr ⟨grant, cells_finish hrun grant, rfl⟩
  · obtain rfl := hdrives driver hrun
    cases answer with
    | none =>
      rw [look_running hrun]
      exact .inl ⟨hrun, rfl⟩
    | some grant =>
      rw [look_running_grant hrun]
      exact .inr ⟨grant, cells_finish hrun grant, rfl⟩

/-- At a calm desk the oldest call waits at the registered cell, drives if anyone does, and the others
stand behind it. -/
theorem Calm.oldest (hd : d.Calm) {w : Waiting} {rest : List Waiting} (h : d.waiting = w :: rest) :
    d.registered = some w.cell ∧ (∀ v ∈ rest, v.cell = w.cell ∧ w.call < v.call) ∧
      ∀ driver, d.cells[w.cell]? = some (.running driver) → driver = w.call := by
  have hw : w ∈ d.waiting := h ▸ List.mem_cons_self
  have hreg := hd.at_registered w hw
  have hlt : ∀ v ∈ rest, w.call < v.call := (List.pairwise_cons.mp (h ▸ hd.sound.in_order)).1
  refine ⟨hreg, fun v hv => ⟨?_, hlt v hv⟩, fun driver hrun => ?_⟩
  · have hv' := hd.at_registered v (h ▸ List.mem_cons_of_mem w hv)
    exact Option.some.inj (hv'.symm.trans hreg)
  · rcases List.mem_cons.mp (h ▸ hd.sound.driver_waits w.cell driver hrun) with heq | hmem
    · exact congrArg Waiting.call heq
    · exact absurd (hd.oldest_drives w.cell driver hrun w hw) (Nat.not_le.mpr (hlt _ hmem))

/-- A desk where the oldest call drives for all others is calm, and at rest. -/
theorem Sound.calm_of_running (hd : d.Sound) {w : Waiting}
    (hrun : d.cells[w.cell]? = some (.running w.call))
    (hws : ∀ v ∈ d.waiting, v.cell = w.cell ∧ w.call ≤ v.call) : d.Calm ∧ d.Quiet := by
  refine ⟨⟨hd, fun v hv => ?_, fun c driver hrun' v hv => ?_⟩, ?_⟩
  · rw [(hws v hv).1]
    exact hd.registered_of_running hrun
  · obtain ⟨-, rfl⟩ := hd.running_unique hrun' hrun
    exact (hws v hv).2
  · exact hd.quiet_iff.mpr fun v hv => ⟨w.call, (hws v hv).1 ▸ hrun⟩

theorem Calm.settle (hd : d.Calm) (source : Source σ) (s : σ) :
    (settle source d s).1.Calm ∧ (settle source d s).1.Quiet := by
  have hsound : (Desk.settle source d s).1.Sound := by
    obtain ⟨moves, hplay⟩ := settle_play source hd.sound s
    simpa [hplay] using hd.sound.play moves
  cases hwaiting : d.waiting with
  | nil =>
    have hsettle : (Desk.settle source d s).1 = d := by simp [Desk.settle, hwaiting, pollAll]
    rw [hsettle]
    exact ⟨hd, by simp [Quiet, hwaiting]⟩
  | cons w rest =>
    obtain ⟨hreg, hrest, hdrives⟩ := hd.oldest hwaiting
    obtain ⟨answer, s', hpoll⟩ := poll_look source d s w
    have hsettle : (Desk.settle source d s).1 = (pollAll source (d.look w answer).1 s' rest).1 := by
      simp [Desk.settle, hwaiting, pollAll, hpoll]
    rcases hd.sound.look_open hreg hdrives answer with ⟨hrun, hsame⟩ | ⟨grant, hdone, hleft⟩
    · -- the oldest call drives, and the others wait on
      have hstill : (Desk.settle source d s).1 = (d.look w answer).1 := by
        rw [hsettle, pollAll_running hrun fun v hv => (hrest v hv).imp_right Nat.ne_of_lt]
      rw [hstill] at hsound ⊢
      refine hsound.calm_of_running hrun ?_
      rw [hsame, hwaiting]
      exact List.forall_mem_cons.mpr
        ⟨⟨rfl, Nat.le_refl _⟩, fun v hv => (hrest v hv).imp_right Nat.le_of_lt⟩
    · -- the exchange has ended, and each of the others returns
      have hnone : (Desk.settle source d s).1.waiting = [] := by
        rw [hsettle, List.eq_nil_iff_forall_not_mem]
        intro v hv
        obtain ⟨hmem, hnot⟩ := pollAll_done hdone (fun v hv => (hrest v hv).1) s' v hv
        rw [hleft, hwaiting] at hmem
        obtain ⟨hmem, hne⟩ := List.mem_filter.mp hmem
        rcases List.mem_cons.mp hmem with rfl | hmem
        · simp at hne
        · exact hnot hmem
      exact ⟨hsound.calm hnone, by simp [Quiet, hnone]⟩

/-! ## Whole runs -/

theorem Run.step_calm {r : Run} (hr : r.desk.Calm) (act : Act) :
    (r.step act).1.desk.Calm ∧ (r.step act).1.desk.Quiet ∧
      ∃ moves, r.desk.play moves = ((r.step act).1.desk, (r.step act).2) := by
  obtain ⟨moves, grants, hmoves, hstep⟩ := r.step_play act
  have hcalm := hr.play hmoves
  obtain ⟨looks, hlooks⟩ := settle_play queued hcalm.sound grants
  obtain ⟨hcalm', hquiet⟩ := hcalm.settle queued grants
  simp only [hstep]
  exact ⟨hcalm', hquiet, moves ++ looks, by rw [play_append, hlooks]⟩

theorem Run.after_calm {r : Run} (hr : r.desk.Calm) (hq : r.desk.Quiet) (acts : List Act) :
    (r.after acts).1.desk.Calm ∧ (r.after acts).1.desk.Quiet ∧
      ∃ moves, r.desk.play moves = ((r.after acts).1.desk, (r.after acts).2) := by
  induction acts generalizing r with
  | nil => exact ⟨hr, hq, [], rfl⟩
  | cons act rest ih =>
    obtain ⟨hr', hq', first, hfirst⟩ := Run.step_calm hr act
    obtain ⟨hcalm, hquiet, more, hmore⟩ := ih hr' hq'
    exact ⟨hcalm, hquiet, first ++ more, by simp [play_append, hfirst, hmore, Run.after]⟩

/-- A run is a play that ends at rest, and one exchange runs then for all calls that wait. -/
theorem Run.after_play (acts : List Act) :
    let run := ({} : Run).after acts
    (∃ moves, play {} moves = (run.1.desk, run.2)) ∧ run.1.desk.Quiet ∧
      run.1.desk.Singleflight := by
  obtain ⟨hcalm, hquiet, hplay⟩ :=
    Run.after_calm (r := {}) (sound_init.calm rfl) (by simp [Quiet]) acts
  exact ⟨hplay, hquiet, hcalm.sound.singleflight hquiet⟩

end Wayfare.Desk
