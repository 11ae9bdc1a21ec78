import Mathlib.Data.List.Nodup
import Wayfare.Proofs.Desk.Play

/-!
What holds at a desk at all times: at most one cell is open, it is the registered one, and a running
exchange is driven by a call that still waits.
-/
namespace Wayfare.Desk

/-- Whether the exchange of a cell has still to end. -/
def Cell.isOpen : Cell → Bool
  | .done _ => false
  | _ => true

/-- Calls that wait stand at cells, and the open cell among them is the one that is registered. -/
structure Sound (d : Desk) : Prop where
  registered_iff : ∀ c, d.registered = some c ↔ ∃ cell, d.cells[c]? = some cell ∧ cell.isOpen
  driver_waits : ∀ c driver, d.cells[c]? = some (.running driver) → ⟨driver, c⟩ ∈ d.waiting
  cell_lt : ∀ w ∈ d.waiting, w.cell < d.cells.length
  call_lt : ∀ w ∈ d.waiting, w.call < d.calls
  in_order : d.waiting.Pairwise (·.call < ·.call)

theorem sound_init : Sound {} where
  registered_iff := by simp
  driver_waits := by simp
  cell_lt := by simp
  call_lt := by simp
  in_order := by simp

namespace Sound

variable {d : Desk} (hd : d.Sound)

include hd

/-! ## At one moment -/

theorem eq_of_call {v w : Waiting} (hv : v ∈ d.waiting) (hw : w ∈ d.waiting)
    (h : v.call = w.call) : v = w := by
  have hcalls : (d.waiting.map (·.call)).Nodup :=
    List.pairwise_map.mpr (hd.in_order.imp Nat.ne_of_lt)
  exact List.inj_on_of_nodup_map hcalls hv hw h

theorem find_call {w : Waiting} (hw : w ∈ d.waiting) :
    d.waiting.find? (·.call = w.call) = some w := by
  cases hf : d.waiting.find? (·.call = w.call) with
  | none => simpa using List.find?_eq_none.mp hf w hw
  | some v =>
    have hcall : v.call = w.call := by simpa using List.find?_some hf
    rw [hd.eq_of_call (List.mem_of_find?_eq_some hf) hw hcall]

theorem move_look {w : Waiting} (hw : w ∈ d.waiting) (answer : Option Grant) :
    d.move (.look w.call answer) = d.look w answer := by
  simp [move, hd.find_call hw]

theorem move_drop {w : Waiting} (hw : w ∈ d.waiting)
    (h : d.cells[w.cell]? = some (.running w.call)) :
    d.move (.drop w.call) =
      ((d.abandon w).leave w.call, [.cancelled w.call w.cell, .dropped w.call]) := by
  simp [move, drop, hd.find_call hw, leave, abandon, h]

theorem registered_of_idle {c : Nat} (h : d.cells[c]? = some .idle) : d.registered = some c :=
  (hd.registered_iff c).mpr ⟨.idle, h, rfl⟩

theorem registered_of_running {c driver : Nat} (h : d.cells[c]? = some (.running driver)) :
    d.registered = some c :=
  (hd.registered_iff c).mpr ⟨.running driver, h, rfl⟩

theorem open_of_registered {c : Nat} (h : d.registered = some c) :
    d.cells[c]? = some .idle ∨ ∃ driver, d.cells[c]? = some (.running driver) := by
  obtain ⟨cell, hcell, hopen⟩ := (hd.registered_iff c).mp h
  cases cell with
  | idle => exact .inl hcell
  | running driver => exact .inr ⟨driver, hcell⟩
  | done grant => simp [Cell.isOpen] at hopen

/-- A call waits at the registered cell, or at one whose exchange has ended. -/
theorem registered_or_done {w : Waiting} (hw : w ∈ d.waiting) :
    d.registered = some w.cell ∨ ∃ grant, d.cells[w.cell]? = some (.done grant) := by
  cases h : d.cells[w.cell]? with
  | none => exact absurd (hd.cell_lt w hw) (Nat.not_lt.mpr (List.getElem?_eq_none_iff.mp h))
  | some cell =>
    cases cell with
    | idle => exact .inl (hd.registered_of_idle h)
    | running driver => exact .inl (hd.registered_of_running h)
    | done grant => exact .inr ⟨grant, rfl⟩

theorem cell_of_drives {w : Waiting} {c : Nat} (hw : w ∈ d.waiting)
    (h : d.cells[c]? = some (.running w.call)) : w.cell = c := by
  rw [hd.eq_of_call hw (hd.driver_waits c w.call h) rfl]

/-! ## From step to step -/

theorem serve : d.serve.Sound where
  registered_iff := hd.registered_iff
  driver_waits := hd.driver_waits
  cell_lt := hd.cell_lt
  call_lt := fun w hw => Nat.lt_succ_of_lt (hd.call_lt w hw)
  in_order := hd.in_order

theorem invalidate : d.invalidate.Sound :=
  ⟨hd.registered_iff, hd.driver_waits, hd.cell_lt, hd.call_lt, hd.in_order⟩

theorem registered_iff_join (c : Nat) :
    d.join.1.registered = some c ↔ ∃ cell, d.join.1.cells[c]? = some cell ∧ cell.isOpen := by
  simp only [registered_join, cells_join]
  cases h : d.registered with
  | some cell => simpa [join_of_registered h, h] using hd.registered_iff c
  | none =>
    have hnone : ∀ cell, d.cells[c]? = some cell → ¬ cell.isOpen := by
      simpa [h] using hd.registered_iff c
    simp only [join_of_unregistered h, Option.some.injEq, true_and]
    constructor
    · rintro rfl
      exact ⟨.idle, .inr ⟨rfl, rfl⟩, rfl⟩
    · rintro ⟨cell, hold | ⟨hc, -⟩, hopen⟩
      · exact absurd hopen (hnone cell hold)
      · exact hc.symm

theorem join : d.join.1.Sound := by
  have hlt : ∀ {c : Nat} {cell : Cell}, d.join.1.cells[c]? = some cell →
      c < d.join.1.cells.length := fun h => (List.getElem?_eq_some_iff.mp h).1
  refine ⟨hd.registered_iff_join, fun c driver hc => ?_, fun w hw => ?_, fun w hw => ?_, ?_⟩
  · have hold := (cells_join.mp hc).resolve_right (by simp)
    exact d.waiting_join ▸ List.mem_append_left _ (hd.driver_waits c driver hold)
  · rcases List.mem_append.mp (d.waiting_join ▸ hw) with hw | hw
    · exact hlt (cells_join.mpr (.inl (List.getElem?_eq_getElem (hd.cell_lt w hw))))
    · obtain rfl := List.mem_singleton.mp hw
      obtain ⟨cell, hcell, -⟩ := (hd.registered_iff_join _).mp (registered_join d)
      exact hlt hcell
  · rcases List.mem_append.mp (d.waiting_join ▸ hw) with hw | hw
    · exact d.calls_join ▸ Nat.lt_succ_of_lt (hd.call_lt w hw)
    · obtain rfl := List.mem_singleton.mp hw
      simp
  · rw [waiting_join]
    refine List.pairwise_append.mpr ⟨hd.in_order, List.pairwise_singleton _ _, fun w hw v hv => ?_⟩
    obtain rfl := List.mem_singleton.mp hv
    exact d.join_call.symm ▸ hd.call_lt w hw

/-- An open cell may change as long as it stays open and is driven by a call that waits at it. -/
theorem set_open {i : Nat} {cell : Cell} (hi : d.registered = some i) (hopen : cell.isOpen)
    (hdriver : ∀ driver, cell = .running driver → ⟨driver, i⟩ ∈ d.waiting) (exchanges : Nat) :
    Sound { d with cells := d.cells.set i cell, exchanges := exchanges } := by
  obtain ⟨entry, hentry, -⟩ := (hd.registered_iff i).mp hi
  have hlt : i < d.cells.length := (List.getElem?_eq_some_iff.mp hentry).1
  refine ⟨?_, ?_, fun w hw => by simpa using hd.cell_lt w hw, hd.call_lt, hd.in_order⟩
  · intro c
    by_cases hc : c = i
    · subst hc
      simp [hi, hlt, hopen]
    · simpa [List.getElem?_set_ne (Ne.symm hc)] using hd.registered_iff c
  · intro c driver h
    by_cases hc : c = i
    · subst hc
      simp only [List.getElem?_set_self hlt, Option.some.injEq] at h
      exact hdriver driver h
    · rw [List.getElem?_set_ne (Ne.symm hc)] at h
      exact hd.driver_waits c driver h

theorem begin {w : Waiting} (hw : w ∈ d.waiting) (h : d.cells[w.cell]? = some .idle) :
    (d.begin w).Sound :=
  hd.set_open (hd.registered_of_idle h) rfl (by rintro _ ⟨⟩; exact hw) _

theorem abandon {w : Waiting} (h : d.cells[w.cell]? = some (.running w.call)) :
    (d.abandon w).Sound :=
  hd.set_open (hd.registered_of_running h) rfl (by rintro _ ⟨⟩) d.exchanges

theorem finish {w : Waiting} (h : d.cells[w.cell]? = some (.running w.call)) (grant : Grant) :
    (d.finish w grant).Sound := by
  have hlt : w.cell < d.cells.length := (List.getElem?_eq_some_iff.mp h).1
  have hreg : d.registered = some w.cell := hd.registered_of_running h
  refine ⟨?_, ?_, fun v hv => by simpa [Desk.finish] using hd.cell_lt v hv, hd.call_lt,
    hd.in_order⟩
  · intro c
    by_cases hc : c = w.cell
    · subst hc
      simp [Desk.finish, hreg, hlt, Cell.isOpen]
    · simpa [Desk.finish, hreg, List.getElem?_set_ne (Ne.symm hc), Ne.symm hc] using
        hd.registered_iff c
  · intro c driver hrun
    by_cases hc : c = w.cell
    · subst hc
      simp [Desk.finish, hlt] at hrun
    · simp only [Desk.finish, List.getElem?_set_ne (Ne.symm hc)] at hrun
      exact hd.driver_waits c driver hrun

theorem leave {w : Waiting} (hw : w ∈ d.waiting)
    (h : d.cells[w.cell]? ≠ some (.running w.call)) : (d.leave w.call).Sound := by
  refine ⟨hd.registered_iff, ?_, ?_, ?_, hd.in_order.filter _⟩
  · intro c driver hrun
    have hmem : ⟨driver, c⟩ ∈ d.waiting := hd.driver_waits c driver hrun
    have hne : driver ≠ w.call := by
      rintro rfl
      rw [hd.cell_of_drives hw hrun] at h
      exact h hrun
    simpa [Desk.leave, hne] using hmem
  · intro v hv
    exact hd.cell_lt v (List.mem_of_mem_filter hv)
  · intro v hv
    exact hd.call_lt v (List.mem_of_mem_filter hv)

end Sound

theorem Step.sound {d d' : Desk} {e : Happening} (step : Step d e d') (hd : d.Sound) :
    d'.Sound := by
  cases step with
  | hit _ _ => exact hd.serve
  | joined _ => exact hd.join
  | began hw h => exact hd.begin hw h
  | ended grant _ h => exact hd.finish h grant
  | returned hw h => exact hd.leave hw (by simp [h])
  | cancelled _ h => exact hd.abandon h
  | dropped hw h => exact hd.leave hw h
  | invalidated => exact hd.invalidate

theorem Trail.sound {d d' : Desk} {happenings : List Happening}
    (h : Trail d happenings d') (hd : d.Sound) : d'.Sound := by
  induction h with
  | nil => exact hd
  | cons step _ ih => exact ih (step.sound hd)

theorem Sound.move {d : Desk} (hd : d.Sound) (m : Move) : (d.move m).1.Sound :=
  (move_trail d m).sound hd

theorem Sound.play {d : Desk} (hd : d.Sound) (moves : List Move) : (d.play moves).1.Sound :=
  (play_trail d moves).sound hd

theorem sound_play (moves : List Move) : (play {} moves).1.Sound :=
  sound_init.play moves

end Wayfare.Desk
