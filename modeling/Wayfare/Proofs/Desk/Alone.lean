import Wayfare.Proofs.Desk.Sound

/-!
One call of a play. Where no other call waits it starts, looks at once, and has returned then or is given
up.
-/
namespace Wayfare.Desk

/-- Whether a call is the one that something happens to. -/
def Happening.isOf (call : Nat) : Happening → Bool
  | .hit c _ | .joined c _ | .began c _ | .ended c _ _ | .cancelled c _ | .returned c _
  | .dropped c => c == call
  | .invalidated => false

/-- What a call has returned with, if it has. -/
def outcome? (call : Nat) (happenings : List Happening) : Option (Except TokenError Secret) :=
  (happenings.filter (·.isOf call)).findSome? fun
    | .hit _ value => some (.ok value)
    | .returned _ result => some result
    | _ => none

/-- The looks of a call while no other call waits: one, unless it is served. -/
def ownLooks (d : Desk) (now : Instant) (answer : Option Grant) : List Move :=
  match d.cachedAt now with
  | some _ => []
  | none => [.look d.calls answer]

theorem drop_of_waiting {d : Desk} (h : d.waiting = []) (call : Nat) : d.drop call = (d, []) := by
  simp [drop, h]

/-- A desk at which no call waits. -/
structure Vacant (d : Desk) : Prop where
  sound : d.Sound
  waiting : d.waiting = []

namespace Vacant

variable {d : Desk} (hd : d.Vacant)

include hd

theorem serve : d.serve.Vacant :=
  ⟨hd.sound.serve, hd.waiting⟩

theorem invalidate : d.invalidate.Vacant :=
  ⟨hd.sound.invalidate, hd.waiting⟩

theorem waiting_join : d.join.1.waiting = [d.join.2] := by
  rw [Desk.waiting_join, hd.waiting, List.nil_append]

/-- A call that joins finds nobody who drives. -/
theorem idle_join : d.join.1.cells[d.join.2.cell]? = some .idle := by
  rcases hd.sound.join.open_of_registered (registered_join d) with hidle | ⟨driver, hrun⟩
  · exact hidle
  · have hold := (cells_join.mp hrun).resolve_right (by simp)
    have hwaits := hd.sound.driver_waits _ driver hold
    simp [hd.waiting] at hwaits

theorem look_join (answer : Option Grant) :
    d.join.1.move (.look d.calls answer) = d.join.1.look d.join.2 answer := by
  rw [← join_call d]
  exact hd.sound.join.move_look (mem_waiting_join d) answer

/-- When the call that joined leaves, nobody waits. -/
theorem waiting_leave {after : Desk} (h : after.waiting = d.join.1.waiting) :
    (after.leave d.join.2.call).waiting = [] := by
  simp only [leave, h, hd.waiting_join]
  simp

section Call

variable {now : Instant}

theorem play_served {value : Secret} (h : d.cachedAt now = some value) :
    d.play [.call now, .drop d.calls] = (d.serve, [.hit d.calls value]) := by
  have hcall : d.move (.call now) = (d.serve, [.hit d.calls value]) := by
    simp only [move, call, h]
  have hdrop : d.serve.move (.drop d.calls) = (d.serve, []) :=
    drop_of_waiting hd.serve.waiting d.calls
  simp only [play_cons, play_nil, hcall, hdrop, List.append_nil]

theorem play_driven (h : d.cachedAt now = none) (grant : Grant) :
    d.play [.call now, .look d.calls (some grant), .drop d.calls] =
      let w := d.join.2
      (((d.join.1.begin w).finish w grant).leave w.call,
        [.joined w.call w.cell, .began w.call w.cell, .ended w.call w.cell grant,
          .returned w.call (result grant)]) := by
  have hcall : d.move (.call now) = _ := call_of_missed h
  have hleft : (((d.join.1.begin d.join.2).finish d.join.2 grant).leave
      d.join.2.call).waiting = [] := hd.waiting_leave rfl
  have hdrop : Desk.move _ (.drop d.calls) = _ := drop_of_waiting hleft d.calls
  simp only [play_cons, play_nil, hcall, hd.look_join, look_idle_grant hd.idle_join, hdrop]
  rfl

theorem play_given_up (h : d.cachedAt now = none) :
    d.play [.call now, .look d.calls none, .drop d.calls] =
      let w := d.join.2
      (((d.join.1.begin w).abandon w).leave w.call,
        [.joined w.call w.cell, .began w.call w.cell, .cancelled w.call w.cell,
          .dropped w.call]) := by
  have hcall : d.move (.call now) = _ := call_of_missed h
  have hbegun : (d.join.1.begin d.join.2).Sound :=
    hd.sound.join.begin (mem_waiting_join d) hd.idle_join
  have hdrop := hbegun.move_drop (mem_waiting_join d) (cells_begin hd.idle_join)
  rw [join_call] at hdrop
  simp only [play_cons, play_nil, hcall, hd.look_join, look_idle hd.idle_join, hdrop,
    join_call]
  rfl

end Call

/-- A call at a vacant desk is a play, in which all that happens is the call's. -/
theorem acquire_play (exchange : σ → Option Grant × σ) (now : Instant) (s : σ) :
    let (result, after, _, happenings) := d.acquire exchange now s
    d.play (.call now :: d.ownLooks now (exchange s).1 ++ [.drop d.calls]) = (after, happenings) ∧
      outcome? d.calls happenings = result ∧ happenings.filter (·.isOf d.calls) = happenings := by
  cases h : d.cachedAt now with
  | some value =>
    simp only [Desk.acquire, ownLooks, h]
    exact ⟨hd.play_served h, by simp [outcome?, Happening.isOf]⟩
  | none =>
    simp only [Desk.acquire, ownLooks, h]
    rcases exchange s with ⟨_ | grant, s'⟩
    · exact ⟨hd.play_given_up h, by simp [outcome?, Happening.isOf]⟩
    · exact ⟨hd.play_driven h grant, by simp [outcome?, Happening.isOf]⟩

theorem acquire (exchange : σ → Option Grant × σ) (now : Instant) (s : σ) :
    (d.acquire exchange now s).2.1.Vacant := by
  obtain ⟨hplay, -, -⟩ := hd.acquire_play exchange now s
  have hsound := congrArg Prod.fst hplay ▸ hd.sound.play _
  refine ⟨hsound, ?_⟩
  unfold Desk.acquire
  cases d.cachedAt now with
  | some value => exact hd.waiting
  | none =>
    rcases exchange s with ⟨_ | grant, s'⟩
    · exact hd.waiting_leave rfl
    · exact hd.waiting_leave rfl

end Vacant

end Wayfare.Desk
