import Wayfare.Proofs.Desk.Sound

/-!
What a step changes: who waits, which cell is registered, and what stands in the cells. Whatever else
happens, an exchange that has ended stays so.
-/
namespace Wayfare.Desk

/-- The outcome of an exchange, if one ends here. -/
def Happening.grant? : Happening → Option Grant
  | .ended _ _ grant => some grant
  | _ => none

/-- The call has left: it does not wait any more. -/
def Gone (d : Desk) (call : Nat) : Prop :=
  call < d.calls ∧ ∀ w ∈ d.waiting, w.call ≠ call

theorem gone_leave {d : Desk} {call : Nat} (h : call < d.calls) : (d.leave call).Gone call := by
  refine ⟨h, fun w hw => ?_⟩
  simpa using (List.mem_filter.mp hw).2

namespace Step

variable {d d' : Desk} {e : Happening} (step : Step d e d')

include step

/-! ## Calls -/

theorem calls_le : d.calls ≤ d'.calls := by
  cases step with
  | hit _ _ => exact Nat.le_succ d.calls
  | joined _ => exact d.calls_join ▸ Nat.le_succ d.calls
  | _ => exact Nat.le_refl d.calls

theorem waited {w : Waiting} (hw : w ∈ d'.waiting) :
    w ∈ d.waiting ∨ e = .joined w.call w.cell ∧ w.call = d.calls := by
  cases step with
  | joined _ =>
    rcases List.mem_append.mp (d.waiting_join ▸ hw) with hw | hw
    · exact .inl hw
    · obtain rfl := List.mem_singleton.mp hw
      exact .inr ⟨rfl, join_call d⟩
  | returned _ _ => exact .inl (List.mem_of_mem_filter hw)
  | dropped _ _ => exact .inl (List.mem_of_mem_filter hw)
  | _ => exact .inl hw

/-- A call waits on until it returns or is given up. -/
theorem stays {w : Waiting} (hw : w ∈ d.waiting) :
    w ∈ d'.waiting ∨ e = .dropped w.call ∨ ∃ r, e = .returned w.call r := by
  cases step with
  | joined _ => exact .inl (d.waiting_join ▸ List.mem_append_left _ hw)
  | @returned v grant _ _ =>
    by_cases h : w.call = v.call
    · exact .inr (.inr ⟨result grant, by rw [h]⟩)
    · exact .inl (List.mem_filter.mpr ⟨hw, by simpa using h⟩)
  | @dropped v _ _ =>
    by_cases h : w.call = v.call
    · exact .inr (.inl (by rw [h]))
    · exact .inl (List.mem_filter.mpr ⟨hw, by simpa using h⟩)
  | _ => exact .inl hw

theorem gone_of_dropped {call : Nat} (hd : d.Sound) (h : e = .dropped call) : d'.Gone call := by
  subst h
  cases step with
  | dropped hw _ => exact gone_leave (hd.call_lt _ hw)

/-- A call returns when the exchange of its cell has ended, with the outcome of that exchange. -/
theorem of_returned {call : Nat} {r : Except TokenError Secret} (h : e = .returned call r) :
    ∃ w ∈ d.waiting, ∃ grant, w.call = call ∧ d.cells[w.cell]? = some (.done grant) ∧
      r = result grant ∧ d' = d.leave call := by
  subst h
  cases step with
  | returned hw hdone => exact ⟨_, hw, _, rfl, hdone, rfl, rfl⟩

theorem gone {call : Nat} (h : d.Gone call) : d'.Gone call ∧ ∀ r, e ≠ .returned call r := by
  refine ⟨⟨Nat.lt_of_lt_of_le h.1 step.calls_le, fun w hw => ?_⟩, fun r he => ?_⟩
  · rcases step.waited hw with hw | ⟨-, hcall⟩
    · exact h.2 w hw
    · exact hcall ▸ Nat.ne_of_gt h.1
  · obtain ⟨w, hw, -, hcall, -⟩ := step.of_returned he
    exact h.2 w hw hcall

/-! ## Cells -/

theorem done {c : Nat} {grant : Grant} (h : d.cells[c]? = some (.done grant)) :
    d'.cells[c]? = some (.done grant) := by
  have hset : ∀ {i : Nat} {cell entry : Cell}, d.cells[i]? = some entry → entry.isOpen →
      (d.cells.set i cell)[c]? = some (.done grant) := by
    intro i cell entry hi hopen
    have hne : i ≠ c := by
      rintro rfl
      rw [h] at hi
      obtain rfl := Option.some.inj hi
      simp [Cell.isOpen] at hopen
    rw [List.getElem?_set_ne hne, h]
  cases step with
  | joined _ => exact cells_join.mpr (.inl h)
  | began _ hidle => exact hset hidle rfl
  | ended _ _ hrun => exact hset hrun rfl
  | cancelled _ hrun => exact hset hrun rfl
  | _ => exact h

/-- An exchange that runs has just begun or ran before. -/
theorem running {c driver : Nat} (h : d'.cells[c]? = some (.running driver)) :
    e = .began driver c ∨ d.cells[c]? = some (.running driver) := by
  have hset : ∀ {i : Nat} {cell : Cell}, (d.cells.set i cell)[c]? = some (.running driver) →
      i = c ∧ cell = .running driver ∨ d.cells[c]? = some (.running driver) := by
    intro i cell hi
    rw [List.getElem?_set] at hi
    split at hi
    · rename_i hic
      split at hi
      · exact .inl ⟨hic, Option.some.inj hi⟩
      · simp at hi
    · exact .inr hi
  cases step with
  | joined _ => exact .inr ((cells_join.mp h).resolve_right (by simp))
  | began _ _ =>
    rcases hset h with ⟨rfl, hcell⟩ | h
    · obtain rfl := Cell.running.inj hcell
      exact .inl rfl
    · exact .inr h
  | ended _ _ _ => exact .inr ((hset h).resolve_left (by simp))
  | cancelled _ _ => exact .inr ((hset h).resolve_left (by simp))
  | _ => exact .inr h

/-- An exchange runs on until it ends or is cancelled. -/
theorem runs_on {c driver : Nat} (h : d.cells[c]? = some (.running driver)) :
    d'.cells[c]? = some (.running driver) ∨ (∃ grant, e = .ended driver c grant) ∨
      e = .cancelled driver c := by
  have hset : ∀ {w : Waiting} {cell : Cell}, w.cell ≠ c →
      (d.cells.set w.cell cell)[c]? = some (.running driver) := by
    intro w cell hne
    rw [List.getElem?_set_ne hne, h]
  have hdriver : ∀ {w : Waiting}, d.cells[w.cell]? = some (.running w.call) → w.cell = c →
      w.call = driver := by
    rintro w hrun rfl
    exact Cell.running.inj (Option.some.inj (hrun.symm.trans h))
  cases step with
  | joined _ => exact .inl (cells_join.mpr (.inl h))
  | @began w _ hidle =>
    refine .inl (hset ?_)
    rintro rfl
    simp [hidle] at h
  | @ended w grant _ hrun =>
    by_cases hc : w.cell = c
    · exact .inr (.inl ⟨grant, by rw [hc, hdriver hrun hc]⟩)
    · exact .inl (hset hc)
  | @cancelled w _ hrun =>
    by_cases hc : w.cell = c
    · exact .inr (.inr (by rw [hc, hdriver hrun hc]))
    · exact .inl (hset hc)
  | _ => exact .inl h

/-- The registered cell stays registered until its exchange ends, and then no cell is. -/
theorem registered {c : Nat} (hd : d.Sound) (h : d.registered = some c) :
    (d'.registered = some c ∧ e.grant? = none) ∨
      ∃ driver grant, e = .ended driver c grant ∧ d'.registered = none ∧
        d'.cells[c]? = some (.done grant) := by
  cases step with
  | joined _ => exact .inl ⟨by rw [registered_join, (join_of_registered h).1], rfl⟩
  | @ended w grant _ hrun =>
    have hcell : w.cell = c := Option.some.inj ((hd.registered_of_running hrun).symm.trans h)
    subst hcell
    exact .inr ⟨w.call, grant, rfl, by simp [finish, h], cells_finish hrun grant⟩
  | _ => exact .inl ⟨h, rfl⟩

theorem unregistered (h : d.registered = none) (he : ∀ call cell, e ≠ .joined call cell) :
    d'.registered = none := by
  cases step with
  | joined _ => exact absurd rfl (he _ _)
  | ended _ _ _ => simp [finish, h]
  | _ => exact h

end Step

namespace Trail

variable {d d' : Desk} {happenings : List Happening}

theorem unregistered (h : Trail d happenings d') (hd : d.registered = none)
    (hnone : ∀ call cell, .joined call cell ∉ happenings) : d'.registered = none := by
  induction h with
  | nil => exact hd
  | cons step _ ih =>
    refine ih (step.unregistered hd ?_) fun call cell hmem =>
      hnone call cell (List.mem_cons_of_mem _ hmem)
    rintro call cell rfl
    exact hnone call cell List.mem_cons_self

theorem gone {call : Nat} (h : Trail d happenings d') (hg : d.Gone call) :
    d'.Gone call ∧ ∀ r, .returned call r ∉ happenings := by
  induction h with
  | nil => exact ⟨hg, by simp⟩
  | cons step _ ih =>
    obtain ⟨hg', hne⟩ := step.gone hg
    obtain ⟨hgone, hnot⟩ := ih hg'
    exact ⟨hgone, fun r => List.not_mem_cons_of_ne_of_not_mem (hne r).symm (hnot r)⟩

theorem gone_of_left {call : Nat} (h : Trail d happenings d') (hd : d.Sound)
    (hleft : .dropped call ∈ happenings ∨ ∃ r, .returned call r ∈ happenings) :
    d'.Gone call := by
  have hat : ∀ {e : Happening}, e ∈ happenings →
      (e = .dropped call ∨ ∃ r, e = .returned call r) → d'.Gone call := by
    intro e he hkind
    obtain ⟨before, after, d₁, d₂, rfl, first, step, rest⟩ := h.step_of_mem he
    refine (rest.gone ?_).1
    rcases hkind with rfl | ⟨r, rfl⟩
    · exact step.gone_of_dropped (first.sound hd) rfl
    · obtain ⟨w, hw, -, rfl, -, -, rfl⟩ := step.of_returned rfl
      exact gone_leave ((first.sound hd).call_lt w hw)
  rcases hleft with hleft | ⟨r, hleft⟩
  · exact hat hleft (.inl rfl)
  · exact hat hleft (.inr ⟨r, rfl⟩)

theorem waited {w : Waiting} (h : Trail d happenings d') (hw : w ∈ d'.waiting) :
    w ∈ d.waiting ∨ .joined w.call w.cell ∈ happenings := by
  induction h with
  | nil => exact .inl hw
  | cons step _ ih =>
    rcases ih hw with hw | hmem
    · rcases step.waited hw with hw | ⟨rfl, -⟩
      · exact .inl hw
      · exact .inr List.mem_cons_self
    · exact .inr (List.mem_cons_of_mem _ hmem)

theorem running {c driver : Nat} (h : Trail d happenings d')
    (hrun : d'.cells[c]? = some (.running driver)) :
    .began driver c ∈ happenings ∨ d.cells[c]? = some (.running driver) := by
  induction h with
  | nil => exact .inr hrun
  | cons step _ ih =>
    rcases ih hrun with hmem | hrun
    · exact .inl (List.mem_cons_of_mem _ hmem)
    · rcases step.running hrun with rfl | hrun
      · exact .inl List.mem_cons_self
      · exact .inr hrun

theorem runs_on {c driver : Nat} (h : Trail d happenings d')
    (hrun : d.cells[c]? = some (.running driver)) :
    d'.cells[c]? = some (.running driver) ∨ (∃ grant, .ended driver c grant ∈ happenings) ∨
      .cancelled driver c ∈ happenings := by
  induction h with
  | nil => exact .inl hrun
  | cons step _ ih =>
    rcases step.runs_on hrun with hrun | ⟨grant, rfl⟩ | rfl
    · refine (ih hrun).imp_right (Or.imp ?_ (List.mem_cons_of_mem _))
      rintro ⟨grant, hmem⟩
      exact ⟨grant, List.mem_cons_of_mem _ hmem⟩
    · exact .inr (.inl ⟨grant, List.mem_cons_self⟩)
    · exact .inr (.inr List.mem_cons_self)

end Trail

end Wayfare.Desk
