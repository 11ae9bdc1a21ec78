import Wayfare.Proofs.Desk.Change

/-!
What a call returns: the cached token if it is valid when the call starts, and else the outcome of
the first exchange that ends after the start.
-/
namespace Wayfare.Desk

/-- The outcome of the first exchange that ends. -/
def firstGrant (happenings : List Happening) : Option Grant :=
  happenings.findSome? Happening.grant?

theorem firstGrant_cons {e : Happening} (h : e.grant? = none) (rest : List Happening) :
    firstGrant (e :: rest) = firstGrant rest := by
  simp [firstGrant, h]

theorem firstGrant_ended {before after : List Happening} {driver cell : Nat} {grant : Grant}
    (h : firstGrant before = none) :
    firstGrant (before ++ .ended driver cell grant :: after) = some grant := by
  have hb : before.findSome? Happening.grant? = none := h
  simp only [firstGrant, List.findSome?_append, hb, Option.none_or]
  rfl

theorem Sound.not_done {d : Desk} (hd : d.Sound) {c : Nat} (h : d.registered = some c)
    (grant : Grant) : d.cells[c]? ≠ some (.done grant) := by
  intro hdone
  rcases hd.open_of_registered h with hidle | ⟨driver, hrun⟩
  · simp [hidle] at hdone
  · simp [hrun] at hdone

/-- A call that waits at an open cell does not return. -/
theorem Step.not_returned {d d' : Desk} {e : Happening} (step : Step d e d') (hd : d.Sound)
    {w : Waiting} (hw : w ∈ d.waiting) (h : d.registered = some w.cell)
    (r : Except TokenError Secret) : e ≠ .returned w.call r := by
  intro he
  obtain ⟨v, hv, grant, hcall, hdone, -, -⟩ := step.of_returned he
  rw [hd.eq_of_call hv hw hcall] at hdone
  exact hd.not_done h grant hdone

namespace Trail

variable {d d' : Desk} {happenings : List Happening}

/-! ## After the exchange -/

/-- A call whose exchange has ended returns nothing but its outcome. -/
theorem eq_result {w : Waiting} {grant : Grant} (h : Trail d happenings d') (hd : d.Sound)
    (hw : w ∈ d.waiting) (hdone : d.cells[w.cell]? = some (.done grant))
    {r : Except TokenError Secret} (hr : .returned w.call r ∈ happenings) : r = result grant := by
  induction h with
  | nil => simp at hr
  | cons step rest ih =>
    rcases List.mem_cons.mp hr with rfl | hrest
    · obtain ⟨v, hv, grant', hcall, hdone', rfl, -⟩ := step.of_returned rfl
      rw [hd.eq_of_call hv hw hcall, hdone] at hdone'
      rw [Cell.done.inj (Option.some.inj hdone')]
    · rcases step.stays hw with hw' | rfl | ⟨r', rfl⟩
      · exact ih (step.sound hd) hw' (step.done hdone) hrest
      · exact absurd hrest ((rest.gone (step.gone_of_dropped hd rfl)).2 r)
      · obtain ⟨v, -, -, hcall, -, -, rfl⟩ := step.of_returned rfl
        exact absurd hrest ((rest.gone (gone_leave (hd.call_lt w hw))).2 r)

/-- A call whose exchange has ended returns its outcome, or can still do so, or is given up. -/
theorem returned_or_waits {w : Waiting} {grant : Grant} (h : Trail d happenings d')
    (hd : d.Sound) (hw : w ∈ d.waiting) (hdone : d.cells[w.cell]? = some (.done grant))
    (hkept : .dropped w.call ∉ happenings) :
    .returned w.call (result grant) ∈ happenings ∨
      w ∈ d'.waiting ∧ d'.cells[w.cell]? = some (.done grant) := by
  induction h with
  | nil => exact .inr ⟨hw, hdone⟩
  | cons step rest ih =>
    obtain ⟨hne, hkept⟩ := List.ne_and_not_mem_of_not_mem_cons hkept
    rcases step.stays hw with hw' | rfl | ⟨r, rfl⟩
    · exact (ih (step.sound hd) hw' (step.done hdone) hkept).imp_left (List.mem_cons_of_mem _)
    · exact absurd rfl hne
    · have hr : r = result grant := (single step).eq_result hd hw hdone (List.mem_singleton_self _)
      exact .inl (hr ▸ List.mem_cons_self)

/-! ## Before it ends -/

/-- A call that waits for an exchange returns after the first one that ends, with its outcome. -/
theorem ended_before_returned {w : Waiting} (h : Trail d happenings d') (hd : d.Sound)
    (hw : w ∈ d.waiting) (hreg : d.registered = some w.cell) {r : Except TokenError Secret}
    (hr : .returned w.call r ∈ happenings) :
    ∃ before driver grant after,
      happenings = before ++ .ended driver w.cell grant :: after ∧ firstGrant before = none ∧
        .returned w.call r ∈ after ∧ r = result grant := by
  induction h with
  | nil => simp at hr
  | @cons d d₁ d' e rest step trail ih =>
    rcases List.mem_cons.mp hr with he | hrest
    · exact absurd he.symm (step.not_returned hd hw hreg r)
    rcases step.registered hd hreg with ⟨hreg', hnone⟩ | ⟨driver, grant, rfl, -, hdone⟩
    · rcases step.stays hw with hw' | rfl | ⟨r', he⟩
      · obtain ⟨before, driver, grant, after, rfl, hfirst, hafter, hres⟩ :=
          ih (step.sound hd) hw' hreg' hrest
        exact ⟨e :: before, driver, grant, after, rfl, (firstGrant_cons hnone before).trans hfirst,
          hafter, hres⟩
      · exact absurd hrest ((trail.gone (step.gone_of_dropped hd rfl)).2 r)
      · exact absurd he (step.not_returned hd hw hreg r')
    · have hw' : w ∈ d₁.waiting := by
        rcases step.stays hw with hw' | he | ⟨r', he⟩
        · exact hw'
        · cases he
        · cases he
      exact ⟨[], driver, grant, rest, rfl, rfl, hrest,
        trail.eq_result (step.sound hd) hw' hdone hrest⟩

/-- A call that is not given up waits until an exchange ends, and then returns its outcome or can
still do so. -/
theorem waits_for_first {w : Waiting} (h : Trail d happenings d') (hd : d.Sound)
    (hw : w ∈ d.waiting) (hreg : d.registered = some w.cell)
    (hkept : .dropped w.call ∉ happenings) :
    (firstGrant happenings = none → w ∈ d'.waiting ∧ d'.registered = some w.cell) ∧
      ∀ grant, firstGrant happenings = some grant →
        .returned w.call (result grant) ∈ happenings ∨
          w ∈ d'.waiting ∧ d'.cells[w.cell]? = some (.done grant) := by
  induction h with
  | nil => exact ⟨fun _ => ⟨hw, hreg⟩, by simp [firstGrant]⟩
  | @cons d d₁ d' e rest step trail ih =>
    obtain ⟨hne, hkept'⟩ := List.ne_and_not_mem_of_not_mem_cons hkept
    have hw' : w ∈ d₁.waiting := by
      rcases step.stays hw with hw' | rfl | ⟨r, he⟩
      · exact hw'
      · exact absurd rfl hne
      · exact absurd he (step.not_returned hd hw hreg r)
    rcases step.registered hd hreg with ⟨hreg', hnone⟩ | ⟨driver, grant, rfl, -, hdone⟩
    · obtain ⟨hpending, hended⟩ := ih (step.sound hd) hw' hreg' hkept'
      rw [firstGrant_cons hnone]
      exact ⟨hpending, fun grant hg => (hended grant hg).imp_left (List.mem_cons_of_mem _)⟩
    · have hfirst : firstGrant (.ended driver w.cell grant :: rest) = some grant := rfl
      refine ⟨by simp [hfirst], fun g hg => ?_⟩
      obtain rfl : grant = g := Option.some.inj (hfirst.symm.trans hg)
      exact (trail.returned_or_waits (step.sound hd) hw' hdone hkept').imp_left
        (List.mem_cons_of_mem _)

end Trail

theorem firstGrant_move {d : Desk} {m : Move} {driver cell : Nat} {grant : Grant}
    (h : .ended driver cell grant ∈ (d.move m).2) : firstGrant (d.move m).2 = some grant := by
  rcases move_of_ended h with hm | hm <;> rw [hm] <;> rfl

/-- A call that waits while an exchange ends returns nothing but its outcome, unless it has an
outcome already. -/
theorem Sound.eq_result_of_ended {d : Desk} (hd : d.Sound) {m : Move} {driver cell : Nat}
    {grant : Grant} (h : .ended driver cell grant ∈ (d.move m).2) {w : Waiting}
    (hw : w ∈ d.waiting) (hopen : ∀ g, d.cells[w.cell]? ≠ some (.done g)) (after : List Move)
    (r : Except TokenError Secret) (hr : .returned w.call r ∈ (d.play (m :: after)).2) :
    r = result grant := by
  have hreg : d.registered = some w.cell := by
    rcases hd.registered_or_done hw with hreg | ⟨g, hdone⟩
    · exact hreg
    · exact absurd hdone (hopen g)
  obtain ⟨front, driver', grant', rest, hsplit, hfirst, -, hres⟩ :=
    (play_trail d (m :: after)).ended_before_returned hd hw hreg hr
  have hwhole : firstGrant (d.play (m :: after)).2 = some grant' :=
    hsplit ▸ firstGrant_ended hfirst
  have hmove : firstGrant (d.play (m :: after)).2 = some grant := by
    have hfront : (d.move m).2.findSome? Happening.grant? = some grant := firstGrant_move h
    simp [firstGrant, hfront]
  obtain rfl : grant' = grant := Option.some.inj (hwhole.symm.trans hmove)
  exact hres

/-- In every play, a call that finds a valid token returns it at once. Any other call returns only
the outcome of the first exchange that ends after its start: it waits until then, and unless it is
given up it returns with its next look. So all calls that wait for an exchange get one outcome. -/
theorem call_returns_first_outcome (before after : List Move) (now : Instant) :
    let d := (play {} before).1
    let call := d.calls
    let later := (d.call now).1.play after
    (∀ token ∈ d.cached, token.validAt now →
      d.call now = (d.serve, [.hit call token.value]) ∧ ∀ r, .returned call r ∉ later.2) ∧
    ((∀ token ∈ d.cached, token.validAt now = false) →
      (∀ r, .returned call r ∈ later.2 →
        ∃ grant, firstGrant later.2 = some grant ∧ r = result grant) ∧
      (.dropped call ∉ later.2 →
        (firstGrant later.2 = none → ∃ w ∈ later.1.waiting, w.call = call) ∧
        ∀ grant, firstGrant later.2 = some grant →
          .returned call (result grant) ∈ later.2 ∨
            ∀ answer, (later.1.move (.look call answer)).2 = [.returned call (result grant)])) ∧
    ∀ m driver cell grant, .ended driver cell grant ∈ (d.move m).2 →
      ∀ w ∈ d.waiting, (∀ g, d.cells[w.cell]? ≠ some (.done g)) →
        ∀ r, .returned w.call r ∈ (d.play (m :: after)).2 → r = result grant := by
  intro d call later
  have hd : d.Sound := sound_play before
  have hlater : later.1.Sound := (hd.move (.call now)).play after
  have trail : Trail (d.call now).1 later.2 later.1 := play_trail _ after
  refine ⟨fun token hc hv => ?_, fun hmissed => ?_, fun m driver cell grant hended w hw hopen => ?_⟩
  · have hhit := call_of_valid hc hv
    have hgone : (d.call now).1.Gone call := by
      rw [hhit]
      exact ⟨Nat.lt_succ_self d.calls, fun w hw => Nat.ne_of_lt (hd.call_lt w hw)⟩
    exact ⟨hhit, (trail.gone hgone).2⟩
  · have hjoin : (d.call now).1 = d.join.1 := by
      rw [call_of_missed (cachedAt_eq_none_iff.mpr hmissed)]
    rw [hjoin] at trail
    have hw := mem_waiting_join d
    have hreg := registered_join d
    have hcall : d.join.2.call = call := join_call d
    rw [← hcall]
    refine ⟨fun r hr => ?_, fun hkept => ?_⟩
    · obtain ⟨front, driver, grant, rest, hsplit, hfirst, -, hres⟩ :=
        trail.ended_before_returned hd.join hw hreg hr
      exact ⟨grant, hsplit ▸ firstGrant_ended hfirst, hres⟩
    · obtain ⟨hpending, hended⟩ := trail.waits_for_first hd.join hw hreg hkept
      refine ⟨fun hnone => ⟨_, (hpending hnone).1, rfl⟩, fun grant hg => ?_⟩
      refine (hended grant hg).imp_right ?_
      rintro ⟨hwaits, hdone⟩ answer
      rw [hlater.move_look hwaits, look_done hdone]
  · exact hd.eq_result_of_ended hended hw hopen after

/-- A call that joins the exchange of another returns the same error. -/
theorem second_call_returns_same_error :
    let d := (play {} [.call epoch, .look 0 none]).1
    let later := (d.call epoch).1.play [.look 0 (some (.error (.unreachable "")))]
    .returned 0 (.error (.unreachable "")) ∈ later.2 ∧
      (later.1.move (.look 1 none)).2 = [.returned 1 (.error (.unreachable ""))] := by
  intro d later
  have hmissed : ∀ token ∈ d.cached, token.validAt epoch = false := by
    simp [show d.cached = none from rfl]
  have hlater : later.2 = [.ended 0 0 (.error (.unreachable "")),
      .returned 0 (.error (.unreachable ""))] := rfl
  obtain ⟨-, hwaits⟩ := (call_returns_first_outcome [.call epoch, .look 0 none]
    [.look 0 (some (.error (.unreachable "")))] epoch).2.1 hmissed
  have hkept : .dropped 1 ∉ later.2 := by simp [hlater]
  refine ⟨by simp [hlater], ?_⟩
  rcases (hwaits hkept).2 _ rfl with hreturned | hnext
  · have hnot : .returned 1 (result (.error (.unreachable ""))) ∉ later.2 := by simp [hlater]
    exact absurd hreturned hnot
  · exact hnext none

end Wayfare.Desk
