import Wayfare.Proofs.Desk.Cache
import Wayfare.Proofs.Desk.Outcome

/-!
What an invalidation reaches: the cached token, but not an exchange that runs. A later call may
still be served by that exchange, and by no other exchange from before.
-/
namespace Wayfare.Desk

variable {d d' : Desk} {happenings : List Happening}

/-! ## The exchange behind a result -/

/-- What a call returns, at once or after an exchange. -/
def Gets (happenings : List Happening) (call : Nat) (r : Except TokenError Secret) : Prop :=
  (∃ value, .hit call value ∈ happenings ∧ r = .ok value) ∨ .returned call r ∈ happenings

/-- The call started and got its result from the exchange that this driver ran at this cell: from
the cache that the exchange filled, or because it was the first exchange to end since. -/
inductive ServedBy (happenings : List Happening) (call driver cell : Nat) : Grant → Prop where
  | fromCache {before after : List Happening} {token : AccessToken}
      (split : happenings = before ++ .hit call token.value :: after)
      (kept : LastKept before driver cell token) :
      ServedBy happenings call driver cell (.ok token)
  | fromExchange {before between after : List Happening} {grant : Grant}
      (split : happenings =
        before ++ .joined call cell :: (between ++ .ended driver cell grant :: after))
      (first : firstGrant between = none) (returned : .returned call (result grant) ∈ after) :
      ServedBy happenings call driver cell grant

theorem ServedBy.ended {call driver cell : Nat} {grant : Grant}
    (h : ServedBy happenings call driver cell grant) :
    .ended driver cell grant ∈ happenings := by
  cases h with
  | fromCache split kept =>
    obtain ⟨before, after, rfl, -⟩ := kept
    simp [split]
  | fromExchange split _ _ => simp [split]

/-- With an empty cache at the begin, every call that starts is served by an exchange that ends. -/
theorem Trail.servedBy (h : Trail d happenings d') (hd : d.Sound) (hnone : d.cached = none)
    {call : Nat} {r : Except TokenError Secret} (hcall : d.calls ≤ call)
    (hr : Gets happenings call r) :
    ∃ driver cell grant, ServedBy happenings call driver cell grant ∧ r = result grant := by
  rcases hr with ⟨value, hmem, rfl⟩ | hmem
  · obtain ⟨before, after, d₁, d₂, hsplit, first, step, -⟩ := h.step_of_mem hmem
    cases step with
    | @hit now token hcached _ =>
      obtain ⟨driver, cell, kept⟩ : ∃ driver cell, LastKept before driver cell token := by
        simpa [hnone] using (first.cached_iff token).mp hcached
      exact ⟨driver, cell, .ok token, .fromCache hsplit kept, rfl⟩
  · obtain ⟨front, back, d₁, d₂, hsplit, first, step, -⟩ := h.step_of_mem hmem
    obtain ⟨⟨n, cell⟩, hw, -, rfl, -⟩ := step.of_returned rfl
    have hjoined : .joined n cell ∈ front := by
      rcases first.waited hw with hw | hmem
      · exact absurd (hd.call_lt _ hw) (Nat.not_lt.mpr hcall)
      · exact hmem
    obtain ⟨before, between, rfl⟩ := List.append_of_mem hjoined
    rw [hsplit, List.append_assoc, List.cons_append] at h
    rw [List.append_assoc, List.cons_append] at hsplit
    obtain ⟨d₃, d₄, start, join, rest⟩ := h.split_at
    cases join with
    | joined _ =>
      have hsound := (start.sound hd).join
      obtain ⟨middle, driver, grant, after, hrest, hfirst, hafter, rfl⟩ :=
        rest.ended_before_returned hsound (mem_waiting_join d₃) (registered_join d₃)
          (List.mem_append_right _ List.mem_cons_self)
      exact ⟨driver, _, grant, .fromExchange (hrest ▸ hsplit) hfirst hafter, rfl⟩

/-! ## Exchanges from before -/

theorem Trail.began_of_ended (h : Trail d happenings d') {driver cell : Nat} {grant : Grant}
    (hmem : .ended driver cell grant ∈ happenings) :
    .began driver cell ∈ happenings ∨ d.cells[cell]? = some (.running driver) := by
  obtain ⟨before, after, d₁, d₂, rfl, first, step, -⟩ := h.step_of_mem hmem
  cases step with
  | ended _ _ hrun => exact (first.running hrun).imp_left (List.mem_append_left _)

/-- A call drives one exchange: it begins no other one while it drives, nor after it has left. -/
theorem Sound.not_began (hd : d.Sound) {driver cell : Nat}
    (h : d.cells[cell]? = some (.running driver) ∨ d.Gone driver) (moves : List Move) :
    .began driver cell ∉ (d.play moves).2 := by
  induction moves generalizing d with
  | nil => simp
  | cons m rest ih =>
    have trail := move_trail d m
    have hmove : .began driver cell ∉ (d.move m).2 := by
      intro hbegan
      obtain ⟨hw, hidle⟩ := move_of_began hbegan
      rcases h with hrun | hgone
      · simp [hidle] at hrun
      · exact hgone.2 _ hw rfl
    refine List.not_mem_append hmove (ih (hd.move m) ?_)
    rcases h with hrun | hgone
    · rcases trail.runs_on hrun with hrun | ⟨grant, hended⟩ | hcancelled
      · exact .inl hrun
      · refine .inr (trail.gone_of_left hd (.inr ⟨result grant, ?_⟩))
        rcases move_of_ended hended with hm | hm <;> simp [hm]
      · refine .inr (trail.gone_of_left hd (.inl ?_))
        simp [move_of_cancelled hcancelled]
    · exact .inr (trail.gone hgone).1

/-- When the driver of an exchange gets a grant, a call that waits with it returns that too. -/
theorem Sound.waiting_returns (hd : d.Sound) {w : Waiting} {driver : Nat} (hw : w ∈ d.waiting)
    (hrun : d.cells[w.cell]? = some (.running driver)) (hne : w.call ≠ driver) (grant : Grant) :
    (d.play [.look driver (some grant), .look w.call none]).2 =
      [.ended driver w.cell grant, .returned driver (result grant),
        .returned w.call (result grant)] := by
  have hdrive := (hd.move_look (hd.driver_waits w.cell driver hrun) (some grant)).trans
    (look_running_grant (w := ⟨driver, w.cell⟩) hrun grant)
  have hwaits : w ∈ ((d.finish ⟨driver, w.cell⟩ grant).leave driver).waiting :=
    List.mem_filter.mpr ⟨hw, by simpa using hne⟩
  have hdone : ((d.finish ⟨driver, w.cell⟩ grant).leave driver).cells[w.cell]? =
      some (.done grant) := cells_finish (w := ⟨driver, w.cell⟩) hrun grant
  have hsound : ((d.finish ⟨driver, w.cell⟩ grant).leave driver).Sound := by
    simpa [hdrive] using hd.move (.look driver (some grant))
  simp only [play_cons, play_nil, hdrive, hsound.move_look hwaits, look_done hdone]
  rfl

/-- While an exchange runs, a call that starts after an invalidation returns its outcome. -/
theorem Sound.call_joins_running (hd : d.Sound) {driver cell : Nat}
    (hrun : d.cells[cell]? = some (.running driver)) (now : Instant) (grant : Grant) :
    (d.invalidate.play [.call now, .look driver (some grant), .look d.calls none]).2 =
      [.joined d.calls cell, .ended driver cell grant, .returned driver (result grant),
        .returned d.calls (result grant)] := by
  have hreg : d.invalidate.registered = some cell := hd.registered_of_running hrun
  obtain ⟨hcell, hcells⟩ := join_of_registered hreg
  have hcall : d.invalidate.move (.call now) = (d.invalidate.join.1, [.joined d.calls cell]) := by
    have hmissed : d.invalidate.cachedAt now = none := rfl
    exact (call_of_missed hmissed).trans (by rw [hcell]; rfl)
  have hwaits : ⟨d.calls, cell⟩ ∈ d.invalidate.join.1.waiting :=
    hcell ▸ mem_waiting_join d.invalidate
  have hrun' : d.invalidate.join.1.cells[cell]? = some (.running driver) := by
    rw [hcells]
    exact hrun
  have hne : d.calls ≠ driver := Nat.ne_of_gt (hd.call_lt _ (hd.driver_waits cell driver hrun))
  have hreturns := hd.invalidate.join.waiting_returns hwaits hrun' hne grant
  rw [play_cons, hcall, hreturns]
  rfl

/-- In every play, a call that starts after an invalidation and gets a result is served by an
exchange that ended since. That exchange had begun before exactly if it ran when the token was
invalidated. So all later calls are sure to be served by exchanges begun since exactly if none
ran. -/
theorem invalidate_in_play (before : List Move) :
    let d := (play {} before).1
    let later := fun after : List Move => (d.invalidate.play after).2
    (∀ after call r, d.calls ≤ call → Gets (later after) call r →
      ∃ driver cell grant, ServedBy (later after) call driver cell grant ∧ r = result grant) ∧
    (∀ after call (driver cell : Nat) grant, ServedBy (later after) call driver cell grant →
      (.began driver cell ∉ later after ↔ d.cells[cell]? = some (.running driver))) ∧
    ((∀ after call driver cell grant, ServedBy (later after) call driver cell grant →
      .began driver cell ∈ later after) ↔
        ∀ cell driver : Nat, d.cells[cell]? ≠ some (.running driver)) := by
  intro d later
  have hd : d.Sound := sound_play before
  have trail : ∀ after, Trail d.invalidate (later after) (d.invalidate.play after).1 :=
    play_trail d.invalidate
  have hexact : ∀ after call (driver cell : Nat) grant,
      ServedBy (later after) call driver cell grant →
        (.began driver cell ∉ later after ↔ d.cells[cell]? = some (.running driver)) := by
    intro after call driver cell grant hserved
    constructor
    · exact fun hnot => ((trail after).began_of_ended hserved.ended).resolve_left hnot
    · exact fun hrun => hd.invalidate.not_began (.inl hrun) after
  refine ⟨fun after call r hcall hr => ?_, hexact, ?_⟩
  · exact (trail after).servedBy hd.invalidate rfl hcall hr
  · constructor
    · intro hfresh cell driver hrun
      have hplay := hd.call_joins_running hrun epoch (.error (.unreachable ""))
      have hserved : ServedBy (later [.call epoch, .look driver (some (.error (.unreachable ""))),
          .look d.calls none]) d.calls driver cell (.error (.unreachable "")) :=
        @ServedBy.fromExchange _ _ _ _ [] [] _ _ hplay rfl (by simp)
      have hbegan := hfresh _ _ _ _ _ hserved
      rw [show later _ = _ from hplay] at hbegan
      simp at hbegan
    · intro hnone after call driver cell grant hserved
      by_contra hnot
      exact hnone cell driver ((hexact after call driver cell grant hserved).mp hnot)

/-- A token that lasts to the end of the calendar. -/
def lasting : AccessToken :=
  ⟨⟨"T1"⟩, epoch, { epoch with seconds := lastSecond, shown := by decide }⟩

/-- The token is invalidated while an exchange runs, and the exchange fills the cache again: the next
call gets its token, and no exchange has begun since. -/
theorem stale_token_after_invalidate :
    let d := (play {} [.call epoch, .look 0 none]).1
    let later := (d.invalidate.play [.look 0 (some (.ok lasting)), .call epoch]).2
    d.calls ≤ 1 ∧ Gets later 1 (.ok lasting.value) ∧ ServedBy later 1 0 0 (.ok lasting) ∧
      ∀ call cell, .began call cell ∉ later := by
  intro d later
  have hlater : later = [.ended 0 0 (.ok lasting), .returned 0 (.ok lasting.value),
      .hit 1 lasting.value] := rfl
  have kept : LastKept [.ended 0 0 (.ok lasting), .returned 0 (.ok lasting.value)] 0 0 lasting :=
    ⟨[], _, rfl, by simp [Happening.setsCache]⟩
  refine ⟨Nat.le_refl 1, .inl ⟨_, by simp [hlater], rfl⟩, .fromCache hlater kept, ?_⟩
  simp [hlater]

end Wayfare.Desk
