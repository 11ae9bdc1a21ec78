import Mathlib.Data.List.Induction
import Wayfare.Proofs.Desk.Change
import Wayfare.Proofs.Token.Validity

/-!
What the cache holds: the token of the last exchange that gave one, unless it was invalidated since.
If the clock never goes back, no exchange begins while that token is valid.
-/
namespace Wayfare.Desk

variable {d d' : Desk} {happenings : List Happening}

/-! ## The cached token -/

/-- Whether the cached token is replaced or forgotten here. -/
def Happening.setsCache : Happening → Bool
  | .ended _ _ (.ok _) => true
  | .invalidated => true
  | _ => false

/-- The exchange that this call drove at this cell gave the token, no other gave one since, and the
token was not invalidated since. -/
def LastKept (happenings : List Happening) (driver cell : Nat) (token : AccessToken) : Prop :=
  ∃ before after, happenings = before ++ .ended driver cell (.ok token) :: after ∧
    ∀ e ∈ after, e.setsCache = false

theorem not_lastKept_nil (driver cell : Nat) (token : AccessToken) :
    ¬ LastKept [] driver cell token := by
  rintro ⟨before, after, h, -⟩
  simp at h

theorem lastKept_cons {e : Happening} {rest : List Happening} {driver cell : Nat}
    {token : AccessToken} :
    LastKept (e :: rest) driver cell token ↔ LastKept rest driver cell token ∨
      e = .ended driver cell (.ok token) ∧ ∀ e' ∈ rest, e'.setsCache = false := by
  constructor
  · rintro ⟨before, after, h, hafter⟩
    rcases List.cons_eq_append_iff.mp h with ⟨-, h⟩ | ⟨before, -, rfl⟩
    · obtain ⟨rfl, rfl⟩ := List.cons_eq_cons.mp h.symm
      exact .inr ⟨rfl, hafter⟩
    · exact .inl ⟨before, after, rfl, hafter⟩
  · rintro (⟨before, after, rfl, hafter⟩ | ⟨rfl, hafter⟩)
    · exact ⟨e :: before, after, rfl, hafter⟩
    · exact ⟨[], rest, rfl, hafter⟩

theorem Step.cached {e : Happening} (step : Step d e d') :
    (e.setsCache = false ∧ d'.cached = d.cached) ∨ (e = .invalidated ∧ d'.cached = none) ∨
      ∃ driver cell token, e = .ended driver cell (.ok token) ∧ d'.cached = some token := by
  cases step with
  | joined _ => exact .inl ⟨rfl, cached_join d⟩
  | @ended w grant _ _ =>
    cases grant with
    | ok token => exact .inr (.inr ⟨_, _, token, rfl, rfl⟩)
    | error _ => exact .inl ⟨rfl, rfl⟩
  | invalidated => exact .inr (.inl ⟨rfl, rfl⟩)
  | _ => exact .inl ⟨rfl, rfl⟩

namespace Trail

/-- What was cached before stays so if nothing replaces or forgets it. -/
theorem cached_iff (h : Trail d happenings d') (token : AccessToken) :
    d'.cached = some token ↔ (∃ driver cell, LastKept happenings driver cell token) ∨
      d.cached = some token ∧ ∀ e ∈ happenings, e.setsCache = false := by
  induction h with
  | nil => simp [not_lastKept_nil]
  | @cons d d₁ d' e rest step _ ih =>
    rw [ih]
    simp only [lastKept_cons, exists_or, List.forall_mem_cons]
    rcases step.cached with ⟨hsets, hcached⟩ | ⟨rfl, hcached⟩ | ⟨k, c, t, rfl, hcached⟩
    · have hne : ∀ driver cell, e ≠ .ended driver cell (.ok token) := by
        rintro driver cell rfl
        simp [Happening.setsCache] at hsets
      simp [hcached, hsets, hne]
    · simp [hcached, Happening.setsCache]
    · simp [hcached, Happening.setsCache]

theorem cached_eq (h : Trail d happenings d') (hsets : ∀ e ∈ happenings, e.setsCache = false) :
    d'.cached = d.cached := by
  induction h with
  | nil => rfl
  | cons step _ ih =>
    obtain ⟨he, hrest⟩ := List.forall_mem_cons.mp hsets
    rcases step.cached with ⟨-, hcached⟩ | ⟨rfl, -⟩ | ⟨k, c, t, rfl, -⟩
    · rw [ih hrest, hcached]
    · simp [Happening.setsCache] at he
    · simp [Happening.setsCache] at he

end Trail

/-- An exchange that fails or is cancelled leaves the cached token alone. -/
theorem cached_move {m : Move} {driver cell : Nat}
    (h : (∃ e, .ended driver cell (.error e) ∈ (d.move m).2) ∨
      .cancelled driver cell ∈ (d.move m).2) : (d.move m).1.cached = d.cached := by
  refine (move_trail d m).cached_eq ?_
  rcases h with ⟨e, h⟩ | h
  · rcases move_of_ended h with hm | hm <;> simp [hm, Happening.setsCache]
  · simp [move_of_cancelled h, Happening.setsCache]

/-! ## No exchange before the token expires -/

/-- The instants at which calls start. -/
def instants (moves : List Move) : List Instant :=
  moves.filterMap fun
    | .call now => some now
    | _ => none

/-- As long as a cell stays registered, no token is added to the cache. -/
theorem Trail.cached_of_registered (h : Trail d happenings d') (hd : d.Sound)
    (hjoined : ∀ call cell, .joined call cell ∉ happenings) (hreg : d'.registered ≠ none) :
    ∀ token ∈ d'.cached, token ∈ d.cached := by
  induction h with
  | nil => exact fun _ h => h
  | @cons d d₁ d' e rest step trail ih =>
    have hrest : ∀ call cell, .joined call cell ∉ rest := fun call cell h =>
      hjoined call cell (List.mem_cons_of_mem _ h)
    have hreg₁ : d₁.registered ≠ none := fun hnone => hreg (trail.unregistered hnone hrest)
    intro token h
    have h₁ : token ∈ d₁.cached := ih (step.sound hd) hrest hreg token h
    rcases step.cached with ⟨-, hcached⟩ | ⟨-, hcached⟩ | ⟨driver, c, t, rfl, -⟩
    · exact hcached ▸ h₁
    · simp [hcached] at h₁
    · cases step with
      | ended _ _ hrun =>
        exact absurd (by simp [finish, hd.registered_of_running hrun]) hreg₁

/-- While a cell is registered, the cached token is not valid at the latest start of a call. -/
theorem stale_of_registered (moves : List Move)
    (hclock : (instants moves).Pairwise (·.line ≤ ·.line))
    (hreg : (play {} moves).1.registered ≠ none) :
    ∃ latest, (instants moves).getLast? = some latest ∧
      ∀ token ∈ (play {} moves).1.cached, token.validAt latest = false := by
  induction moves using List.reverseRecOn with
  | nil => simp at hreg
  | append_singleton moves m ih =>
    have hd : (play {} moves).1.Sound := sound_play moves
    have hplay : (play {} (moves ++ [m])).1 = ((play {} moves).1.move m).1 := by
      simp [play_append]
    have hinstants : instants (moves ++ [m]) = instants moves ++ instants [m] := by
      simp [instants]
    rw [hplay] at hreg ⊢
    rw [hinstants] at hclock ⊢
    obtain ⟨hbefore, -, hle⟩ := List.pairwise_append.mp hclock
    by_cases hm : ∃ now, m = .call now
    · obtain ⟨now, rfl⟩ := hm
      refine ⟨now, by simp [instants], fun token ht => ?_⟩
      simp only [move] at hreg ht
      cases hc : (play {} moves).1.cachedAt now with
      | none =>
        rw [call_of_missed hc, cached_join] at ht
        exact cachedAt_eq_none_iff.mp hc token ht
      | some value =>
        -- the token is valid now, so it was valid at the latest start before
        obtain ⟨token', hmem, hv, -⟩ := cachedAt_eq_some_iff.mp hc
        rw [call_of_valid hmem hv] at hreg
        obtain ⟨latest, hlast, hstale⟩ := ih hbefore hreg
        have hnow : latest.line ≤ now.line :=
          hle latest (List.mem_of_getLast? hlast) now (by simp [instants])
        simpa [AccessToken.validAt_of_le hnow hv] using hstale token' hmem
    · have hnot : ∀ now, m ≠ .call now := fun now h => hm ⟨now, h⟩
      have hnone : instants [m] = [] := by
        cases m with
        | call now => exact absurd rfl (hnot now)
        | _ => rfl
      have trail := move_trail (play {} moves).1 m
      have hjoined := not_joined_of_move (d := (play {} moves).1) hnot
      have hsub := trail.cached_of_registered hd hjoined hreg
      obtain ⟨latest, hlast, hstale⟩ :=
        ih hbefore fun hnone => hreg (trail.unregistered hnone hjoined)
      exact ⟨latest, by simpa [hnone] using hlast, fun token ht => hstale token (hsub token ht)⟩

/-- In every play, the cached token is that of the last exchange that gave one, if it was not
invalidated since, and else there is none; an exchange that fails or is cancelled leaves it alone.
If the clock never goes back, then whenever an exchange begins, the cached token is not valid at
the latest start of a call. -/
theorem cache_in_play (moves : List Move) :
    let run := play {} moves
    (∀ token, run.1.cached = some token ↔ ∃ driver cell, LastKept run.2 driver cell token) ∧
    (∀ m driver cell, ((∃ e, .ended driver cell (.error e) ∈ (run.1.move m).2) ∨
      .cancelled driver cell ∈ (run.1.move m).2) → (run.1.move m).1.cached = run.1.cached) ∧
    ((instants moves).Pairwise (·.line ≤ ·.line) →
      ∀ m call cell, .began call cell ∈ (run.1.move m).2 →
        ∃ latest, (instants moves).getLast? = some latest ∧
          ∀ token ∈ run.1.cached, token.validAt latest = false) := by
  intro run
  refine ⟨fun token => ?_, fun m driver cell h => cached_move h, fun hclock m call cell h => ?_⟩
  · simpa using (play_trail {} moves).cached_iff token
  · have hreg := (sound_play moves).registered_of_idle (move_of_began h).2
    exact stale_of_registered moves hclock (by simp [hreg])

/-- A token that has expired is replaced: an exchange begins while it is still cached. -/
theorem exchange_after_expiry :
    let expired : AccessToken := ⟨⟨"T1"⟩, epoch, epoch⟩
    let d := (play {} [.call epoch, .look 0 (some (.ok expired)), .call epoch]).1
    d.cached = some expired ∧ .began 1 1 ∈ (d.move (.look 1 none)).2 ∧
      expired.validAt epoch = false := by
  intro expired d
  have hbegan : .began 1 1 ∈ (d.move (.look 1 none)).2 := List.mem_singleton_self _
  obtain ⟨latest, hlast, hstale⟩ := (cache_in_play
    [.call epoch, .look 0 (some (.ok expired)), .call epoch]).2.2 (by simp [instants]) _ 1 1 hbegan
  obtain rfl : epoch = latest := Option.some.inj hlast
  exact ⟨rfl, hbegan, hstale expired rfl⟩

end Wayfare.Desk
