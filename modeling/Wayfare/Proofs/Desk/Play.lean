import Wayfare.Token.Desk

/-!
Plays of a token desk: calls start, look at their cells, are given up, and the cached token is
forgotten, in any order. A play is a trail of steps, and each step is one happening.
-/
namespace Wayfare.Desk

/-! ## Moves -/

/-- A source that is looked at once: a running exchange gets this answer. -/
def once : Source (Option Grant) :=
  fun answer => answer.map (·, none)

/-- A waiting call looks at its cell. If it drives the exchange, the source gives it this answer. -/
def look (d : Desk) (w : Waiting) (answer : Option Grant) : Desk × List Happening :=
  let (d, _, happenings) := poll once d answer w
  (d, happenings)

/-- What is done to a desk in one go. A call that started looks at its cell in moves of its own, so
anything may come between its start and its first look, and between an exchange and its waiters. -/
inductive Move where
  | call (now : Instant)
  /-- The call of this number looks at its cell. -/
  | look (call : Nat) (answer : Option Grant)
  | drop (call : Nat)
  | invalidate

/-- A move, and what happens with it. A call that does not wait has nothing to look at. -/
def move (d : Desk) : Move → Desk × List Happening
  | .call now => d.call now
  | .look call answer =>
    match d.waiting.find? (·.call = call) with
    | none => (d, [])
    | some w => d.look w answer
  | .drop call => d.drop call
  | .invalidate => (d.invalidate, [.invalidated])

/-- Some moves, one after the other. -/
def play (d : Desk) : List Move → Desk × List Happening
  | [] => (d, [])
  | m :: rest =>
    let (d, first) := d.move m
    let (d, more) := d.play rest
    (d, first ++ more)

/-- The begin of 1970. -/
def epoch : Instant :=
  ⟨0, 0, 0, by decide, by decide, by decide⟩

@[simp] theorem play_nil (d : Desk) : d.play [] = (d, []) := rfl

@[simp] theorem play_cons (d : Desk) (m : Move) (rest : List Move) :
    d.play (m :: rest) =
      (((d.move m).1.play rest).1, (d.move m).2 ++ ((d.move m).1.play rest).2) := rfl

theorem play_append (d : Desk) (first rest : List Move) :
    d.play (first ++ rest) =
      (((d.play first).1.play rest).1, (d.play first).2 ++ ((d.play first).1.play rest).2) := by
  induction first generalizing d with
  | nil => rfl
  | cons m first ih => simp [ih]

/-! ## What the parts of a move leave -/

@[simp] theorem join_call (d : Desk) : d.join.2.call = d.calls := by
  unfold join
  split <;> rfl

@[simp] theorem calls_join (d : Desk) : d.join.1.calls = d.calls + 1 := by
  unfold join
  split <;> rfl

@[simp] theorem cached_join (d : Desk) : d.join.1.cached = d.cached := by
  unfold join
  split <;> rfl

@[simp] theorem waiting_join (d : Desk) : d.join.1.waiting = d.waiting ++ [d.join.2] := by
  unfold join
  split <;> rfl

theorem mem_waiting_join (d : Desk) : d.join.2 ∈ d.join.1.waiting := by
  simp

theorem registered_join (d : Desk) : d.join.1.registered = some d.join.2.cell := by
  unfold join
  split
  · assumption
  · rfl

theorem join_of_registered {d : Desk} {c : Nat} (h : d.registered = some c) :
    d.join.2 = ⟨d.calls, c⟩ ∧ d.join.1.cells = d.cells := by
  simp [join, h]

theorem join_of_unregistered {d : Desk} (h : d.registered = none) :
    d.join.2 = ⟨d.calls, d.cells.length⟩ ∧ d.join.1.cells = d.cells ++ [.idle] := by
  simp [join, h]

theorem cells_join {d : Desk} {c : Nat} {cell : Cell} :
    d.join.1.cells[c]? = some cell ↔
      d.cells[c]? = some cell ∨ d.registered = none ∧ c = d.cells.length ∧ cell = .idle := by
  cases hreg : d.registered with
  | some _ => simp [join_of_registered hreg]
  | none =>
    rw [(join_of_unregistered hreg).2]
    rcases Nat.lt_trichotomy c d.cells.length with hc | rfl | hc
    · simp [List.getElem?_append_left hc, Nat.ne_of_lt hc]
    · simp [eq_comm]
    · have hge : (d.cells ++ [Cell.idle])[c]? = none := by
        rw [List.getElem?_eq_none_iff, List.length_append, List.length_singleton]
        omega
      simp [hge, Nat.ne_of_gt hc, Nat.le_of_lt hc]

section Cell

variable {d : Desk} {w : Waiting} {cell : Cell} (h : d.cells[w.cell]? = some cell)

include h

theorem cells_begin : (d.begin w).cells[w.cell]? = some (.running w.call) :=
  List.getElem?_set_self (List.getElem?_eq_some_iff.mp h).1

theorem cells_finish (grant : Grant) : (d.finish w grant).cells[w.cell]? = some (.done grant) :=
  List.getElem?_set_self (List.getElem?_eq_some_iff.mp h).1

theorem cells_abandon : (d.abandon w).cells[w.cell]? = some .idle :=
  List.getElem?_set_self (List.getElem?_eq_some_iff.mp h).1

end Cell

/-! ## One look -/

theorem look_done {d : Desk} {w : Waiting} {grant : Grant}
    (h : d.cells[w.cell]? = some (.done grant)) (answer : Option Grant) :
    d.look w answer = (d.leave w.call, [.returned w.call (result grant)]) := by
  simp [look, poll, h]

theorem look_running_of_ne {d : Desk} {w : Waiting} {driver : Nat}
    (h : d.cells[w.cell]? = some (.running driver)) (hne : driver ≠ w.call)
    (answer : Option Grant) : d.look w answer = (d, []) := by
  simp [look, poll, h, hne]

theorem look_running {d : Desk} {w : Waiting}
    (h : d.cells[w.cell]? = some (.running w.call)) : d.look w none = (d, []) := by
  simp [look, poll, h, drive, once]

theorem look_running_grant {d : Desk} {w : Waiting}
    (h : d.cells[w.cell]? = some (.running w.call)) (grant : Grant) :
    d.look w (some grant) = ((d.finish w grant).leave w.call,
      [.ended w.call w.cell grant, .returned w.call (result grant)]) := by
  simp [look, poll, h, drive, once]

theorem look_idle {d : Desk} {w : Waiting} (h : d.cells[w.cell]? = some .idle) :
    d.look w none = (d.begin w, [.began w.call w.cell]) := by
  simp [look, poll, h, drive, once]

theorem look_idle_grant {d : Desk} {w : Waiting} (h : d.cells[w.cell]? = some .idle)
    (grant : Grant) :
    d.look w (some grant) = (((d.begin w).finish w grant).leave w.call,
      [.began w.call w.cell, .ended w.call w.cell grant, .returned w.call (result grant)]) := by
  simp [look, poll, h, drive, once]

/-! ## Steps -/

/-- One happening, with what it needs and what it makes of the desk. -/
inductive Step : Desk → Happening → Desk → Prop where
  | hit {d : Desk} {now : Instant} {token : AccessToken} (cached : d.cached = some token)
      (valid : token.validAt now) : Step d (.hit d.calls token.value) d.serve
  | joined {d : Desk} {now : Instant} (missed : d.cachedAt now = none) :
      Step d (.joined d.join.2.call d.join.2.cell) d.join.1
  | began {d : Desk} {w : Waiting} (waits : w ∈ d.waiting)
      (idle : d.cells[w.cell]? = some .idle) : Step d (.began w.call w.cell) (d.begin w)
  | ended {d : Desk} {w : Waiting} (grant : Grant) (waits : w ∈ d.waiting)
      (drives : d.cells[w.cell]? = some (.running w.call)) :
      Step d (.ended w.call w.cell grant) (d.finish w grant)
  | returned {d : Desk} {w : Waiting} {grant : Grant} (waits : w ∈ d.waiting)
      (done : d.cells[w.cell]? = some (.done grant)) :
      Step d (.returned w.call (result grant)) (d.leave w.call)
  | cancelled {d : Desk} {w : Waiting} (waits : w ∈ d.waiting)
      (drives : d.cells[w.cell]? = some (.running w.call)) :
      Step d (.cancelled w.call w.cell) (d.abandon w)
  | dropped {d : Desk} {w : Waiting} (waits : w ∈ d.waiting)
      (idle : d.cells[w.cell]? ≠ some (.running w.call)) :
      Step d (.dropped w.call) (d.leave w.call)
  | invalidated {d : Desk} : Step d .invalidated d.invalidate

/-- Steps one after the other, with all that happens. -/
inductive Trail : Desk → List Happening → Desk → Prop where
  | nil (d : Desk) : Trail d [] d
  | cons {d d' d'' : Desk} {h : Happening} {rest : List Happening} :
      Step d h d' → Trail d' rest d'' → Trail d (h :: rest) d''

namespace Trail

theorem single {d d' : Desk} {h : Happening} (step : Step d h d') : Trail d [h] d' :=
  .cons step (.nil d')

theorem append {d d' d'' : Desk} {first rest : List Happening} (h : Trail d first d')
    (h' : Trail d' rest d'') : Trail d (first ++ rest) d'' := by
  induction h with
  | nil => exact h'
  | cons step _ ih => exact .cons step (ih h')

theorem split {d d'' : Desk} {first rest : List Happening} (h : Trail d (first ++ rest) d'') :
    ∃ d', Trail d first d' ∧ Trail d' rest d'' := by
  induction first generalizing d with
  | nil => exact ⟨d, .nil d, h⟩
  | cons e first ih =>
    cases h with
    | cons step h =>
      obtain ⟨d', hf, hr⟩ := ih h
      exact ⟨d', .cons step hf, hr⟩

theorem split_at {d d'' : Desk} {before after : List Happening} {e : Happening}
    (h : Trail d (before ++ e :: after) d'') :
    ∃ d₁ d₂, Trail d before d₁ ∧ Step d₁ e d₂ ∧ Trail d₂ after d'' := by
  obtain ⟨d₁, hb, hr⟩ := h.split
  cases hr with
  | cons step ha => exact ⟨d₁, _, hb, step, ha⟩

/-- What happens on a trail happens with a step of it. -/
theorem step_of_mem {d d'' : Desk} {happenings : List Happening} {e : Happening}
    (h : Trail d happenings d'') (he : e ∈ happenings) :
    ∃ before after d₁ d₂, happenings = before ++ e :: after ∧ Trail d before d₁ ∧
      Step d₁ e d₂ ∧ Trail d₂ after d'' := by
  obtain ⟨before, after, rfl⟩ := List.append_of_mem he
  obtain ⟨d₁, d₂, hb, step, ha⟩ := h.split_at
  exact ⟨before, after, d₁, d₂, rfl, hb, step, ha⟩

end Trail

/-! ## All that a move can come to -/

theorem cachedAt_eq_some_iff {d : Desk} {now : Instant} {value : Secret} :
    d.cachedAt now = some value ↔
      ∃ token ∈ d.cached, token.validAt now ∧ token.value = value := by
  simp [cachedAt, Option.filter_eq_some_iff, and_assoc]

theorem cachedAt_eq_none_iff {d : Desk} {now : Instant} :
    d.cachedAt now = none ↔ ∀ token ∈ d.cached, token.validAt now = false := by
  simp [cachedAt, Option.filter_eq_none_iff]

theorem call_of_valid {d : Desk} {now : Instant} {token : AccessToken}
    (h : token ∈ d.cached) (hv : token.validAt now) :
    d.call now = (d.serve, [.hit d.calls token.value]) := by
  have hc : d.cachedAt now = some token.value := cachedAt_eq_some_iff.mpr ⟨token, h, hv, rfl⟩
  simp [call, hc]

theorem call_of_missed {d : Desk} {now : Instant} (h : d.cachedAt now = none) :
    d.call now = (d.join.1, [.joined d.join.2.call d.join.2.cell]) := by
  simp [call, h]

/-- The cases of a move, with what each needs, makes of the desk and lets happen. -/
inductive Moved (d : Desk) : Move → Desk × List Happening → Prop where
  | nothing (m : Move) : Moved d m (d, [])
  | hit {now : Instant} {token : AccessToken} (cached : token ∈ d.cached)
      (valid : token.validAt now) :
      Moved d (.call now) (d.serve, [.hit d.calls token.value])
  | joined {now : Instant} (missed : d.cachedAt now = none) :
      Moved d (.call now) (d.join.1, [.joined d.join.2.call d.join.2.cell])
  | returned {w : Waiting} {grant : Grant} (answer : Option Grant) (waits : w ∈ d.waiting)
      (done : d.cells[w.cell]? = some (.done grant)) :
      Moved d (.look w.call answer) (d.leave w.call, [.returned w.call (result grant)])
  | began {w : Waiting} (waits : w ∈ d.waiting) (idle : d.cells[w.cell]? = some .idle) :
      Moved d (.look w.call none) (d.begin w, [.began w.call w.cell])
  | served {w : Waiting} (grant : Grant) (waits : w ∈ d.waiting)
      (idle : d.cells[w.cell]? = some .idle) :
      Moved d (.look w.call (some grant)) (((d.begin w).finish w grant).leave w.call,
        [.began w.call w.cell, .ended w.call w.cell grant, .returned w.call (result grant)])
  | ended {w : Waiting} (grant : Grant) (waits : w ∈ d.waiting)
      (drives : d.cells[w.cell]? = some (.running w.call)) :
      Moved d (.look w.call (some grant)) ((d.finish w grant).leave w.call,
        [.ended w.call w.cell grant, .returned w.call (result grant)])
  | cancelled {w : Waiting} (waits : w ∈ d.waiting)
      (drives : d.cells[w.cell]? = some (.running w.call)) :
      Moved d (.drop w.call) ((d.abandon w).leave w.call,
        [.cancelled w.call w.cell, .dropped w.call])
  | dropped {w : Waiting} (waits : w ∈ d.waiting)
      (idle : d.cells[w.cell]? ≠ some (.running w.call)) :
      Moved d (.drop w.call) (d.leave w.call, [.dropped w.call])
  | invalidated : Moved d .invalidate (d.invalidate, [.invalidated])

theorem moved_call (d : Desk) (now : Instant) : Moved d (.call now) (d.call now) := by
  cases h : d.cachedAt now with
  | none =>
    rw [call_of_missed h]
    exact .joined h
  | some value =>
    obtain ⟨token, hc, hv, -⟩ := cachedAt_eq_some_iff.mp h
    rw [call_of_valid hc hv]
    exact .hit hc hv

theorem moved_look {d : Desk} {w : Waiting} (hw : w ∈ d.waiting) (answer : Option Grant) :
    Moved d (.look w.call answer) (d.look w answer) := by
  cases h : d.cells[w.cell]? with
  | none =>
    have hlook : d.look w answer = (d, []) := by simp [look, poll, h]
    exact hlook ▸ .nothing _
  | some cell =>
    cases cell with
    | idle =>
      cases answer with
      | none => exact look_idle h ▸ .began hw h
      | some grant => exact look_idle_grant h grant ▸ .served grant hw h
    | running driver =>
      by_cases hd : driver = w.call
      · subst hd
        cases answer with
        | none => exact look_running h ▸ .nothing _
        | some grant => exact look_running_grant h grant ▸ .ended grant hw h
      · exact look_running_of_ne h hd answer ▸ .nothing _
    | done grant => exact look_done h answer ▸ .returned answer hw h

theorem moved_drop (d : Desk) (call : Nat) : Moved d (.drop call) (d.drop call) := by
  unfold drop
  cases hf : d.waiting.find? (·.call = call) with
  | none => exact .nothing _
  | some w =>
    have hw : w ∈ d.waiting := List.mem_of_find?_eq_some hf
    obtain rfl : w.call = call := by simpa using List.find?_some hf
    by_cases hd : d.cells[w.cell]? = some (.running w.call)
    · simpa [leave, abandon, hd] using Moved.cancelled hw hd
    · have hleave := Moved.dropped hw hd
      cases hcell : d.cells[w.cell]? with
      | none => simpa [leave, hcell] using hleave
      | some cell =>
        cases cell with
        | running driver =>
          have hne : driver ≠ w.call := by
            rintro rfl
            exact hd hcell
          simpa [leave, hcell, hne] using hleave
        | idle => simpa [leave, hcell] using hleave
        | done grant => simpa [leave, hcell] using hleave

theorem moved (d : Desk) (m : Move) : Moved d m (d.move m) := by
  cases m with
  | call now => exact moved_call d now
  | drop call => exact moved_drop d call
  | invalidate => exact .invalidated
  | look call answer =>
    simp only [move]
    cases hf : d.waiting.find? (·.call = call) with
    | none => exact .nothing _
    | some w =>
      obtain rfl : w.call = call := by simpa using List.find?_some hf
      exact moved_look (List.mem_of_find?_eq_some hf) answer

/-- Only the start of a call lets a call join. -/
theorem not_joined_of_move {d : Desk} {m : Move} (h : ∀ now, m ≠ .call now) (call cell : Nat) :
    .joined call cell ∉ (d.move m).2 := by
  have hm := moved d m
  generalize d.move m = r at hm ⊢
  cases hm with
  | hit _ _ => exact absurd rfl (h _)
  | joined _ => exact absurd rfl (h _)
  | _ => simp

/-- An exchange begins at an idle cell, with a look of a call that waits there. -/
theorem move_of_began {d : Desk} {m : Move} {call cell : Nat}
    (h : .began call cell ∈ (d.move m).2) :
    ⟨call, cell⟩ ∈ d.waiting ∧ d.cells[cell]? = some .idle := by
  have hm := moved d m
  generalize d.move m = r at hm h
  cases hm with
  | began hw hidle =>
    obtain ⟨rfl, rfl⟩ : call = _ ∧ cell = _ := by simpa using h
    exact ⟨hw, hidle⟩
  | served grant hw hidle =>
    obtain ⟨rfl, rfl⟩ : call = _ ∧ cell = _ := by simpa using h
    exact ⟨hw, hidle⟩
  | _ => simp at h

/-- An exchange ends with a look of the call that drives it, and the call returns. -/
theorem move_of_ended {d : Desk} {m : Move} {driver cell : Nat} {grant : Grant}
    (h : .ended driver cell grant ∈ (d.move m).2) :
    (d.move m).2 = [.ended driver cell grant, .returned driver (result grant)] ∨
      (d.move m).2 =
        [.began driver cell, .ended driver cell grant, .returned driver (result grant)] := by
  have hm := moved d m
  generalize d.move m = r at hm h ⊢
  cases hm with
  | served grant' _ _ =>
    obtain ⟨rfl, rfl, rfl⟩ : driver = _ ∧ cell = _ ∧ grant = grant' := by simpa using h
    exact .inr rfl
  | ended grant' _ _ =>
    obtain ⟨rfl, rfl, rfl⟩ : driver = _ ∧ cell = _ ∧ grant = grant' := by simpa using h
    exact .inl rfl
  | _ => simp at h

/-- An exchange is cancelled when the call that drives it is given up. -/
theorem move_of_cancelled {d : Desk} {m : Move} {driver cell : Nat}
    (h : .cancelled driver cell ∈ (d.move m).2) :
    (d.move m).2 = [.cancelled driver cell, .dropped driver] := by
  have hm := moved d m
  generalize d.move m = r at hm h ⊢
  cases hm with
  | cancelled _ _ =>
    obtain ⟨rfl, rfl⟩ : driver = _ ∧ cell = _ := by simpa using h
    rfl
  | _ => simp at h

/-! ## Moves take steps -/

/-- A call that drives gets a grant: its exchange ends and it returns. -/
theorem finish_trail {d : Desk} {w : Waiting} (hw : w ∈ d.waiting)
    (h : d.cells[w.cell]? = some (.running w.call)) (grant : Grant) :
    Trail d [.ended w.call w.cell grant, .returned w.call (result grant)]
      ((d.finish w grant).leave w.call) := by
  have hdone := cells_finish h grant
  exact .cons (.ended grant hw h) (.single (.returned (d := d.finish w grant) hw hdone))

theorem Moved.trail {d : Desk} {m : Move} {r : Desk × List Happening} (h : Moved d m r) :
    Trail d r.2 r.1 := by
  cases h with
  | nothing _ => exact .nil d
  | hit hc hv => exact .single (.hit hc hv)
  | joined hc => exact .single (.joined hc)
  | returned _ hw hdone => exact .single (.returned hw hdone)
  | began hw hidle => exact .single (.began hw hidle)
  | @served w grant hw hidle =>
    have hrun := cells_begin hidle
    exact .cons (.began hw hidle) (finish_trail (d := d.begin w) hw hrun grant)
  | ended grant hw hrun => exact finish_trail hw hrun grant
  | @cancelled w hw hrun =>
    -- the exchange is given up first, so that the call leaves an idle cell
    have hidle : (d.abandon w).cells[w.cell]? ≠ some (.running w.call) := by
      simp [cells_abandon hrun]
    exact .cons (.cancelled hw hrun) (.single (.dropped (d := d.abandon w) hw hidle))
  | dropped hw hidle => exact .single (.dropped hw hidle)
  | invalidated => exact .single .invalidated

theorem move_trail (d : Desk) (m : Move) : Trail d (d.move m).2 (d.move m).1 :=
  (moved d m).trail

theorem play_trail (d : Desk) (moves : List Move) :
    Trail d (d.play moves).2 (d.play moves).1 := by
  induction moves generalizing d with
  | nil => exact .nil d
  | cons m rest ih => exact (move_trail d m).append (ih _)

end Wayfare.Desk
