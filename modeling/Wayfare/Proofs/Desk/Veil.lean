import Wayfare.Proofs.Desk.Alone
import Wayfare.Text.Header

/-!
The veil over tokens. A usable token is veiled by a text that stands for all of them. What a desk does,
and all that it tells, is the same behind the veil, whoever waits there for whom; so neither depends on
which usable tokens it holds.
-/
namespace Wayfare

/-! ## Secrets -/

namespace Secret

/-- Whether a secret can be sent as a token. -/
def isUsable (s : Secret) : Bool :=
  !s.isEmpty && Text.isHeaderText s.reveal

/-- The secret behind the veil, where usable ones look alike. -/
def veiled (s : Secret) : Secret :=
  if s.isUsable then ⟨redacted⟩ else s

theorem veiled_of_isUsable {s : Secret} (h : s.isUsable = true) : s.veiled = ⟨redacted⟩ :=
  if_pos h

@[simp] theorem isEmpty_veiled (s : Secret) : s.veiled.isEmpty = s.isEmpty := by
  cases h : s.isUsable with
  | false => simp [veiled, h]
  | true =>
    rw [veiled_of_isUsable h]
    simp only [isUsable, Bool.and_eq_true, Bool.not_eq_true'] at h
    rw [h.1]
    decide

@[simp] theorem isHeaderText_veiled (s : Secret) :
    Text.isHeaderText s.veiled.reveal = Text.isHeaderText s.reveal := by
  cases h : s.isUsable with
  | false => simp [veiled, h]
  | true =>
    rw [veiled_of_isUsable h]
    simp only [isUsable, Bool.and_eq_true] at h
    rw [h.2]
    decide

end Secret

namespace AccessToken

def veiled (t : AccessToken) : AccessToken :=
  { t with value := t.value.veiled }

@[simp] theorem validAt_veiled (t : AccessToken) (now : Instant) :
    t.veiled.validAt now = t.validAt now := by
  simp [validAt, veiled]

theorem issued?_veiled {value other : String} (h : (Secret.mk value).veiled = (Secret.mk other).veiled)
    (now : Instant) (lifetime : Nanoseconds) :
    (issued? value now lifetime).map veiled = (issued? other now lifetime).map veiled := by
  simp only [issued?, Option.map_map]
  congr 1
  funext expiresAt
  simp [veiled, h]

end AccessToken

/-- The outcome of an exchange behind the veil. -/
def Grant.veiled (grant : Grant) : Grant :=
  grant.map AccessToken.veiled

theorem Grant.map_ok_veiled (token : Option AccessToken) :
    (token.map Except.ok : Option Grant).map Grant.veiled =
      (token.map AccessToken.veiled).map Except.ok := by
  cases token <;> rfl

/-- What a call for a token returns, behind the veil. -/
def veiledResult (result : Except TokenError Secret) : Except TokenError Secret :=
  result.map Secret.veiled

/-! ## Desks -/

namespace Desk

def Cell.veiled : Cell → Cell
  | .idle => .idle
  | .running driver => .running driver
  | .done grant => .done grant.veiled

def veiled (d : Desk) : Desk :=
  { d with cached := d.cached.map AccessToken.veiled, cells := d.cells.map Cell.veiled }

@[simp] theorem calls_veiled (d : Desk) : d.veiled.calls = d.calls := rfl

@[simp] theorem waiting_veiled (d : Desk) : d.veiled.waiting = d.waiting := rfl

def Happening.veiled : Happening → Happening
  | .hit call value => .hit call value.veiled
  | .joined call cell => .joined call cell
  | .began call cell => .began call cell
  | .ended call cell grant => .ended call cell grant.veiled
  | .cancelled call cell => .cancelled call cell
  | .returned call result => .returned call (veiledResult result)
  | .dropped call => .dropped call
  | .invalidated => .invalidated

/-! ### What a desk tells -/

theorem entries_veiled (outer : Option Span) (e : Happening) :
    e.veiled.entries outer = e.entries outer := by
  cases e with
  | ended call cell grant => cases grant <;> rfl
  | _ => rfl

theorem journal_veiled (outer : Option Span) (happenings : List Happening) :
    journal outer (happenings.map Happening.veiled) = journal outer happenings := by
  simp only [journal, List.flatMap_map, entries_veiled]

/-! ### What a desk does -/

theorem result_veiled (grant : Grant) : result grant.veiled = veiledResult (result grant) := by
  cases grant <;> rfl

theorem cachedAt_veiled (d : Desk) (now : Instant) :
    d.veiled.cachedAt now = (d.cachedAt now).map Secret.veiled := by
  simp only [cachedAt, veiled, Option.filter_map, Function.comp_def, AccessToken.validAt_veiled,
    Option.map_map]
  rfl

theorem invalidate_veiled (d : Desk) : d.veiled.invalidate = d.invalidate.veiled := rfl

theorem join_veiled (d : Desk) : d.veiled.join = (d.join.1.veiled, d.join.2) := by
  cases h : d.registered <;> simp [join, veiled, h, Cell.veiled]

theorem begin_veiled (d : Desk) (w : Waiting) : d.veiled.begin w = (d.begin w).veiled := by
  simp [begin, veiled, Cell.veiled]

theorem abandon_veiled (d : Desk) (w : Waiting) : d.veiled.abandon w = (d.abandon w).veiled := by
  simp [abandon, veiled, Cell.veiled]

theorem finish_veiled (d : Desk) (w : Waiting) (grant : Grant) :
    d.veiled.finish w grant.veiled = (d.finish w grant).veiled := by
  cases grant <;> simp [finish, veiled, Cell.veiled, Grant.veiled, Except.map] <;> rfl

theorem leave_veiled (d : Desk) (call : Nat) : d.veiled.leave call = (d.leave call).veiled := rfl

/-- Behind the veil a call at a desk is one at the veiled desk, with veiled exchanges. -/
theorem acquire_veiled (exchange : σ → Option Grant × σ) (d : Desk) (now : Instant) (s : σ) :
    d.veiled.acquire (fun s => Prod.map (Option.map Grant.veiled) id (exchange s)) now s =
      Prod.map (Option.map veiledResult)
        (Prod.map veiled (Prod.map id (List.map Happening.veiled))) (d.acquire exchange now s) := by
  simp only [acquire, cachedAt_veiled]
  cases d.cachedAt now with
  | some value => rfl
  | none =>
    simp only [Option.map_none, join_veiled]
    rcases exchange s with ⟨_ | grant, s'⟩
    · simp [begin_veiled, abandon_veiled, leave_veiled, Happening.veiled]
    · simp [begin_veiled, finish_veiled, leave_veiled, Happening.veiled, result_veiled]

/-! ### Plays -/

def Move.veiled : Move → Move
  | .call now => .call now
  | .look waiter answer => .look waiter (answer.map Grant.veiled)
  | .drop waiter => .drop waiter
  | .invalidate => .invalidate

/-- What comes of moves, behind the veil. -/
def veiledMoved (moved : Desk × List Happening) : Desk × List Happening :=
  (moved.1.veiled, moved.2.map Happening.veiled)

theorem call_veiled (d : Desk) (now : Instant) : d.veiled.call now = veiledMoved (d.call now) := by
  simp only [call, cachedAt_veiled]
  cases d.cachedAt now with
  | some value => rfl
  | none => simp [veiledMoved, join_veiled, Happening.veiled]

theorem cell_veiled (d : Desk) (c : Nat) : d.veiled.cells[c]? = d.cells[c]?.map Cell.veiled := by
  simp [veiled]

theorem look_veiled (d : Desk) (w : Waiting) (answer : Option Grant) :
    d.veiled.look w (answer.map Grant.veiled) = veiledMoved (d.look w answer) := by
  have hdrive (d : Desk) : drive once d.veiled (answer.map Grant.veiled) w =
      ((drive once d answer w).1.veiled, (drive once d answer w).2.1.map Grant.veiled,
        (drive once d answer w).2.2.map Happening.veiled) := by
    cases answer with
    | none => rfl
    | some grant =>
      simp [drive, once, finish_veiled, leave_veiled, Happening.veiled, result_veiled]
  simp only [look, poll, cell_veiled]
  rcases d.cells[w.cell]? with _ | _ | driver | grant
  · rfl
  · simp [Cell.veiled, begin_veiled, hdrive, veiledMoved, Happening.veiled]
  · simp only [Option.map_some, Cell.veiled]
    by_cases hdriver : driver = w.call
    · simp only [hdriver, if_true, hdrive, veiledMoved]
    · simp only [hdriver, if_false]
      rfl
  · simp [Cell.veiled, leave_veiled, veiledMoved, Happening.veiled, result_veiled]

theorem drop_veiled (d : Desk) (call : Nat) : d.veiled.drop call = veiledMoved (d.drop call) := by
  simp only [drop, waiting_veiled]
  cases d.waiting.find? (·.call = call) with
  | none => rfl
  | some w =>
    simp only [leave_veiled, cell_veiled]
    rcases (d.leave call).cells[w.cell]? with _ | _ | driver | _
    · rfl
    · rfl
    · simp only [Option.map_some, Cell.veiled]
      by_cases hdriver : driver = call
      · simp [hdriver, veiledMoved, abandon_veiled, Happening.veiled]
      · simp only [hdriver, if_false]
        rfl
    · rfl

theorem move_veiled (d : Desk) (m : Move) : d.veiled.move m.veiled = veiledMoved (d.move m) := by
  cases m with
  | call now => exact call_veiled d now
  | look waiter answer =>
    simp only [move, Move.veiled, waiting_veiled]
    cases d.waiting.find? (·.call = waiter) with
    | none => rfl
    | some w => exact look_veiled d w answer
  | drop waiter => exact drop_veiled d waiter
  | invalidate => rfl

theorem play_veiled (d : Desk) (moves : List Move) :
    d.veiled.play (moves.map Move.veiled) = veiledMoved (d.play moves) := by
  induction moves generalizing d with
  | nil => rfl
  | cons m rest ih => simp [move_veiled, veiledMoved, ih]

/-! ### One call of a play -/

theorem isOf_veiled (call : Nat) (e : Happening) : e.veiled.isOf call = e.isOf call := by
  cases e <;> rfl

theorem filter_isOf_veiled (call : Nat) (happenings : List Happening) :
    (happenings.map Happening.veiled).filter (·.isOf call) =
      (happenings.filter (·.isOf call)).map Happening.veiled := by
  simp only [List.filter_map, Function.comp_def, isOf_veiled]

theorem outcome?_veiled (call : Nat) (happenings : List Happening) :
    outcome? call (happenings.map Happening.veiled) =
      (outcome? call happenings).map veiledResult := by
  rw [outcome?, outcome?, filter_isOf_veiled, List.findSome?_map, List.map_findSome?]
  congr 1
  funext e
  cases e <;> rfl

end Desk

end Wayfare
