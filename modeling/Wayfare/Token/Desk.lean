import Wayfare.Error
import Wayfare.Journal
import Wayfare.Token.Access

/-!
The token desk. It keeps one access token and hands it out while it is valid. Callers that find none
share one exchange: they wait at the cell that is registered, the first of them drives the exchange,
and if it leaves early the oldest of the others takes over.
-/
namespace Wayfare

/-- What an exchange gives. -/
abbrev Grant := Except TokenError AccessToken

namespace Desk

/-- Where callers wait for one exchange. -/
inductive Cell where
  /-- Nobody drives the exchange. -/
  | idle
  | running (driver : Nat)
  | done (grant : Grant)

/-- A call that has not returned. -/
structure Waiting where
  call : Nat
  /-- The cell it waits at. -/
  cell : Nat
  deriving DecidableEq

/-- What happens at a desk. Calls and cells are numbered in the order of their start. -/
inductive Happening where
  /-- A call started and returned the cached token. -/
  | hit (call : Nat) (value : Secret)
  /-- A call started and waits. -/
  | joined (call cell : Nat)
  /-- A call began an exchange. -/
  | began (call cell : Nat)
  | ended (call cell : Nat) (grant : Grant)
  /-- An exchange was given up because its driver left. -/
  | cancelled (call cell : Nat)
  | returned (call : Nat) (result : Except TokenError Secret)
  /-- A waiting call was given up. -/
  | dropped (call : Nat)
  | invalidated

end Desk

structure Desk where
  /-- The token of the last exchange that gave one. -/
  cached : Option AccessToken := none
  /-- The cell that callers without a token join. -/
  registered : Option Nat := none
  cells : List Desk.Cell := []
  /-- The calls that have not returned, in the order of their start. -/
  waiting : List Desk.Waiting := []
  /-- How many calls were started. -/
  calls : Nat := 0
  exchanges : Nat := 0
  cacheHits : Nat := 0
  failures : Nat := 0

namespace Desk

/-- The cached token, if it is valid. -/
def cachedAt (d : Desk) (now : Instant) : Option Secret :=
  (d.cached.filter (·.validAt now)).map (·.value)

/-- Counts a call that is served from the cache. -/
def serve (d : Desk) : Desk :=
  { d with calls := d.calls + 1, cacheHits := d.cacheHits + 1 }

/-- Lets a new call wait, at the registered cell or at a new one. -/
def join (d : Desk) : Desk × Waiting :=
  match d.registered with
  | some cell =>
    let w : Waiting := ⟨d.calls, cell⟩
    ({ d with calls := d.calls + 1, waiting := d.waiting ++ [w] }, w)
  | none =>
    let w : Waiting := ⟨d.calls, d.cells.length⟩
    ({ d with
        calls := d.calls + 1
        waiting := d.waiting ++ [w]
        registered := some d.cells.length
        cells := d.cells ++ [.idle] }, w)

/-- Lets a waiting call begin the exchange of its cell. -/
def begin (d : Desk) (w : Waiting) : Desk :=
  { d with cells := d.cells.set w.cell (.running w.call), exchanges := d.exchanges + 1 }

/-- Ends the exchange of a cell. The cell is registered no more, and a token is kept. -/
def finish (d : Desk) (w : Waiting) (grant : Grant) : Desk :=
  { d with
    cells := d.cells.set w.cell (.done grant)
    registered := if d.registered = some w.cell then none else d.registered
    cached := match grant with
      | .ok token => some token
      | .error _ => d.cached
    failures := match grant with
      | .ok _ => d.failures
      | .error _ => d.failures + 1 }

/-- Takes a call off the waiting list. -/
def leave (d : Desk) (call : Nat) : Desk :=
  { d with waiting := d.waiting.filter (·.call ≠ call) }

/-- What a call returns for the outcome of an exchange. -/
def result (grant : Grant) : Except TokenError Secret :=
  grant.map (·.value)

/-- Starts a call. A call looks at the cache twice: first only to be served, and if it finds no valid
token, once more with the same reading of the clock, now to be served or to join. A first look that finds
none leaves the desk as it is, so here the two are one, at the time of the second. Either look counts a
hit, but an event tells of a hit at the first one only; a `hit` is told wherever it was. -/
def call (d : Desk) (now : Instant) : Desk × List Happening :=
  match d.cachedAt now with
  | some value => (d.serve, [.hit d.calls value])
  | none =>
    let (d, w) := d.join
    (d, [.joined w.call w.cell])

/-- Gives up the exchange of a cell. -/
def abandon (d : Desk) (w : Waiting) : Desk :=
  { d with cells := d.cells.set w.cell .idle }

/-- Gives up a waiting call; an exchange that it drives is cancelled. -/
def drop (d : Desk) (call : Nat) : Desk × List Happening :=
  match d.waiting.find? (·.call = call) with
  | none => (d, [])
  | some w =>
    let d := d.leave call
    match d.cells[w.cell]? with
    | some (.running driver) =>
      if driver = call then (d.abandon w, [.cancelled call w.cell, .dropped call])
      else (d, [.dropped call])
    | _ => (d, [.dropped call])

/-- Gives up some waiting calls, one after the other. -/
def dropAll (d : Desk) : List Nat → Desk × List Happening
  | [] => (d, [])
  | call :: rest =>
    let (d, first) := d.drop call
    let (d, more) := d.dropAll rest
    (d, first ++ more)

/-- Forgets the cached token. -/
def invalidate (d : Desk) : Desk :=
  { d with cached := none }

/-- A source of grants: with each look at it a running exchange either gets its grant or waits on. -/
abbrev Source (σ : Type) := σ → Option (Grant × σ)

/-- A driver looks at the source, and returns with the grant if there is one. -/
def drive (source : Source σ) (d : Desk) (s : σ) (w : Waiting) : Desk × σ × List Happening :=
  match source s with
  | none => (d, s, [])
  | some (grant, s) =>
    ((d.finish w grant).leave w.call, s, [.ended w.call w.cell grant, .returned w.call (result grant)])

/-- A waiting call looks at its cell: it returns if the exchange has ended, drives it if nobody does,
and waits on if another call does. -/
def poll (source : Source σ) (d : Desk) (s : σ) (w : Waiting) : Desk × σ × List Happening :=
  match d.cells[w.cell]? with
  | none => (d, s, [])
  | some (.done grant) => (d.leave w.call, s, [.returned w.call (result grant)])
  | some .idle =>
    let (d, s, happenings) := drive source (d.begin w) s w
    (d, s, .began w.call w.cell :: happenings)
  | some (.running driver) => if driver = w.call then drive source d s w else (d, s, [])

/-- Some calls look at their cells, one after the other. -/
def pollAll (source : Source σ) (d : Desk) (s : σ) : List Waiting → Desk × σ × List Happening
  | [] => (d, s, [])
  | w :: rest =>
    let (d, s, first) := poll source d s w
    let (d, s, more) := pollAll source d s rest
    (d, s, first ++ more)

/-- All waiting calls look at their cells, in the order of their start. -/
def settle (source : Source σ) (d : Desk) (s : σ) : Desk × σ × List Happening :=
  pollAll source d s d.waiting

/-- What is done to a desk from outside. -/
inductive Act where
  | call (now : Instant)
  /-- Some calls are given up at once. -/
  | drop (calls : List Nat)
  | deliver (grant : Grant)
  | invalidate

/-- Grants that were delivered and not yet taken, oldest first, as a source. -/
def queued : Source (List Grant)
  | [] => none
  | grant :: rest => some (grant, rest)

/-- A desk with the grants that wait for it. -/
structure Run where
  desk : Desk := {}
  grants : List Grant := []

/-- An act, after which the waiting calls look at their cells. -/
def Run.step (r : Run) (act : Act) : Run × List Happening :=
  let (desk, grants, first) : Desk × List Grant × List Happening := match act with
    | .call now => let (d, hs) := r.desk.call now; (d, r.grants, hs)
    | .drop calls => let (d, hs) := r.desk.dropAll calls; (d, r.grants, hs)
    | .deliver grant => (r.desk, r.grants ++ [grant], [])
    | .invalidate => (r.desk.invalidate, r.grants, [.invalidated])
  let (desk, grants, more) := desk.settle queued grants
  (⟨desk, grants⟩, first ++ more)

/-- A call at a desk where no other call waits: it drives its exchange to the end. An exchange without
a grant breaks off, and the call with it. -/
def acquire (exchange : σ → Option Grant × σ) (d : Desk) (now : Instant) (s : σ) :
    Option (Except TokenError Secret) × Desk × σ × List Happening :=
  match d.cachedAt now with
  | some value => (some (.ok value), d.serve, s, [.hit d.calls value])
  | none =>
    let (d, w) := d.join
    let start : List Happening := [.joined w.call w.cell, .began w.call w.cell]
    match exchange s with
    | (some grant, s) =>
      (some (result grant), ((d.begin w).finish w grant).leave w.call, s,
        start ++ [.ended w.call w.cell grant, .returned w.call (result grant)])
    | (none, s) =>
      (none, ((d.begin w).abandon w).leave w.call, s,
        start ++ [.cancelled w.call w.cell, .dropped w.call])

/-! ### What a desk tells -/

/-- The span around an exchange. -/
def exchangeSpan : Span := ⟨.tokenExchange, .accessToken, none⟩

/-- What is told of a happening within a span of the caller. -/
def Happening.entries (outer : Option Span) : Happening → Journal
  | .hit _ _ => [.event ⟨.debug, "Using cached access token.", [], outer⟩]
  | .began _ _ =>
    [.opened exchangeSpan, .counted .tokenExchange .attempt,
      .event ⟨.debug, "Fetching new access token.", [], some exchangeSpan⟩]
  | .ended _ _ (.ok token) =>
    [.event ⟨.debug, "Access token retrieved.", [("expires_at", .text token.expiresAt.debugText)], outer⟩,
      .counted .tokenExchange .success]
  | .ended _ _ (.error e) =>
    [.event ⟨.error, "Failed to obtain access token.", [("error", .text e.message)], outer⟩,
      .counted .tokenExchange .failure]
  | _ => []

/-- What is told of some happenings, all within one span. -/
def journal (outer : Option Span) (happenings : List Happening) : Journal :=
  happenings.flatMap (Happening.entries outer)

/-- Whether callers without a token would join an exchange. -/
def isRefreshing (d : Desk) : Bool :=
  d.registered.isSome

/-- The counters. -/
def metricsText (d : Desk) : String :=
  "TokenMetrics \x7b exchanges: " ++ toString d.exchanges ++ ", cache_hits: " ++
    toString d.cacheHits ++ ", failures: " ++ toString d.failures ++ " \x7d"

def debugText (d : Desk) : String :=
  let cached := match d.cached with
    | none => "None"
    | some token => "Some(" ++ token.debugText ++ ")"
  "TokenManager \x7b cached: " ++ cached ++ ", refreshing: " ++ toString d.isRefreshing ++
    ", metrics: " ++ d.metricsText ++ " \x7d"

end Desk

end Wayfare
