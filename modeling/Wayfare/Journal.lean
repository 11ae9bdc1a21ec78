import Wayfare.Json.Basic

/-!
What a client tells about its work: spans around calls, events, and counters. An entry never holds a
secret or the value of a parameter.
-/
namespace Wayfare

/-- The kinds of call that are told apart. -/
inductive CallKind where
  | tokenExchange
  | request
  | page
  deriving DecidableEq, Repr

def CallKind.label : CallKind → String
  | .tokenExchange => "token_exchange"
  | .request => "request"
  | .page => "page"

/-- What is counted of a call. -/
inductive Outcome where
  | attempt
  | success
  | failure
  deriving DecidableEq, Repr

def Outcome.label : Outcome → String
  | .attempt => "attempt"
  | .success => "success"
  | .failure => "failure"

/-- How a finished call is counted. -/
def Outcome.ofResult : Except ε α → Outcome
  | .ok _ => .success
  | .error _ => .failure

inductive Level where
  | debug
  | info
  | error
  deriving DecidableEq, Repr

def Level.label : Level → String
  | .debug => "DEBUG"
  | .info => "INFO"
  | .error => "ERROR"

/-- The stage of a call that a span covers. -/
inductive Stage where
  | dispatch
  | accessToken
  deriving DecidableEq, Repr

def Stage.label : Stage → String
  | .dispatch => "dispatch"
  | .accessToken => "access_token"

/-- The work of one call; calls to a resource name its method and path. -/
structure Span where
  kind : CallKind
  stage : Stage
  target : Option (String × String) := none
  deriving DecidableEq, Repr

/-- The name that all spans share. -/
def Span.name : String := "amadeus_client.call"

/-- The name of the counter. -/
def counterName : String := "amadeus_client_call_total"

/-- The value of a field of an event; how long a call took is not told apart. -/
inductive Datum where
  | text (s : String)
  | clock
  deriving DecidableEq, Repr

structure Event where
  level : Level
  message : String
  data : List (String × Datum) := []
  /-- The innermost span around the event. -/
  span : Option Span := none
  deriving DecidableEq, Repr

inductive Entry where
  | opened (span : Span)
  | event (e : Event)
  | counted (kind : CallKind) (outcome : Outcome)
  deriving DecidableEq, Repr

/-- The entries of some work, in their order. -/
abbrev Journal := List Entry

namespace Journal

/-- The value of a counter. -/
def count (kind : CallKind) (outcome : Outcome) (j : Journal) : Nat :=
  (j.filter (· == .counted kind outcome)).length

def events (j : Journal) : List Event :=
  j.filterMap fun
    | .event e => some e
    | _ => none

end Journal

/-- What a log may tell of a payload: the names of its outermost fields, or its size. -/
def payloadSummary : Json → String
  | .object fields => ",".intercalate (Fields.names fields)
  | .null => ""
  | .array items => "[" ++ toString items.length ++ " items]"
  | _ => "<scalar>"

end Wayfare
