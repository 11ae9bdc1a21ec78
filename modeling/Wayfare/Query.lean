import Wayfare.Error

/-!
Query pairs. An object becomes the list of its leaves: names of inner objects stand in brackets behind
the key, items of lists repeat the key with empty brackets, and nulls leave nothing.
-/
namespace Wayfare.Query

/-- A key with its value. -/
abbrev Pair := String × String

/-- The key of the items of a list. -/
def itemKey (key : String) : String :=
  key ++ "[]"

/-- The key of a field of an inner object. -/
def fieldKey (key name : String) : String :=
  key ++ "[" ++ name ++ "]"

mutual

/-- The pairs of a value under a key. -/
def flatten (key : String) : Json → List Pair
  | .null => []
  | .bool b => [(key, toString b)]
  | .number n => [(key, n.text)]
  | .string s => [(key, s)]
  | .array items => flattenItems (itemKey key) items
  | .object fields => flattenFields key fields

/-- The pairs of the items of a list, all under one key. -/
def flattenItems (key : String) : List Json → List Pair
  | [] => []
  | item :: rest => flatten key item ++ flattenItems key rest

/-- The pairs of the fields of an inner object. -/
def flattenFields (key : String) : List (String × Json) → List Pair
  | [] => []
  | (name, value) :: rest => flatten (fieldKey key name) value ++ flattenFields key rest

end

/-- The pairs of the fields of the outermost object. -/
def ofFields : List (String × Json) → List Pair
  | [] => []
  | (name, value) :: rest => flatten name value ++ ofFields rest

/-- The query of some parameters, which must be an object or null. -/
def encode : Json → Except CallError (List Pair)
  | .null => .ok []
  | .object fields => .ok (ofFields fields)
  | _ => .error .invalidPayload

end Wayfare.Query
