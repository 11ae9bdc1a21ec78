import Wayfare.Decimal.Double
import Wayfare.Fields

/-!
Documents: the values that bodies and parameters are made of.
-/
namespace Wayfare

/-- A number of a document: a whole number that fits sixty-four bits, or a double. -/
inductive Number where
  | whole (n : Int)
  | double (d : Double)
  deriving DecidableEq, Repr

/-- A document. The fields of an object stand in the order of their names. -/
inductive Json where
  | null
  | bool (b : Bool)
  | number (n : Number)
  | string (s : String)
  | array (items : List Json)
  | object (fields : List (String × Json))
  deriving Repr

instance : Inhabited Json := ⟨.null⟩

namespace Number

/-- The text of a number. -/
def text : Number → String
  | .whole n => toString n
  | .double d => d.text

def ofNat (n : Nat) : Number := .whole n

end Number

namespace Json

/-- A whole number as a document. -/
def ofNat (n : Nat) : Json := .number (.ofNat n)

/-- A whole number as a document. -/
def ofInt (n : Int) : Json := .number (.whole n)

/-- An object of the given fields, in whatever order they are given. -/
def ofFields (pairs : List (String × Json)) : Json := .object (Fields.ofList pairs)

/-- A value, or null in its absence. -/
def ofOption (f : α → Json) : Option α → Json
  | none => .null
  | some a => f a

/-- The value under a name; only objects have any. -/
def field? (name : String) : Json → Option Json
  | .object fields => Fields.find? name fields
  | _ => none

def asString? : Json → Option String
  | .string s => some s
  | _ => none

mutual

/-- Every object in the document has its fields in order, each name once. -/
def WellFormed : Json → Prop
  | .array items => allWellFormed items
  | .object fields => Fields.Ordered fields ∧ allFieldsWellFormed fields
  | _ => True

def allWellFormed : List Json → Prop
  | [] => True
  | item :: rest => item.WellFormed ∧ allWellFormed rest

def allFieldsWellFormed : List (String × Json) → Prop
  | [] => True
  | (_, value) :: rest => value.WellFormed ∧ allFieldsWellFormed rest

end

theorem allWellFormed_iff {items : List Json} :
    allWellFormed items ↔ ∀ item ∈ items, item.WellFormed := by
  induction items with
  | nil => simp [allWellFormed]
  | cons item rest ih => simp [allWellFormed, ih]

theorem allFieldsWellFormed_iff {fields : List (String × Json)} :
    allFieldsWellFormed fields ↔ ∀ field ∈ fields, field.2.WellFormed := by
  induction fields with
  | nil => simp [allFieldsWellFormed]
  | cons field rest ih => simp [allFieldsWellFormed, ih]

theorem wellFormed_of_find? {name : String} {v : Json} {fields : Fields Json}
    (h : allFieldsWellFormed fields) (hv : Fields.find? name fields = some v) : v.WellFormed :=
  allFieldsWellFormed_iff.mp h (name, v) (Fields.mem_of_find? hv)

end Json

end Wayfare
