import Wayfare.Error
import Wayfare.Text.Blank

/-!
Request methods, and the three verbs whose parameters can be placed.
-/
namespace Wayfare

/-- The characters of a method name. -/
def isMethodChar (c : Char) : Bool :=
  ('A' ≤ c && c ≤ 'Z') || ('a' ≤ c && c ≤ 'z') || ('0' ≤ c && c ≤ '9') ||
    "!#$%&'*+-.^_`|~".toList.contains c

/-- A method name: not empty, and made of token characters. -/
def isMethodName (s : String) : Bool :=
  !s.isEmpty && s.toList.all isMethodChar

/-- A request method. -/
structure Method where
  name : String
  isName : isMethodName name = true
  deriving DecidableEq

theorem Method.eq_of_name {m n : Method} (h : m.name = n.name) : m = n := by
  cases m
  cases n
  cases h
  rfl

/-- The method of a name. -/
def Method.ofName? (name : String) : Option Method :=
  if h : isMethodName name = true then some ⟨name, h⟩ else none

/-- The verbs of the interface. -/
inductive Verb where
  | get
  | post
  | delete
  deriving DecidableEq, Repr

namespace Verb

def name : Verb → String
  | .get => "GET"
  | .post => "POST"
  | .delete => "DELETE"

def method : Verb → Method
  | .get => ⟨"GET", by decide⟩
  | .post => ⟨"POST", by decide⟩
  | .delete => ⟨"DELETE", by decide⟩

/-- Parameters travel in the query of a get or delete, and in the body of a post. -/
def usesQuery : Verb → Bool
  | .post => false
  | .get | .delete => true

/-- The verb with exactly this name. -/
def ofName? (s : String) : Option Verb :=
  if s = "GET" then some .get
  else if s = "POST" then some .post
  else if s = "DELETE" then some .delete
  else none

/-- The verb of a method; names are compared exactly. -/
def ofMethod (m : Method) : Except CallError Verb :=
  match ofName? m.name with
  | some v => .ok v
  | none => .error (.unsupportedMethod m.name)

/-- The verb of a text; ASCII letters are compared in either case. -/
def ofText (s : String) : Except CallError Verb :=
  match ofName? (s.map Char.toUpper) with
  | some v => .ok v
  | none => .error (.unsupportedMethod s)

theorem ofName?_name (v : Verb) : ofName? v.name = some v := by
  cases v <;> decide

theorem method_name (v : Verb) : v.method.name = v.name := by
  cases v <;> rfl

theorem name_of_ofName? {s : String} {v : Verb} (h : ofName? s = some v) : v.name = s := by
  unfold ofName? at h
  split at h
  · next hs => cases h; exact hs.symm
  · split at h
    · next hs => cases h; exact hs.symm
    · split at h
      · next hs => cases h; exact hs.symm
      · cases h

theorem ofMethod_eq_ok_iff {m : Method} {v : Verb} : ofMethod m = .ok v ↔ v.method = m := by
  constructor
  · intro h
    unfold ofMethod at h
    split at h
    · next w hw =>
      cases h
      exact Method.eq_of_name ((method_name v).trans (name_of_ofName? hw))
    · cases h
  · rintro rfl
    cases v <;> rfl

theorem ofMethod_of_forall_ne {m : Method} (h : ∀ v : Verb, v.name ≠ m.name) :
    ofMethod m = .error (.unsupportedMethod m.name) := by
  unfold ofMethod
  cases hv : ofName? m.name with
  | none => rfl
  | some v => exact absurd (name_of_ofName? hv) (h v)

end Verb

end Wayfare
