import Wayfare.Query

/-!
The keys of a query. A value without parts gives one pair under its own key; the parts of any other
value give pairs whose keys go on behind that key with a bracket.
-/
namespace Wayfare.Query

variable {key target : String} {v : Json}

/-- The text of a value without parts; null has none. -/
def scalarText? : Json → Option String
  | .bool b => some (toString b)
  | .number n => some n.text
  | .string s => some s
  | _ => none

/-- A key that begins with another one and a bracket behind it. -/
def Under (key longer : String) : Prop :=
  ∃ rest : List Char, longer.toList = key.toList ++ '[' :: rest

theorem not_under_self (key : String) : ¬ Under key key := by
  rintro ⟨rest, h⟩
  have hlength := congrArg List.length h
  simp at hlength

theorem Under.trans {inner longer : String} (h : Under key inner) (h' : Under inner longer) :
    Under key longer := by
  obtain ⟨first, hfirst⟩ := h
  obtain ⟨rest, hrest⟩ := h'
  exact ⟨first ++ '[' :: rest, by rw [hrest, hfirst, List.append_assoc, List.cons_append]⟩

theorem toList_fieldKey (key name : String) :
    (fieldKey key name).toList = key.toList ++ '[' :: (name.toList ++ [']']) := by
  simp [fieldKey]

theorem under_fieldKey (key name : String) : Under key (fieldKey key name) :=
  ⟨_, toList_fieldKey key name⟩

theorem under_itemKey (key : String) : Under key (itemKey key) :=
  ⟨[']'], by simp [itemKey]⟩

/-! ## Where a pair comes from -/

theorem flattenFields_eq (key : String) (fields : Fields Json) :
    flattenFields key fields = fields.flatMap fun f => flatten (fieldKey key f.1) f.2 := by
  induction fields with
  | nil => rfl
  | cons field rest ih => rw [flattenFields, ih, List.flatMap_cons]

theorem ofFields_eq (fields : Fields Json) :
    ofFields fields = fields.flatMap fun f => flatten f.1 f.2 := by
  induction fields with
  | nil => rfl
  | cons field rest ih => rw [ofFields, ih, List.flatMap_cons]

theorem flatten_of_scalarText? {text : String} (h : scalarText? v = some text) :
    flatten key v = [(key, text)] := by
  cases v with
  | bool _ | number _ | string _ =>
    obtain rfl := Option.some.inj h
    simp [flatten]
  | null | array _ | object _ => simp [scalarText?] at h

mutual

/-- The keys of a value with parts go on behind its own key. -/
theorem under_of_mem_flatten (key : String) (p : Pair) :
    ∀ v : Json, scalarText? v = none → p ∈ flatten key v → Under key p.1
  | .null, _, hp => by simp [flatten] at hp
  | .bool _, hv, _ => by simp [scalarText?] at hv
  | .number _, hv, _ => by simp [scalarText?] at hv
  | .string _, hv, _ => by simp [scalarText?] at hv
  | .array items, _, hp => by
    rw [flatten] at hp
    rcases key_of_mem_flattenItems (itemKey key) p items hp with hkey | hunder
    · exact hkey ▸ under_itemKey key
    · exact (under_itemKey key).trans hunder
  | .object fields, _, hp => by
    rw [flatten] at hp
    exact under_of_mem_flattenFields key p fields hp

theorem key_of_mem_flattenItems (key : String) (p : Pair) :
    ∀ items : List Json, p ∈ flattenItems key items → p.1 = key ∨ Under key p.1
  | [], hp => by simp [flattenItems] at hp
  | item :: rest, hp => by
    rw [flattenItems] at hp
    rcases List.mem_append.mp hp with hp | hp
    · cases hitem : scalarText? item with
      | none => exact .inr (under_of_mem_flatten key p item hitem hp)
      | some text =>
        rw [flatten_of_scalarText? hitem, List.mem_singleton] at hp
        exact .inl (congrArg Prod.fst hp)
    · exact key_of_mem_flattenItems key p rest hp

theorem under_of_mem_flattenFields (key : String) (p : Pair) :
    ∀ fields : List (String × Json), p ∈ flattenFields key fields → Under key p.1
  | [], hp => by simp [flattenFields] at hp
  | (name, value) :: rest, hp => by
    rw [flattenFields] at hp
    rcases List.mem_append.mp hp with hp | hp
    · have hfield : Under key (fieldKey key name) := under_fieldKey key name
      cases hvalue : scalarText? value with
      | none => exact hfield.trans (under_of_mem_flatten (fieldKey key name) p value hvalue hp)
      | some text =>
        rw [flatten_of_scalarText? hvalue, List.mem_singleton] at hp
        rw [hp]
        exact hfield
    · exact under_of_mem_flattenFields key p rest hp

end

/-! ## The values under one key -/

/-- The values under a key, in their order. -/
def valuesAt (target : String) (pairs : List Pair) : List String :=
  (pairs.filter (·.1 = target)).map (·.2)

theorem valuesAt_flatMap (target : String) (fields : Fields Json) (f : String × Json → List Pair) :
    valuesAt target (fields.flatMap f) = fields.flatMap fun field => valuesAt target (f field) := by
  simp [valuesAt, List.filter_flatMap, List.map_flatMap]

theorem valuesAt_eq_nil {pairs : List Pair} (h : ∀ p ∈ pairs, p.1 ≠ target) :
    valuesAt target pairs = [] := by
  simpa [valuesAt] using h

/-- Under its own key a value has its text, if it has no parts. -/
theorem valuesAt_flatten_self (key : String) (v : Json) :
    valuesAt key (flatten key v) = (scalarText? v).toList := by
  cases hv : scalarText? v with
  | some text => simp [flatten_of_scalarText? hv, valuesAt]
  | none =>
    refine valuesAt_eq_nil fun p hp heq => ?_
    have hunder := under_of_mem_flatten key p v hv hp
    exact not_under_self key (heq ▸ hunder)

/-- Nothing of a value stands under a key that is not its own and does not go on behind it. -/
theorem valuesAt_flatten_of_ne (hne : key ≠ target) (hunder : ¬ Under key target) (v : Json) :
    valuesAt target (flatten key v) = [] := by
  refine valuesAt_eq_nil fun p hp heq => ?_
  cases hv : scalarText? v with
  | some text =>
    rw [flatten_of_scalarText? hv, List.mem_singleton] at hp
    exact hne (by rw [← heq, hp])
  | none => exact hunder (heq ▸ under_of_mem_flatten key p v hv hp)

end Wayfare.Query
