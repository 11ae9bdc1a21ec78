import Wayfare.Proofs.Query.Keys

/-!
What a query tells of its parameters. Nulls and empty containers leave no trace in it, and a number or a
truth value reads like its text; what is left is the gist. Where no name holds a bracket, no inner name
is empty and lists hold no containers, parameters have the same query exactly if they have the same gist.
-/
namespace Wayfare

/-! ## The gist -/

namespace Json

/-- Null, or a container without parts. -/
def isVoid : Json → Bool
  | .null | .array [] | .object [] => true
  | _ => false

mutual

/-- The value without the voids in it, however deep, and with texts for numbers and truth values. -/
def gist : Json → Json
  | .null => .null
  | .bool b => .string (toString b)
  | .number n => .string n.text
  | .string s => .string s
  | .array items => .array (gistItems items)
  | .object fields => .object (gistFields fields)

def gistItems : List Json → List Json
  | [] => []
  | item :: rest => if item.gist.isVoid then gistItems rest else item.gist :: gistItems rest

def gistFields : List (String × Json) → List (String × Json)
  | [] => []
  | (name, value) :: rest =>
    if value.gist.isVoid then gistFields rest else (name, value.gist) :: gistFields rest

end

/-- Null, or a value without parts. -/
def isFlat : Json → Bool
  | .array _ | .object _ => false
  | _ => true

/-- A name without brackets. -/
def PlainName (name : String) : Prop :=
  '[' ∉ name.toList ∧ ']' ∉ name.toList

mutual

/-- Inner objects have plain names, none of them empty, and lists hold no containers. -/
def Legible : Json → Prop
  | .array items => ∀ item ∈ items, item.isFlat = true
  | .object fields => allFieldsLegible fields
  | _ => True

def allFieldsLegible : List (String × Json) → Prop
  | [] => True
  | (name, value) :: rest =>
    (PlainName name ∧ name ≠ "") ∧ value.Legible ∧ allFieldsLegible rest

end

theorem allFieldsLegible_iff {fields : List (String × Json)} :
    allFieldsLegible fields ↔
      ∀ field ∈ fields, (PlainName field.1 ∧ field.1 ≠ "") ∧ field.2.Legible := by
  induction fields with
  | nil => simp [allFieldsLegible]
  | cons field rest ih => simp [allFieldsLegible, ih, and_assoc]

end Json

namespace Query

open Json (PlainName isVoid gistItems gistFields allFieldsLegible)

variable {key name : String} {v w : Json} {fields fields' : Fields Json}

/-! ## The gist has the query of the value -/

mutual

theorem flatten_eq_nil_iff (key : String) :
    ∀ v : Json, flatten key v = [] ↔ v.gist.isVoid = true
  | .null => by simp [flatten, Json.gist, isVoid]
  | .bool _ => by simp [flatten, Json.gist, isVoid]
  | .number _ => by simp [flatten, Json.gist, isVoid]
  | .string _ => by simp [flatten, Json.gist, isVoid]
  | .array items => by
    have hvoid : (Json.array (gistItems items)).isVoid = true ↔ gistItems items = [] := by
      cases gistItems items <;> simp [isVoid]
    rw [flatten, Json.gist, hvoid, flattenItems_eq_nil_iff]
  | .object fields => by
    have hvoid : (Json.object (gistFields fields)).isVoid = true ↔ gistFields fields = [] := by
      cases gistFields fields <;> simp [isVoid]
    rw [flatten, Json.gist, hvoid, flattenFields_eq_nil_iff]

theorem flattenItems_eq_nil_iff (key : String) :
    ∀ items : List Json, flattenItems key items = [] ↔ gistItems items = []
  | [] => by simp [flattenItems, gistItems]
  | item :: rest => by
    rw [flattenItems, gistItems, List.append_eq_nil_iff, flatten_eq_nil_iff key item,
      flattenItems_eq_nil_iff key rest]
    split <;> simp [*]

theorem flattenFields_eq_nil_iff (key : String) :
    ∀ fields : List (String × Json), flattenFields key fields = [] ↔ gistFields fields = []
  | [] => by simp [flattenFields, gistFields]
  | (name, value) :: rest => by
    rw [flattenFields, gistFields, List.append_eq_nil_iff,
      flatten_eq_nil_iff (fieldKey key name) value, flattenFields_eq_nil_iff key rest]
    split <;> simp [*]

end

mutual

theorem flatten_gist (key : String) : ∀ v : Json, flatten key v.gist = flatten key v
  | .null => rfl
  | .bool _ => by simp [flatten, Json.gist]
  | .number _ => by simp [flatten, Json.gist]
  | .string _ => rfl
  | .array items => by rw [Json.gist, flatten, flatten, flattenItems_gistItems]
  | .object fields => by rw [Json.gist, flatten, flatten, flattenFields_gistFields]

theorem flattenItems_gistItems (key : String) :
    ∀ items : List Json, flattenItems key (gistItems items) = flattenItems key items
  | [] => rfl
  | item :: rest => by
    rw [gistItems, flattenItems]
    split
    · next hvoid =>
      rw [(flatten_eq_nil_iff key item).mpr hvoid, flattenItems_gistItems key rest, List.nil_append]
    · rw [flattenItems, flatten_gist key item, flattenItems_gistItems key rest]

theorem flattenFields_gistFields (key : String) :
    ∀ fields : List (String × Json),
      flattenFields key (gistFields fields) = flattenFields key fields
  | [] => rfl
  | (name, value) :: rest => by
    rw [gistFields, flattenFields]
    split
    · next hvoid =>
      rw [(flatten_eq_nil_iff (fieldKey key name) value).mpr hvoid,
        flattenFields_gistFields key rest, List.nil_append]
    · rw [flattenFields, flatten_gist (fieldKey key name) value, flattenFields_gistFields key rest]

end

theorem ofFields_gistFields (fields : Fields Json) : ofFields (gistFields fields) = ofFields fields := by
  induction fields with
  | nil => rfl
  | cons field rest ih =>
    obtain ⟨name, value⟩ := field
    rw [gistFields, ofFields]
    split
    · next hvoid => rw [(flatten_eq_nil_iff name value).mpr hvoid, ih, List.nil_append]
    · rw [ofFields, flatten_gist, ih]

/-! ## Which field a key belongs to -/

/-- A key, or one that goes on behind it. -/
def Within (key longer : String) : Prop :=
  longer = key ∨ Under key longer

theorem within_iff {longer : String} :
    Within key longer ↔ ∃ rest : List Char, longer.toList = key.toList ++ rest ∧
      rest.head?.all (· = '[') := by
  constructor
  · rintro (rfl | ⟨rest, hrest⟩)
    · exact ⟨[], by simp⟩
    · exact ⟨'[' :: rest, hrest, by simp⟩
  · rintro ⟨rest, hrest, hhead⟩
    cases rest with
    | nil => exact .inl (String.toList_injective (by simpa using hrest))
    | cons c rest =>
      obtain rfl : c = '[' := by simpa using hhead
      exact .inr ⟨rest, hrest⟩

instance (key longer : String) : Decidable (Within key longer) :=
  decidable_of_iff (longer = key ∨ (key.toList ++ ['[']) <+: longer.toList) <|
    or_congr_right ⟨fun ⟨rest, h⟩ => ⟨rest, by simp [← h]⟩, fun ⟨rest, h⟩ => ⟨rest, by simp [h]⟩⟩

theorem within_of_mem_flatten {p : Pair} (hp : p ∈ flatten key v) : Within key p.1 := by
  cases hv : scalarText? v with
  | some text =>
    rw [flatten_of_scalarText? hv, List.mem_singleton] at hp
    exact .inl (congrArg Prod.fst hp)
  | none => exact .inr (under_of_mem_flatten key p v hv hp)

/-- Keys for the fields of one object, by their names. -/
structure Apart (keyOf : String → String) : Prop where
  eq_of_within : ∀ {name other longer : String}, PlainName name → PlainName other →
    Within (keyOf name) longer → Within (keyOf other) longer → name = other

theorem apart_id : Apart id where
  eq_of_within {name other longer} hname hother h h' := by
    have hfront : ∀ {n : String}, PlainName n → Within n longer →
        longer.toList.takeWhile (· ≠ '[') = n.toList := by
      intro n hn hwithin
      obtain ⟨rest, hrest, hhead⟩ := within_iff.mp hwithin
      have hkeep : ∀ c ∈ n.toList, decide (c ≠ '[') = true := by
        intro c hc
        have hne : c ≠ '[' := fun h => hn.1 (h ▸ hc)
        simp [hne]
      rw [hrest, List.takeWhile_append_of_pos hkeep]
      cases rest with
      | nil => simp
      | cons c rest =>
        obtain rfl : c = '[' := by simpa using hhead
        simp
    exact String.toList_injective ((hfront hname h).symm.trans (hfront hother h'))

theorem apart_fieldKey (key : String) : Apart (fieldKey key) where
  eq_of_within {name other longer} hname hother h h' := by
    have hfront : ∀ {n : String}, PlainName n → Within (fieldKey key n) longer →
        (longer.toList.drop (key.toList.length + 1)).takeWhile (· ≠ ']') = n.toList := by
      intro n hn hwithin
      obtain ⟨rest, hrest, -⟩ := within_iff.mp hwithin
      have hkeep : ∀ c ∈ n.toList, decide (c ≠ ']') = true := by
        intro c hc
        have hne : c ≠ ']' := fun h => hn.2 (h ▸ hc)
        simp [hne]
      have hbehind : longer.toList.drop (key.toList.length + 1) = n.toList ++ (']' :: rest) := by
        rw [hrest, toList_fieldKey]
        simp [List.drop_append]
      rw [hbehind, List.takeWhile_append_of_pos hkeep]
      simp
    exact String.toList_injective ((hfront hname h).symm.trans (hfront hother h'))

/-- The pairs of some fields. -/
def pairsBy (keyOf : String → String) (fields : Fields Json) : List Pair :=
  fields.flatMap fun field => flatten (keyOf field.1) field.2

/-- The value under a name, or null. -/
def valueOf (name : String) (fields : Fields Json) : Json :=
  (Fields.find? name fields).getD .null

/-- The pairs that belong to a name are those of the value under it. -/
theorem filter_pairsBy {keyOf : String → String} (apart : Apart keyOf) (hordered : fields.Ordered)
    (hplain : ∀ field ∈ fields, PlainName field.1) (hname : PlainName name) :
    (pairsBy keyOf fields).filter (fun p => Within (keyOf name) p.1) =
      flatten (keyOf name) (valueOf name fields) := by
  have hfield : ∀ field ∈ fields,
      (flatten (keyOf field.1) field.2).filter (fun p => Within (keyOf name) p.1) =
        if field.1 = name then flatten (keyOf name) field.2 else [] := by
    intro field hmem
    split
    · next heq =>
      rw [heq, List.filter_eq_self]
      exact fun p hp => decide_eq_true (within_of_mem_flatten hp)
    · next hne =>
      rw [List.filter_eq_nil_iff]
      intro p hp hwithin
      exact hne (apart.eq_of_within (hplain field hmem) hname (within_of_mem_flatten hp)
        (of_decide_eq_true hwithin))
  rw [pairsBy, List.filter_flatMap, List.flatMap_def, List.map_congr_left hfield, ← List.flatMap_def,
    hordered.flatMap_one, valueOf]
  cases Fields.find? name fields <;> rfl

/-! ## Objects with the same pairs -/

theorem gistFields_eq_filter (fields : Fields Json) :
    gistFields fields =
      (fields.map fun field => (field.1, field.2.gist)).filter (!·.2.isVoid) := by
  induction fields with
  | nil => rfl
  | cons field rest ih =>
    obtain ⟨name, value⟩ := field
    rw [gistFields, ih]
    split <;> simp [*]

theorem ordered_gistFields (h : fields.Ordered) : Fields.Ordered (gistFields fields) := by
  have hsublist : List.Sublist (Fields.names (gistFields fields)) fields.names := by
    have hnames : fields.names = (fields.map fun field => (field.1, field.2.gist)).map (·.1) := by
      rw [List.map_map]
      rfl
    rw [gistFields_eq_filter, hnames]
    exact List.filter_sublist.map _
  exact List.Pairwise.sublist hsublist h

theorem find?_gistFields (h : fields.Ordered) (name : String) :
    Fields.find? name (gistFields fields) =
      if (valueOf name fields).gist.isVoid then none else some (valueOf name fields).gist := by
  induction fields with
  | nil => rfl
  | cons field rest ih =>
    obtain ⟨n, value⟩ := field
    obtain ⟨hfirst, hrest⟩ := Fields.ordered_cons.mp h
    by_cases hn : n = name
    · subst hn
      have hnone : Fields.find? n (gistFields rest) = none := by
        rw [ih hrest, valueOf, Fields.find?_eq_none_of_lt hfirst (String.le_refl n)]
        rfl
      have hvalue : valueOf n ((n, value) :: rest) = value := by simp [valueOf, Fields.find?]
      rw [hvalue, gistFields]
      split
      · exact hnone
      · simp [Fields.find?]
    · have hvalue : valueOf name ((n, value) :: rest) = valueOf name rest := by
        simp [valueOf, Fields.find?, hn]
      rw [hvalue, ← ih hrest, gistFields]
      split <;> simp [Fields.find?, hn]

/-- Two values that a query cannot tell apart: they have the same gist, or leave no trace. -/
def Alike (v w : Json) : Prop :=
  v.gist = w.gist ∨ v.gist.isVoid = true ∧ w.gist.isVoid = true

theorem alike_of_flatten_eq_nil (h : flatten key v = flatten key w) (hv : flatten key v = []) :
    Alike v w :=
  .inr ⟨(flatten_eq_nil_iff key v).mp hv, (flatten_eq_nil_iff key w).mp (h ▸ hv)⟩

theorem gistFields_eq_of_alike (h : fields.Ordered) (h' : fields'.Ordered)
    (halike : ∀ name, Alike (valueOf name fields) (valueOf name fields')) :
    gistFields fields = gistFields fields' := by
  refine (ordered_gistFields h).ext (ordered_gistFields h') fun name => ?_
  rw [find?_gistFields h, find?_gistFields h']
  rcases halike name with heq | ⟨hvoid, hvoid'⟩
  · rw [heq]
  · rw [if_pos hvoid, if_pos hvoid']

theorem valueOf_of_not_mem (h : ∀ field ∈ fields, field.1 ≠ name) : valueOf name fields = .null := by
  have hnone : Fields.find? name fields = none := by
    refine Fields.find?_eq_none_iff.mpr fun hmem => ?_
    obtain ⟨field, hfield, rfl⟩ := List.mem_map.mp hmem
    exact h field hfield rfl
  rw [valueOf, hnone, Option.getD_none]

/-- Fields with the same pairs have values that are alike, if values with the same pairs are. -/
theorem gistFields_eq_of_pairsBy {keyOf : String → String} (apart : Apart keyOf)
    (h : fields.Ordered) (h' : fields'.Ordered) (hplain : ∀ field ∈ fields, PlainName field.1)
    (hplain' : ∀ field ∈ fields', PlainName field.1)
    (hvalue : ∀ name key, flatten key (valueOf name fields) = flatten key (valueOf name fields') →
      Alike (valueOf name fields) (valueOf name fields'))
    (hpairs : pairsBy keyOf fields = pairsBy keyOf fields') :
    gistFields fields = gistFields fields' := by
  refine gistFields_eq_of_alike h h' fun name => ?_
  by_cases hname : PlainName name
  · refine hvalue name (keyOf name) ?_
    rw [← filter_pairsBy apart h hplain hname, ← filter_pairsBy apart h' hplain' hname, hpairs]
  · -- no field has such a name
    have hne : ∀ field ∈ fields, field.1 ≠ name := fun field hmem heq =>
      hname (heq ▸ hplain field hmem)
    have hne' : ∀ field ∈ fields', field.1 ≠ name := fun field hmem heq =>
      hname (heq ▸ hplain' field hmem)
    rw [valueOf_of_not_mem hne, valueOf_of_not_mem hne']
    exact .inl rfl

/-! ## Values with the same pairs -/

/-- What the parts of a value are: none, items or fields. -/
def partsOf : Json → Nat
  | .array _ => 1
  | .object _ => 2
  | _ => 0

/-- The same, as the key of a pair shows it. -/
def partsIn (key longer : String) : Nat :=
  if longer = key then 0 else if longer = itemKey key then 1 else 2

theorem itemKey_ne (key : String) : itemKey key ≠ key := by
  intro h
  have hunder := under_itemKey key
  rw [h] at hunder
  exact not_under_self key hunder

theorem flattenItems_of_flat (key : String) {items : List Json}
    (h : ∀ item ∈ items, item.isFlat = true) :
    flattenItems key items = (items.filterMap scalarText?).map (key, ·) := by
  induction items with
  | nil => rfl
  | cons item rest ih =>
    obtain ⟨hitem, hrest⟩ := List.forall_mem_cons.mp h
    rw [flattenItems, ih hrest]
    cases item with
    | array _ | object _ => simp [Json.isFlat] at hitem
    | _ => simp [flatten, List.filterMap_cons, scalarText?]

theorem gistItems_of_flat {items : List Json} (h : ∀ item ∈ items, item.isFlat = true) :
    gistItems items = (items.filterMap scalarText?).map .string := by
  induction items with
  | nil => rfl
  | cons item rest ih =>
    obtain ⟨hitem, hrest⟩ := List.forall_mem_cons.mp h
    rw [gistItems, ih hrest]
    cases item with
    | array _ | object _ => simp [Json.isFlat] at hitem
    | _ => simp [Json.gist, isVoid, List.filterMap_cons, scalarText?]

theorem not_within_itemKey (key : String) (hname : PlainName name) (hne : name ≠ "") :
    ¬ Within (fieldKey key name) (itemKey key) := by
  intro h
  obtain ⟨rest, hrest, -⟩ := within_iff.mp h
  have hbehind : [']'] = name.toList ++ (']' :: rest) := by
    simpa [itemKey, toList_fieldKey] using hrest
  cases hcs : name.toList with
  | nil => exact hne (String.toList_injective hcs)
  | cons c cs =>
    rw [hcs] at hbehind
    have hc : ']' = c := (List.cons.inj hbehind).1
    exact hname.2 (by rw [hcs, hc]; exact List.mem_cons_self)

theorem partsIn_of_mem_flatten {p : Pair} (hv : v.Legible) (hp : p ∈ flatten key v) :
    partsIn key p.1 = partsOf v := by
  cases v with
  | null => simp [flatten] at hp
  | bool _ | number _ | string _ =>
    rw [flatten, List.mem_singleton] at hp
    simp [partsIn, partsOf, hp]
  | array items =>
    rw [flatten, flattenItems_of_flat _ (by simpa [Json.Legible] using hv)] at hp
    obtain ⟨text, -, rfl⟩ := List.mem_map.mp hp
    simp [partsIn, partsOf, itemKey_ne]
  | object fields =>
    rw [Json.Legible, Json.allFieldsLegible_iff] at hv
    rw [flatten] at hp
    have hkey : p.1 ≠ key := fun h => not_under_self key (h ▸ under_of_mem_flattenFields key p fields hp)
    rw [flattenFields_eq] at hp
    obtain ⟨field, hfield, hp⟩ := List.mem_flatMap.mp hp
    obtain ⟨⟨hname, hne⟩, -⟩ := hv field hfield
    have hitem : p.1 ≠ itemKey key := fun h =>
      not_within_itemKey key hname hne (h ▸ within_of_mem_flatten hp)
    simp [partsIn, partsOf, hkey, hitem]

theorem partsOf_eq (hv : v.Legible) (hw : w.Legible) (h : flatten key v = flatten key w)
    (hne : flatten key v ≠ []) : partsOf v = partsOf w := by
  obtain ⟨p, hp⟩ := List.exists_mem_of_ne_nil _ hne
  rw [← partsIn_of_mem_flatten hv hp, ← partsIn_of_mem_flatten hw (h ▸ hp)]

theorem gist_of_scalarText? {text : String} (h : scalarText? v = some text) :
    v.gist = .string text := by
  cases v with
  | null | array _ | object _ => simp [scalarText?] at h
  | _ =>
    obtain rfl := Option.some.inj h
    simp [Json.gist]

theorem alike_of_scalarText? {text : String} (hv : scalarText? v = some text)
    (h : flatten key v = flatten key w) : Alike v w := by
  rw [flatten_of_scalarText? hv] at h
  cases hw : scalarText? w with
  | some text' =>
    rw [flatten_of_scalarText? hw] at h
    obtain rfl : text = text' := by simpa using h
    exact .inl (by rw [gist_of_scalarText? hv, gist_of_scalarText? hw])
  | none =>
    -- the key of a value with parts is never its own
    have hmem : (key, text) ∈ flatten key w := h ▸ List.mem_singleton_self _
    exact absurd (under_of_mem_flatten key _ w hw hmem) (not_under_self key)

theorem alike_of_array {items : List Json} (hv : (Json.array items).Legible) (hw : w.Legible)
    (h : flatten key (.array items) = flatten key w) : Alike (.array items) w := by
  by_cases hnil : flatten key (.array items) = []
  · exact alike_of_flatten_eq_nil h hnil
  · have hparts := partsOf_eq hv hw h hnil
    cases w with
    | array others =>
      rw [Json.Legible] at hv hw
      rw [flatten, flatten, flattenItems_of_flat _ hv, flattenItems_of_flat _ hw] at h
      have htexts := (List.map_inj_right fun _ _ htext => (Prod.mk.inj htext).2).mp h
      exact .inl (by rw [Json.gist, Json.gist, gistItems_of_flat hv, gistItems_of_flat hw, htexts])
    | _ => simp [partsOf] at hparts

theorem valueOf_of_forall {P : Json → Prop} (hnull : P .null) (h : ∀ field ∈ fields, P field.2)
    (name : String) : P (valueOf name fields) := by
  induction fields with
  | nil => exact hnull
  | cons field rest ih =>
    obtain ⟨n, value⟩ := field
    obtain ⟨hvalue, hrest⟩ := List.forall_mem_cons.mp h
    by_cases hn : n = name
    · simpa [valueOf, Fields.find?, hn] using hvalue
    · simpa [valueOf, Fields.find?, hn] using ih hrest

theorem wellFormed_valueOf (h : Json.allFieldsWellFormed fields) (name : String) :
    (valueOf name fields).WellFormed :=
  valueOf_of_forall trivial (Json.allFieldsWellFormed_iff.mp h) name

theorem legible_valueOf (h : allFieldsLegible fields) (name : String) :
    (valueOf name fields).Legible :=
  valueOf_of_forall trivial (fun field hfield => (Json.allFieldsLegible_iff.mp h field hfield).2) name

mutual

/-- Values with the same pairs are alike. -/
theorem alike_of_flatten_eq (key : String) :
    ∀ v w : Json, v.WellFormed → w.WellFormed → v.Legible → w.Legible →
      flatten key v = flatten key w → Alike v w
  | .null, _, _, _, _, _, h => alike_of_flatten_eq_nil h rfl
  | .bool _, _, _, _, _, _, h => alike_of_scalarText? rfl h
  | .number _, _, _, _, _, _, h => alike_of_scalarText? rfl h
  | .string _, _, _, _, _, _, h => alike_of_scalarText? rfl h
  | .array _, _, _, _, hlv, hlw, h => alike_of_array hlv hlw h
  | .object fields, w, hv, hw, hlv, hlw, h => by
    by_cases hnil : flatten key (.object fields) = []
    · exact alike_of_flatten_eq_nil h hnil
    · have hparts := partsOf_eq hlv hlw h hnil
      cases w with
      | object others =>
        rw [Json.WellFormed] at hv hw
        rw [Json.Legible] at hlv hlw
        rw [flatten, flatten, flattenFields_eq, flattenFields_eq] at h
        refine .inl (congrArg Json.object ?_)
        refine gistFields_eq_of_pairsBy (apart_fieldKey key) hv.1 hw.1
          (fun field hfield => (Json.allFieldsLegible_iff.mp hlv field hfield).1.1)
          (fun field hfield => (Json.allFieldsLegible_iff.mp hlw field hfield).1.1)
          (fun name inner hinner => ?_) h
        exact alike_of_valueOf fields hv.2 hlv name inner _ (wellFormed_valueOf hw.2 name)
          (legible_valueOf hlw name) hinner
      | _ => simp [partsOf] at hparts

theorem alike_of_valueOf :
    ∀ fields : List (String × Json), Json.allFieldsWellFormed fields → allFieldsLegible fields →
      ∀ (name key : String) (w : Json), w.WellFormed → w.Legible →
        flatten key (valueOf name fields) = flatten key w → Alike (valueOf name fields) w
  | [], _, _, _, _, _, _, _, h => alike_of_flatten_eq_nil h rfl
  | (n, value) :: rest, hv, hlv, name, key, w, hw, hlw, h => by
    rw [Json.allFieldsWellFormed] at hv
    rw [allFieldsLegible] at hlv
    by_cases hn : n = name
    · have hvalue : valueOf name ((n, value) :: rest) = value := by
        simp [valueOf, Fields.find?, hn]
      rw [hvalue] at h ⊢
      exact alike_of_flatten_eq key value w hv.1 hw hlv.2.1 hlw h
    · have hvalue : valueOf name ((n, value) :: rest) = valueOf name rest := by
        simp [valueOf, Fields.find?, hn]
      rw [hvalue] at h ⊢
      exact alike_of_valueOf rest hv.2 hlv.2.2 name key w hw hlw h

end

/-! ## Parameters with the same query -/

/-- Parameters whose gist can be told from their query. The outermost names may be empty. -/
def Legible (fields : Fields Json) : Prop :=
  ∀ field ∈ fields, PlainName field.1 ∧ field.2.Legible

/-- Two objects have the same query exactly if they have the same gist. -/
theorem same_pairs_iff_same_gist (h : (Json.object fields).WellFormed)
    (h' : (Json.object fields').WellFormed) (hlegible : Legible fields) (hlegible' : Legible fields') :
    (∃ pairs, encode (.object fields) = .ok pairs ∧ encode (.object fields') = .ok pairs) ↔
      (Json.object fields).gist = (Json.object fields').gist := by
  rw [Json.WellFormed] at h h'
  constructor
  · rintro ⟨pairs, hpairs, hpairs'⟩
    have heq : ofFields fields = ofFields fields' := by
      rw [Except.ok.inj hpairs, Except.ok.inj hpairs']
    rw [ofFields_eq, ofFields_eq] at heq
    refine congrArg Json.object ?_
    refine gistFields_eq_of_pairsBy apart_id h.1 h'.1 (fun field hfield => (hlegible field hfield).1)
      (fun field hfield => (hlegible' field hfield).1) (fun name key hkey => ?_) heq
    exact alike_of_flatten_eq key _ _ (wellFormed_valueOf h.2 name) (wellFormed_valueOf h'.2 name)
      (valueOf_of_forall trivial (fun field hfield => (hlegible field hfield).2) name)
      (valueOf_of_forall trivial (fun field hfield => (hlegible' field hfield).2) name) hkey
  · intro hgist
    rw [Json.gist, Json.gist, Json.object.injEq] at hgist
    refine ⟨ofFields fields, rfl, ?_⟩
    rw [encode, ← ofFields_gistFields fields', ← hgist, ofFields_gistFields]

/-- A search that leaves fields out and one that gives them as null, or as text. -/
theorem same_pairs_for_search :
    let search : Fields Json := [("adults", .ofNat 2), ("max", .null),
      ("page", .object [("limit", .ofNat 10), ("offset", .null)]),
      ("subType", .array [.string "AIRPORT", .null, .string "CITY"])]
    let other : Fields Json := [("adults", .string "2"), ("page", .object [("limit", .string "10")]),
      ("sort", .array []), ("subType", .array [.string "AIRPORT", .string "CITY"])]
    (Json.object search).WellFormed ∧ (Json.object other).WellFormed ∧ Legible search ∧
      Legible other ∧ (Json.object search).gist = (Json.object other).gist ∧
      ∃ pairs, encode (.object search) = .ok pairs ∧ encode (.object other) = .ok pairs := by
  intro search other
  have hsearch : (Json.object search).WellFormed := by
    simp only [search, Json.WellFormed, Json.allFieldsWellFormed, Json.allWellFormed, Json.ofNat,
      Fields.Ordered, Fields.names]
    decide
  have hother : (Json.object other).WellFormed := by
    simp only [other, Json.WellFormed, Json.allFieldsWellFormed, Json.allWellFormed, Fields.Ordered,
      Fields.names]
    decide
  have hlegible : Legible search := by
    simp [search, Legible, Json.Legible, Json.allFieldsLegible, Json.isFlat, PlainName, Json.ofNat]
  have hlegible' : Legible other := by
    simp [other, Legible, Json.Legible, Json.allFieldsLegible, Json.isFlat, PlainName]
  have hgist : (Json.object search).gist = (Json.object other).gist := rfl
  exact ⟨hsearch, hother, hlegible, hlegible', hgist,
    (same_pairs_iff_same_gist hsearch hother hlegible hlegible').mpr hgist⟩

/-- An empty inner name would read like the brackets of a list. -/
example : encode (.object [("a", .object [("", .string "x")])]) =
    encode (.object [("a", .array [.string "x"])]) := rfl

end Query

end Wayfare
