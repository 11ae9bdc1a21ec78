import Wayfare.Proofs.Query.Leaves
import Wayfare.Proofs.Query.Offset

/-!
Parameters with another offset. Of the query only the pairs under the offset change, and of the
parameters only the offset within `page`; a second offset takes the place of the first.
-/
namespace Wayfare

theorem Json.WellFormed.insert {fields : Fields Json} {v : Json} (h : (Json.object fields).WellFormed)
    (hv : v.WellFormed) (name : String) : (Json.object (Fields.insert name v fields)).WellFormed := by
  rw [Json.WellFormed, allFieldsWellFormed_iff] at h ⊢
  refine ⟨h.1.insert name v, fun field hfield => ?_⟩
  rcases Fields.mem_insert hfield with rfl | hfield
  · exact hv
  · exact h.2 field hfield

namespace Query

open Page (offsetKey withOffset fieldsOrNone)

variable {key offset : String} {fields : Fields Json}

/-! ## The pairs beside the offset -/

/-- The pairs whose keys do not begin with the key of the offset. -/
def besideOffset (pairs : List Pair) : List Pair :=
  pairs.filter fun pair => ¬ offsetKey.toList <+: pair.1.toList

theorem prefix_of_mem_flatten {v : Json} {pair : Pair} (h : pair ∈ flatten key v) :
    key.toList <+: pair.1.toList := by
  rw [flatten_eq_map] at h
  obtain ⟨leaf, -, rfl⟩ := List.mem_map.mp h
  exact ⟨(String.join (leaf.1.map brackets)).toList, by simp [keyAt]⟩

theorem besideOffset_flatten_offsetKey (v : Json) : besideOffset (flatten offsetKey v) = [] := by
  refine List.filter_eq_nil_iff.mpr fun pair hpair => ?_
  simpa using prefix_of_mem_flatten hpair

theorem besideOffset_flatMap (fields : Fields Json) (f : String × Json → List Pair) :
    besideOffset (fields.flatMap f) = fields.flatMap fun field => besideOffset (f field) :=
  List.filter_flatMap

/-- Within `page` an offset changes no other pair. -/
theorem besideOffset_page (h : fields.Ordered) (offset : String) :
    besideOffset (flatten "page" (.object (Fields.insert "offset" (.string offset) fields))) =
      besideOffset (flatten "page" (.object fields)) := by
  have hkey : fieldKey "page" "offset" = offsetKey := fieldKey_page_eq_iff.mpr rfl
  simp only [flatten, flattenFields_eq, besideOffset_flatMap]
  apply h.flatMap_insert
  simp only [hkey, besideOffset_flatten_offsetKey]
  cases Fields.find? "offset" fields <;> rfl

/-! ## The parameters beside the offset -/

/-- The fields of the parameter `page`, none if it is absent or no object. -/
def pageFields (fields : Fields Json) : Fields Json :=
  fieldsOrNone ((Fields.find? "page" fields).getD .null)

theorem withOffset_object (fields : Fields Json) (offset : String) :
    withOffset (.object fields) offset = .object (Fields.insert "page"
      (.object (Fields.insert "offset" (.string offset) (pageFields fields))) fields) := rfl

theorem find?_pageFields (fields : Fields Json) (name : String) :
    Fields.find? name (pageFields fields) =
      (Fields.find? "page" fields).bind (Json.field? name) := by
  rw [pageFields]
  cases Fields.find? "page" fields with
  | none => rfl
  | some v => cases v <;> rfl

theorem wellFormed_fieldsOrNone {j : Json} (h : j.WellFormed) :
    (Json.object (fieldsOrNone j)).WellFormed := by
  cases j with
  | object fields => exact h
  | _ => exact ⟨.nil, trivial⟩

theorem wellFormed_pageFields (h : (Json.object fields).WellFormed) :
    (Json.object (pageFields fields)).WellFormed :=
  wellFormed_fieldsOrNone (wellFormed_page h)

/-- Parameters that differ from others at most in the offset within `page`, which has the value. -/
structure Repaged (fields : Fields Json) (offset : String) (again : Fields Json) : Prop where
  wellFormed : (Json.object again).WellFormed
  others : ∀ name, name ≠ "page" → Fields.find? name again = Fields.find? name fields
  page : ∃ inner, Fields.find? "page" again = some (.object inner) ∧
    Fields.find? "offset" inner = some (.string offset) ∧
    ∀ name, name ≠ "offset" →
      Fields.find? name inner = (Fields.find? "page" fields).bind (Json.field? name)

theorem repaged_withOffset (h : (Json.object fields).WellFormed) (offset : String) :
    ∃ again, withOffset (.object fields) offset = .object again ∧ Repaged fields offset again := by
  have hinner := (wellFormed_pageFields h).insert (v := .string offset) trivial "offset"
  refine ⟨_, withOffset_object fields offset, h.insert hinner "page", fun name hname => ?_,
    _, Fields.find?_insert_self .., Fields.find?_insert_self .., fun name hname => ?_⟩
  · exact Fields.find?_insert_of_ne hname.symm ..
  · rw [Fields.find?_insert_of_ne hname.symm, find?_pageFields]

/-- Where `page` is absent, null or an object, an offset changes no other pair of the query. -/
theorem besideOffset_withOffset (h : (Json.object fields).WellFormed)
    (hpage : ∀ v, Fields.find? "page" fields = some v → v = .null ∨ ∃ inner, v = .object inner)
    (offset : String) :
    ∃ pairs again, encode (.object fields) = .ok pairs ∧
      encode (withOffset (.object fields) offset) = .ok again ∧
      besideOffset again = besideOffset pairs := by
  have hinner := wellFormed_pageFields h
  rw [Json.WellFormed] at h hinner
  rw [withOffset_object]
  refine ⟨_, _, rfl, rfl, ?_⟩
  simp only [ofFields_eq, besideOffset_flatMap]
  refine h.1.flatMap_insert _ ?_
  rw [besideOffset_page hinner.1, pageFields]
  cases hfind : Fields.find? "page" fields with
  | none => rfl
  | some v => rcases hpage v hfind with rfl | ⟨inner, rfl⟩ <;> rfl

/-- A replay keeps every other parameter. Where `page` is absent, null or an object, the parameters with
another offset differ at most in that offset, and their queries only in pairs under its key. Of two
offsets, in any parameters, the second counts. -/
theorem replay_keeps_parameters :
    (∀ {fields : Fields Json}, (Json.object fields).WellFormed →
      (∀ v, Fields.find? "page" fields = some v → v = .null ∨ ∃ inner, v = .object inner) →
      ∀ offset : String,
        (∃ pairs again, encode (.object fields) = .ok pairs ∧
          encode (withOffset (.object fields) offset) = .ok again ∧
          besideOffset again = besideOffset pairs) ∧
        ∃ again, withOffset (.object fields) offset = .object again ∧ Repaged fields offset again) ∧
    ∀ (params : Json) (offset later : String),
      withOffset (withOffset params offset) later = withOffset params later :=
  ⟨fun h hpage offset => ⟨besideOffset_withOffset h hpage offset, repaged_withOffset h offset⟩,
    Page.withOffset_withOffset⟩

/-- An offset that was an object, and a parameter that is named like its key. -/
theorem replay_of_odd_offset :
    let search : Fields Json := [("keyword", .string "LON"),
      ("page", .object [("limit", .ofNat 10), ("offset", .object [("x", .bool true)])]),
      ("page[offset]", .string "0"), ("sort", .array [.string "a"])]
    (Json.object search).WellFormed ∧
      (∀ v, Fields.find? "page" search = some v → v = .null ∨ ∃ inner, v = .object inner) ∧
      ∃ pairs again, encode (.object search) = .ok pairs ∧
        encode (withOffset (.object search) "25") = .ok again ∧
        besideOffset again = besideOffset pairs ∧
        pairs = [("keyword", "LON"), ("page[limit]", "10"), ("page[offset][x]", "true"),
          ("page[offset]", "0"), ("sort[]", "a")] ∧
        again = [("keyword", "LON"), ("page[limit]", "10"), ("page[offset]", "25"),
          ("page[offset]", "0"), ("sort[]", "a")] := by
  intro search
  have hsearch : (Json.object search).WellFormed := by
    simp only [search, Json.WellFormed, Json.allFieldsWellFormed, Json.allWellFormed, Json.ofNat,
      Fields.Ordered, Fields.names]
    decide
  have hpage : ∀ v, Fields.find? "page" search = some v → v = .null ∨ ∃ inner, v = .object inner := by
    intro v hv
    obtain rfl := Option.some.inj hv
    exact .inr ⟨_, rfl⟩
  obtain ⟨⟨pairs, again, hpairs, hagain, hbeside⟩, -⟩ :=
    replay_keeps_parameters.1 hsearch hpage "25"
  exact ⟨hsearch, hpage, pairs, again, hpairs, hagain, hbeside,
    (Except.ok.inj hpairs).symm.trans rfl, (Except.ok.inj hagain).symm.trans rfl⟩

end Query

end Wayfare
