import Wayfare.Page.Offset
import Wayfare.Proofs.Query.Keys

/-!
The offset in the query of a page. The offset that was set comes first under its key. A second value
can follow: that of a parameter whose own name is the key.
-/
namespace Wayfare.Query

open Page (offsetKey withOffset fieldsOrNone)

/-! ## The key of the offset -/

theorem toList_offsetKey : offsetKey.toList = "page".toList ++ '[' :: "offset]".toList := by
  decide

/-- A list with one bracket is cut there in one way only. -/
theorem eq_of_append_bracket {front rest front' rest' : List Char} (hfront : '[' ∉ front')
    (hrest : '[' ∉ rest') (h : front ++ '[' :: rest = front' ++ '[' :: rest') :
    front = front' ∧ rest = rest' := by
  rcases List.append_eq_append_iff.mp h with ⟨more, rfl, hmore⟩ | ⟨more, rfl, hmore⟩
  · cases more with
    | nil => simpa using hmore
    | cons c more =>
      obtain ⟨rfl, -⟩ := List.cons_eq_cons.mp hmore
      simp at hfront
  · cases more with
    | nil => simpa [eq_comm] using hmore
    | cons c more =>
      obtain ⟨rfl, rfl⟩ := List.cons_eq_cons.mp hmore
      simp at hrest

theorem eq_page_of_under {name : String} (h : Under name offsetKey) : name = "page" := by
  obtain ⟨rest, hrest⟩ := h
  rw [toList_offsetKey] at hrest
  obtain ⟨hname, -⟩ := eq_of_append_bracket (by decide) (by decide) hrest.symm
  exact String.toList_injective hname

theorem fieldKey_page_eq_iff {name : String} :
    fieldKey "page" name = offsetKey ↔ name = "offset" := by
  constructor
  · intro h
    have hcs := toList_fieldKey "page" name
    rw [h, toList_offsetKey] at hcs
    have hend : "offset".toList ++ [']'] = name.toList ++ [']'] := by simpa using hcs
    exact String.toList_injective (List.append_cancel_right hend).symm
  · rintro rfl
    decide

theorem not_under_fieldKey_page (name : String) : ¬ Under (fieldKey "page" name) offsetKey := by
  intro h
  have hpage := under_fieldKey "page" name
  rw [eq_page_of_under h] at hpage
  exact not_under_self "page" hpage

/-! ## The values under it -/

theorem valuesAt_page {fields : Fields Json} (h : fields.Ordered) :
    valuesAt offsetKey (flatten "page" (.object fields)) =
      ((Fields.find? "offset" fields).bind scalarText?).toList := by
  have hfield : ∀ field : String × Json,
      valuesAt offsetKey (flatten (fieldKey "page" field.1) field.2) =
        if field.1 = "offset" then (scalarText? field.2).toList else [] := by
    rintro ⟨name, value⟩
    by_cases hname : name = "offset"
    · subst hname
      simpa [fieldKey_page_eq_iff.mpr rfl] using valuesAt_flatten_self offsetKey value
    · have hne : fieldKey "page" name ≠ offsetKey := mt fieldKey_page_eq_iff.mp hname
      simpa [hname] using valuesAt_flatten_of_ne hne (not_under_fieldKey_page name) value
  rw [flatten, flattenFields_eq, valuesAt_flatMap]
  simp only [hfield]
  rw [h.flatMap_one "offset" fun v => (scalarText? v).toList]
  cases Fields.find? "offset" fields <;> rfl

/-- Under the key of the offset stands what the parameter `page` has there, and then a parameter whose
own name is that key. -/
theorem valuesAt_ofFields {fields : Fields Json} (h : fields.Ordered) :
    valuesAt offsetKey (ofFields fields) =
      ((Fields.find? "page" fields).map fun v => valuesAt offsetKey (flatten "page" v)).getD [] ++
        ((Fields.find? offsetKey fields).bind scalarText?).toList := by
  have hfield : ∀ field : String × Json, valuesAt offsetKey (flatten field.1 field.2) =
      if field.1 = "page" then valuesAt offsetKey (flatten "page" field.2)
      else if field.1 = offsetKey then (scalarText? field.2).toList else [] := by
    rintro ⟨name, value⟩
    by_cases hpage : name = "page"
    · simp [hpage]
    · by_cases hkey : name = offsetKey
      · simpa [hkey, show offsetKey ≠ "page" by decide] using valuesAt_flatten_self offsetKey value
      · simpa [hpage, hkey] using valuesAt_flatten_of_ne hkey (mt eq_page_of_under hpage) value
  have hlt : "page" < offsetKey := by decide
  rw [ofFields_eq, valuesAt_flatMap]
  simp only [hfield]
  rw [h.flatMap_two hlt (fun v => valuesAt offsetKey (flatten "page" v))
    fun v => (scalarText? v).toList]
  cases Fields.find? offsetKey fields <;> rfl

theorem ordered_fieldsOrNone {j : Json} (h : j.WellFormed) : (fieldsOrNone j).Ordered := by
  cases j with
  | object fields =>
    rw [Json.WellFormed] at h
    exact h.1
  | _ => exact List.Pairwise.nil

theorem wellFormed_page {params : Json} (h : params.WellFormed) :
    ((Fields.find? "page" (fieldsOrNone params)).getD .null).WellFormed := by
  cases hpage : Fields.find? "page" (fieldsOrNone params) with
  | none => trivial
  | some page =>
    cases params with
    | object fields =>
      rw [Json.WellFormed] at h
      exact Json.wellFormed_of_find? h.2 hpage
    | _ => cases hpage

theorem find?_offsetKey_fieldsOrNone (params : Json) :
    Fields.find? offsetKey (fieldsOrNone params) = params.field? offsetKey := by
  cases params <;> rfl

/-- Under the key of the offset stands the offset that was set, and then the text of a parameter whose
own name is the key. -/
theorem exists_encode_withOffset {params : Json} (h : params.WellFormed) (offset : String) :
    ∃ pairs, encode (withOffset params offset) = .ok pairs ∧
      valuesAt offsetKey pairs =
        offset :: ((params.field? offsetKey).bind scalarText?).toList := by
  let inner := fieldsOrNone ((Fields.find? "page" (fieldsOrNone params)).getD .null)
  let page := Fields.insert "offset" (.string offset) inner
  have hinner : inner.Ordered := ordered_fieldsOrNone (wellFormed_page h)
  have houter := (ordered_fieldsOrNone h).insert "page" (Json.object page)
  have hpage : valuesAt offsetKey (flatten "page" (.object page)) = [offset] := by
    rw [valuesAt_page (hinner.insert "offset" (.string offset)), Fields.find?_insert_self]
    rfl
  have hvalues := valuesAt_ofFields houter
  rw [Fields.find?_insert_self, Fields.find?_insert_of_ne (by decide : "page" ≠ offsetKey),
    find?_offsetKey_fieldsOrNone, Option.map_some, Option.getD_some, hpage,
    List.singleton_append] at hvalues
  exact ⟨_, rfl, hvalues⟩

/-- What the query of a page asks for under the key of the offset: the offset that was set, and then
the text of a parameter whose own name is the key. It asks for one offset exactly if no parameter
without parts has that name. -/
theorem offsets_of_page {params : Json} (h : params.WellFormed) (offset : String) :
    ∃ pairs, encode (withOffset params offset) = .ok pairs ∧
      valuesAt offsetKey pairs =
        offset :: ((params.field? offsetKey).bind scalarText?).toList ∧
      (valuesAt offsetKey pairs = [offset] ↔
        (params.field? offsetKey).bind scalarText? = none) := by
  obtain ⟨pairs, hpairs, hvalues⟩ := exists_encode_withOffset h offset
  refine ⟨pairs, hpairs, hvalues, ?_⟩
  rw [hvalues]
  simp

/-- An offset that the parameter `page` had before is gone. -/
theorem offset_replaced_in_page :
    let params : Json := .object [("keyword", .string "LON"),
      ("page", .object [("limit", .ofNat 10), ("offset", .string "5")])]
    params.WellFormed ∧ ∃ pairs, encode (withOffset params "25") = .ok pairs ∧
      valuesAt offsetKey pairs = ["25"] := by
  intro params
  have hparams : params.WellFormed := by
    simp only [params, Json.WellFormed, Json.allFieldsWellFormed, Fields.Ordered, Fields.names,
      Json.ofNat]
    decide
  obtain ⟨pairs, hpairs, hvalues, -⟩ := offsets_of_page hparams "25"
  exact ⟨hparams, pairs, hpairs, hvalues⟩

/-- A parameter whose own name is the key of the offset stays, so the page is asked for at two
offsets. -/
theorem page_at_two_offsets :
    let params : Json := .object [("page[offset]", .string "0")]
    params.WellFormed ∧ ∃ pairs, encode (withOffset params "25") = .ok pairs ∧
      pairs = [("page[offset]", "25"), ("page[offset]", "0")] ∧
      valuesAt offsetKey pairs ≠ ["25"] := by
  intro params
  refine ⟨?_, _, rfl, by decide, by decide⟩
  simp only [params, Json.WellFormed, Json.allFieldsWellFormed, Fields.Ordered, Fields.names]
  decide

end Wayfare.Query
