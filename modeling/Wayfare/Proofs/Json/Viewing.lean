import Wayfare.Proofs.Json.Abreast

/-!
Reading in a shape and viewing what was read. Where a text can be read both in a shape and as a document
of any kind, the shape reads its view of that document and stops at the same place.
-/
namespace Wayfare.Json

open Scan

/-! ## Shapes -/

namespace Shape

/-- What the shape reads is its view of the document that stands there. -/
def Faithful (s : Shape) : Prop :=
  ∀ depth, Abreast (fun seen v => s.view v = .ok seen) (s.read depth) (value depth)

theorem faithful_any : any.Faithful := by
  intro depth bs seen rest v rest' hread hvalue
  cases hread.symm.trans hvalue
  exact ⟨rfl, rfl⟩

theorem faithful_text : text.Faithful := by
  intro depth bs seen rest v rest' hread hvalue
  simp only [text] at hread
  split at hread
  · cases hread
  next b more hskip =>
  split at hread
  · next hb =>
    rw [beq_iff_eq.mp hb] at hskip
    rw [value_string hskip] at hvalue
    obtain ⟨s, hs, rfl⟩ := exists_of_map_ok hread
    rw [hs] at hvalue
    cases hvalue
    exact ⟨rfl, rfl⟩
  · cases hread

theorem faithful_natural (bits : Nat) : (natural bits).Faithful := by
  intro depth bs seen rest v rest' hread hvalue
  simp only [natural] at hread
  split at hread
  · cases hread
  next b more hskip =>
  split at hread
  · next hb =>
    rw [value_number hb hskip] at hvalue
    split at hread
    · cases hread
    · next n tail hnumber =>
      rw [hnumber] at hvalue
      split at hread
      · next hbound =>
        cases hread
        cases hvalue
        exact ⟨rfl, by simp only [natural, hbound, if_true]⟩
      · cases hread
    · cases hread
  · cases hread

theorem faithful_optional {s : Shape} (h : s.Faithful) : (optional s).Faithful := by
  intro depth bs seen rest v rest' hread hvalue
  simp only [optional] at hread
  -- a value that does not begin like null is not null, and is left to the shape inside
  have hinside : (skipSpace bs).head? ≠ some 0x6E → s.read depth (skipSpace bs) = .ok (seen, rest) →
      rest = rest' ∧ (optional s).view v = .ok seen := by
    intro hhead hread
    have hne : v ≠ .null := by
      rintro rfl
      exact hhead (head?_of_null hvalue)
    rw [← value_skipSpace] at hvalue
    obtain ⟨hrest, hview⟩ := h depth hread hvalue
    refine ⟨hrest, ?_⟩
    cases v with
    | null => exact absurd rfl hne
    | _ => exact hview
  split at hread
  · next b more hskip =>
    split at hread
    · next hb =>
      rw [beq_iff_eq.mp hb] at hskip
      rw [value_word hskip] at hvalue
      obtain ⟨_, hword, rfl⟩ := exists_of_map_ok (f := fun _ => Json.null) hread
      rw [hword] at hvalue
      cases hvalue
      exact ⟨rfl, rfl⟩
    · next hb =>
      refine hinside ?_ (hskip ▸ hread)
      simpa [hskip] using hb
  · next hskip => exact hinside (by simp [hskip]) (hskip ▸ hread)

theorem viewItems_eq_ok {s : Shape} {seen vs : List Json}
    (h : List.Forall₂ (fun seen v => s.view v = .ok seen) seen vs) (i : Nat) :
    viewItems s i vs = .ok seen := by
  induction h generalizing i with
  | nil => rfl
  | cons hview _ ih =>
    simp only [viewItems, hview, ih]
    rfl

theorem faithful_list {s : Shape} (h : s.Faithful) : (list s).Faithful := by
  intro depth bs seen rest v rest' hread hvalue
  simp only [list] at hread
  split at hread
  · cases hread
  next b more hskip =>
  split at hread
  · next hb =>
    rw [beq_iff_eq.mp hb] at hskip
    cases depth with
    | zero => cases hread
    | succ depth =>
      rw [value_list hskip] at hvalue
      obtain ⟨items, hitems, rfl⟩ := exists_of_map_ok hread
      obtain ⟨vs, hvs, rfl⟩ := exists_of_map_ok hvalue
      obtain ⟨rfl, hall⟩ := abreast_list (h depth) hitems hvs
      refine ⟨rfl, ?_⟩
      simp only [list, viewItems_eq_ok hall]
      rfl
  · cases hread

/-! ### Dictionaries -/

/-- Fields under the same names, each the view of the other. -/
def Viewed (s : Shape) : Fields Json → Fields Json → Prop :=
  List.Forall₂ fun seen field => seen.1 = field.1 ∧ s.view field.2 = .ok seen.2

theorem viewFields_eq_ok {s : Shape} {seen fields : Fields Json} (h : Viewed s seen fields) :
    viewFields s fields = .ok seen := by
  induction h with
  | nil => rfl
  | @cons seen field _ _ hview _ ih =>
    obtain ⟨name, v⟩ := seen
    obtain ⟨_, w⟩ := field
    obtain ⟨rfl, hview⟩ := hview
    simp only [viewFields, hview, ih]
    rfl

theorem Viewed.insert {s : Shape} {seen fields : Fields Json} (h : Viewed s seen fields)
    {v w : Json} (hview : s.view v = .ok w) (name : String) :
    Viewed s (Fields.insert name w seen) (Fields.insert name v fields) := by
  induction h with
  | nil => exact .cons ⟨rfl, hview⟩ .nil
  | @cons seen field _ _ hfirst hrest ih =>
    obtain ⟨n, u⟩ := seen
    obtain ⟨_, x⟩ := field
    obtain ⟨rfl, hu⟩ := hfirst
    simp only [Fields.insert]
    split
    · exact .cons ⟨rfl, hview⟩ (.cons ⟨rfl, hu⟩ hrest)
    · split
      · exact .cons ⟨rfl, hview⟩ hrest
      · exact .cons ⟨rfl, hu⟩ ih

theorem fieldsAbreast_viewed {s : Shape} (h : s.Faithful) (depth : Nat) :
    FieldsAbreast (Viewed s) (setField (s.read depth)) (setField (value depth)) := by
  intro seen fields hviewed name bs seen' rest fields' rest' hs hv
  obtain ⟨w, hread, rfl⟩ := exists_of_map_ok (f := fun w => Fields.insert name w seen) hs
  obtain ⟨v, hvalue, rfl⟩ := exists_of_map_ok (f := fun v => Fields.insert name v fields) hv
  obtain ⟨rfl, hview⟩ := abreast_fieldValue (h depth) name hread hvalue
  exact ⟨rfl, hviewed.insert hview name⟩

theorem faithful_dictionary {s : Shape} (h : s.Faithful) : (dictionary s).Faithful := by
  intro depth bs seen rest v rest' hread hvalue
  simp only [dictionary] at hread
  split at hread
  · cases hread
  next b more hskip =>
  split at hread
  · next hb =>
    rw [beq_iff_eq.mp hb] at hskip
    cases depth with
    | zero => cases hread
    | succ depth =>
      rw [value_object hskip] at hvalue
      obtain ⟨gathered, hgathered, rfl⟩ := exists_of_map_ok hread
      obtain ⟨fields, hfields, rfl⟩ := exists_of_map_ok hvalue
      obtain ⟨rfl, hviewed⟩ :=
        abreast_object (fieldsAbreast_viewed h depth) .nil hgathered hfields
      refine ⟨rfl, ?_⟩
      simp only [dictionary, viewFields_eq_ok hviewed]
      rfl
  · cases hread

/-! ### Records -/

section

variable {fields : List Field} {f : Field} {name : String} {v w : Json} {given acc out : Fields Json}

theorem viewRecord_cons_of_none (h : fields.find? (·.name == name) = none) (v : Json)
    (acc rest : Fields Json) :
    viewRecord fields acc ((name, v) :: rest) = viewRecord fields acc rest := by
  rw [viewRecord, h]

theorem viewRecord_cons_of_some (h : fields.find? (·.name == name) = some f)
    (hview : f.shape.view v = .ok w) (acc rest : Fields Json) :
    viewRecord fields acc ((name, v) :: rest) =
      viewRecord fields (Fields.insert name w acc) rest := by
  simp only [viewRecord, h, hview]

/-- A field of another name passes the record by. -/
theorem viewRecord_insert_of_none (h : fields.find? (·.name == name) = none) (v : Json)
    (acc given : Fields Json) :
    viewRecord fields acc (Fields.insert name v given) = viewRecord fields acc given := by
  fun_induction Fields.insert name v given generalizing acc with
  | case1 => exact viewRecord_cons_of_none h v acc []
  | case2 n u rest hlt => exact viewRecord_cons_of_none h v acc _
  | case3 u rest hlt => rw [viewRecord_cons_of_none h, viewRecord_cons_of_none h]
  | case4 n u rest hlt hne ih =>
    rw [viewRecord, viewRecord]
    simp only [ih]

/-- What is gathered beforehand under a name that is not among the fields stays. -/
theorem viewRecord_insert_acc (hacc : acc.Ordered) (hname : name ∉ given.names) (w : Json)
    (h : viewRecord fields acc given = .ok out) :
    viewRecord fields (Fields.insert name w acc) given = .ok (Fields.insert name w out) := by
  induction given generalizing acc with
  | nil =>
    cases h
    rfl
  | cons field rest ih =>
    obtain ⟨n, u⟩ := field
    obtain ⟨hne, hrest⟩ : name ≠ n ∧ name ∉ Fields.names rest := by
      simpa [Fields.names] using hname
    rw [viewRecord] at h ⊢
    split at h
    · next hnone => simpa only [hnone] using ih hacc hrest h
    next f hsome =>
    split at h
    · cases h
    next x hview =>
    rw [hacc.insert_comm hne.symm x w]
    exact ih (hacc.insert n x) hrest h

theorem viewRecord_insert_of_some (hf : fields.find? (·.name == name) = some f)
    (hview : f.shape.view v = .ok w) (hacc : acc.Ordered) (hgiven : given.Ordered)
    (hname : name ∉ given.names) (h : viewRecord fields acc given = .ok out) :
    viewRecord fields acc (Fields.insert name v given) = .ok (Fields.insert name w out) := by
  induction given generalizing acc with
  | nil =>
    cases h
    exact viewRecord_cons_of_some hf hview _ []
  | cons field rest ih =>
    obtain ⟨n, u⟩ := field
    obtain ⟨hne, hrest⟩ : name ≠ n ∧ name ∉ Fields.names rest := by
      simpa [Fields.names] using hname
    rw [Fields.insert]
    split
    · rw [viewRecord_cons_of_some hf hview]
      exact viewRecord_insert_acc hacc hname w h
    · rw [if_neg (Ne.symm hne)]
      rw [viewRecord] at h ⊢
      split at h
      · next hnone =>
        simpa only [hnone] using ih hacc (Fields.ordered_cons.mp hgiven).2 hrest h
      next g hsome =>
      split at h
      · cases h
      next x hx =>
      exact ih (hacc.insert n x) (Fields.ordered_cons.mp hgiven).2 hrest h

/-- What a record sees under a name: the view of the field, if it has one of that name. -/
theorem find?_viewRecord (hgiven : given.Ordered) (h : viewRecord fields acc given = .ok out)
    (name : String) :
    (∃ f v w, fields.find? (·.name == name) = some f ∧ Fields.find? name given = some v ∧
      f.shape.view v = .ok w ∧ Fields.find? name out = some w) ∨
    (fields.find? (·.name == name) = none ∨ Fields.find? name given = none) ∧
      Fields.find? name out = Fields.find? name acc := by
  induction given generalizing acc with
  | nil =>
    cases h
    exact .inr ⟨.inr rfl, rfl⟩
  | cons field rest ih =>
    obtain ⟨n, u⟩ := field
    obtain ⟨hfirst, hrest⟩ := Fields.ordered_cons.mp hgiven
    have hgone : n = name → Fields.find? name rest = none := by
      rintro rfl
      exact Fields.find?_eq_none_of_lt hfirst (String.le_refl n)
    rw [viewRecord] at h
    split at h
    · next hnone =>
      by_cases hn : n = name
      · subst hn
        rcases ih hrest h with ⟨f, v, w, hf, -⟩ | ⟨-, hout⟩
        · cases hnone.symm.trans hf
        · exact .inr ⟨.inl hnone, hout⟩
      · simpa [Fields.find?, hn] using ih hrest h
    next f hsome =>
    split at h
    · cases h
    next x hview =>
    rcases ih hrest h with ⟨g, v, w, hg, hv, hw, hout⟩ | ⟨hnone, hout⟩
    · refine .inl ⟨g, v, w, hg, ?_, hw, hout⟩
      have hn : n ≠ name := fun hn => by simp [hgone hn] at hv
      simpa [Fields.find?, hn] using hv
    · by_cases hn : n = name
      · subst hn
        refine .inl ⟨f, u, x, hsome, by simp [Fields.find?], hview, ?_⟩
        rw [hout, Fields.find?_insert_self]
      · rw [Fields.find?_insert_of_ne hn] at hout
        exact .inr ⟨by simpa [Fields.find?, hn] using hnone, hout⟩

end

section

variable {fields : List Field} {openness : Openness}

/-- What a record has gathered is its view of the fields so far. -/
def Gathered (fields : List Field) (out given : Fields Json) : Prop :=
  given.Ordered ∧ viewRecord fields [] given = .ok out

theorem gathered_nil : Gathered fields [] [] :=
  ⟨.nil, rfl⟩

theorem fieldsAbreast_gathered (h : ∀ f ∈ fields, f.shape.Faithful) (openness : Openness)
    (depth : Nat) :
    FieldsAbreast (Gathered fields) (recordField fields openness depth) (setField (value depth)) := by
  intro out given hgathered name bs out' rest given' rest' hs hv
  obtain ⟨hordered, hview⟩ := hgathered
  obtain ⟨v, hvalue, rfl⟩ := exists_of_map_ok (f := fun v => Fields.insert name v given) hv
  simp only [recordField] at hs
  split at hs
  · next f hf =>
    split at hs
    · cases hs
    next hfresh =>
    obtain ⟨w, hread, rfl⟩ := exists_of_map_ok (f := fun w => Fields.insert name w out) hs
    obtain ⟨rfl, hw⟩ :=
      abreast_fieldValue (h f (List.mem_of_find?_eq_some hf) depth) name hread hvalue
    -- a field of the record that is not gathered yet was not given yet
    have hname : name ∉ given.names := by
      rw [← Fields.find?_eq_none_iff]
      rcases find?_viewRecord hordered hview name with ⟨g, u, x, -, -, -, hout⟩ | ⟨hnone, -⟩
      · simp [hout] at hfresh
      · exact hnone.resolve_left (by simp [hf])
    exact ⟨rfl, hordered.insert name v,
      viewRecord_insert_of_some hf hw .nil hordered hname hview⟩
  · next hnone =>
    have hskipped : out' = out ∧ rest = rest' := by
      split at hs
      · obtain ⟨u, hread, rfl⟩ := exists_of_map_ok (f := fun _ => out) hs
        rw [hread] at hvalue
        cases hvalue
        exact ⟨rfl, rfl⟩
      · obtain ⟨u, hread, rfl⟩ := exists_of_map_ok (f := fun _ => out) hs
        obtain ⟨rfl, -⟩ := abreast_fieldValue (abreast_skip depth) name hread hvalue
        exact ⟨rfl, rfl⟩
    obtain ⟨rfl, rfl⟩ := hskipped
    exact ⟨rfl, hordered.insert name v, by rwa [viewRecord_insert_of_none hnone]⟩

theorem abreast_recordItems (h : ∀ f ∈ fields, f.shape.Faithful) {tooShort : Nat → Cause}
    {depth steps index : Nat} {gathered out : Fields Json} {vs : List Json}
    {bs rest rest' tail tail' : List UInt8}
    (hs : recordItems tooShort depth fields index gathered bs = .ok (out, tail))
    (hend : skipSpace tail = 0x5D :: rest)
    (hv : Scan.items (value depth) steps index bs = .ok (vs, tail'))
    (hend' : skipSpace tail' = 0x5D :: rest') :
    rest = rest' ∧ viewTuple fields index gathered vs = .ok out := by
  induction fields generalizing steps index gathered bs vs with
  | nil =>
    cases hs
    cases steps with
    | zero => cases hv
    | succ steps =>
      rw [Scan.items, nextItem_close hend] at hv
      cases hv
      rw [hend] at hend'
      cases hend'
      exact ⟨rfl, rfl⟩
  | cons f fields ih =>
    obtain ⟨hf, hfields⟩ := List.forall_mem_cons.mp h
    cases steps with
    | zero => cases hv
    | succ steps =>
      rw [recordItems] at hs
      rw [Scan.items] at hv
      cases hnext : nextItem (index == 0) bs with
      | error e =>
        rw [hnext] at hs
        cases hs
      | ok start? =>
        rw [hnext] at hs hv
        cases start? with
        | none =>
          cases hv
          simp only at hs
          split at hs
          · cases hs
          next hrequired =>
          cases hs
          rw [hend] at hend'
          cases hend'
          exact ⟨rfl, by simp [viewTuple, hrequired]⟩
        | some start =>
          simp only at hs hv
          split at hs
          · cases hs
          next w more hread =>
          split at hv
          · cases hv
          next v more' hvalue =>
          obtain ⟨rfl, hview⟩ := hf depth hread hvalue
          split at hv
          · cases hv
          next vs' behind hvs =>
          cases hv
          obtain ⟨rfl, htuple⟩ := ih hfields hs hvs
          exact ⟨rfl, by simp only [viewTuple, hview, htuple]⟩

theorem faithful_record (h : ∀ f ∈ fields, f.shape.Faithful) (title : String)
    (openness : Openness) : (record title openness fields).Faithful := by
  intro depth bs seen rest v rest' hread hvalue
  simp only [record] at hread
  split at hread
  · cases hread
  next b more hskip =>
  split at hread
  · next hb =>
    rw [beq_iff_eq.mp hb] at hskip
    cases depth with
    | zero => cases hread
    | succ depth =>
      rw [value_object hskip] at hvalue
      obtain ⟨given, hgiven, rfl⟩ := exists_of_map_ok hvalue
      simp only at hread
      split at hread
      · cases hread
      next out tail hout =>
      split at hread
      · cases hread
      next hmissing =>
      obtain ⟨_, hend, rfl⟩ := exists_of_map_ok (f := fun _ => Json.object out) hread
      have hobject : objectAfterBrace (recordField fields openness depth) [] more =
          .ok (out, rest) := by
        simp only [objectAfterBrace, hout, hend]
      obtain ⟨rfl, -, hview⟩ := abreast_object (fieldsAbreast_gathered h openness depth)
        gathered_nil hobject hgiven
      exact ⟨rfl, by simp [record, hview, hmissing]⟩
  · split at hread
    · next hb =>
      obtain ⟨hb, hopen⟩ := Bool.and_eq_true_iff.mp hb
      rw [beq_iff_eq.mp hb] at hskip
      cases depth with
      | zero => cases hread
      | succ depth =>
        rw [value_list hskip] at hvalue
        obtain ⟨vs, hvs, rfl⟩ := exists_of_map_ok hvalue
        simp only at hread
        split at hread
        · cases hread
        next out tail hout =>
        obtain ⟨_, hend, rfl⟩ := exists_of_map_ok (f := fun _ => Json.object out) hread
        rw [listAfterBracket] at hvs
        split at hvs
        · cases hvs
        next vs' behind hitems =>
        split at hvs
        · cases hvs
        next more' hend' =>
        cases hvs
        obtain ⟨rfl, htuple⟩ := abreast_recordItems h hout (endList_eq_ok_iff.mp hend) hitems
          (endList_eq_ok_iff.mp hend')
        refine ⟨rfl, ?_⟩
        simp only [record, hopen, if_true, htuple]
        rfl
    · cases hread

theorem exists_object_of_view {title : String} {given : Fields Json} {seen : Json}
    (h : (record title openness fields).view (.object given) = .ok seen) :
    ∃ out, seen = .object out := by
  simp only [record] at h
  split at h
  · cases h
  split at h
  · cases h
  · cases h
    exact ⟨_, rfl⟩

/-- The field of a record in its view of an object: what the shape of the field sees there. -/
theorem field?_of_view {title : String} {given : Fields Json} {seen : Json}
    (hgiven : given.Ordered)
    (h : (record title openness fields).view (.object given) = .ok seen) (name : String) {f : Field}
    (hf : fields.find? (·.name == name) = some f) :
    (∃ v w, Fields.find? name given = some v ∧ f.shape.view v = .ok w ∧ seen.field? name = some w) ∨
      Fields.find? name given = none ∧ seen.field? name = none := by
  simp only [record] at h
  split at h
  · cases h
  next out hout =>
  split at h
  · cases h
  cases h
  rcases find?_viewRecord hgiven hout name with ⟨g, v, w, hg, hv, hw, hseen⟩ | ⟨hnone, hseen⟩
  · obtain rfl := Option.some.inj (hf.symm.trans hg)
    exact .inl ⟨v, w, hv, hw, hseen⟩
  · exact .inr ⟨hnone.resolve_left (by simp [hf]), hseen⟩

end

end Shape

/-! ## Documents that are read -/

section

variable {P : List UInt8 → Json → Prop} {first : Bool} {text : List UInt8}

theorem Items.wellFormed {vs : List Json} (hP : ∀ {t v}, P t v → v.WellFormed)
    (h : Items P first text vs) : ∀ v ∈ vs, v.WellFormed := by
  induction h with
  | close hw => simp
  | item hg ht h ih => exact List.forall_mem_cons.mpr ⟨hP ht, ih⟩

theorem Members.wellFormed {fields : List (String × Json)} (hP : ∀ {t v}, P t v → v.WellFormed)
    (h : Members P first text fields) : ∀ field ∈ fields, field.2.WellFormed := by
  induction h with
  | close hw => simp
  | member hg hl ht h ih => exact List.forall_mem_cons.mpr ⟨hP ht, ih⟩

end

theorem wellFormed_of_value {depth : Nat} {t : List UInt8} {v : Json} (h : Value depth t v) :
    v.WellFormed := by
  induction depth generalizing t v with
  | zero => cases h <;> trivial
  | succ depth ih =>
    rcases h with h | h
    · cases h <;> trivial
    · cases h with
      | array h => exact allWellFormed_iff.mpr (h.wellFormed ih)
      | object h =>
        exact ⟨Fields.ordered_ofList _, allFieldsWellFormed_iff.mpr fun field hfield =>
          h.wellFormed ih field (Fields.mem_of_mem_ofList field hfield)⟩

theorem wellFormed_of_read {depth : Nat} {bs rest : List UInt8} {v : Json}
    (h : value depth bs = .ok (v, rest)) : v.WellFormed := by
  obtain ⟨w, t, -, -, ht, -⟩ := (value_agrees depth).sound h
  exact wellFormed_of_value ht

end Wayfare.Json
