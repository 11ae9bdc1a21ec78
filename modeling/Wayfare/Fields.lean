/-!
Named fields in the order of their names. Names are compared by code point, which is also the
order of their bytes; a name occurs once.
-/
namespace Wayfare

/-- Fields of some object, in the order of their names. -/
abbrev Fields (α : Type u) := List (String × α)

namespace Fields

variable {α : Type u} {β : Type v}

/-- The value under a name. -/
def find? (name : String) : Fields α → Option α
  | [] => none
  | (n, v) :: rest => if n = name then some v else find? name rest

/-- Sets the value under a name, in its place. -/
def insert (name : String) (value : α) : Fields α → Fields α
  | [] => [(name, value)]
  | (n, v) :: rest =>
    if name < n then (name, value) :: (n, v) :: rest
    else if n = name then (name, value) :: rest
    else (n, v) :: insert name value rest

/-- The fields of a list of pairs; of two with one name the later counts. -/
def ofList (pairs : List (String × α)) : Fields α :=
  pairs.foldl (fun fields (name, value) => insert name value fields) []

/-- The names, in order. -/
def names (fields : Fields α) : List String :=
  fields.map (·.1)

/-- Every name occurs once and stands in its place. -/
def Ordered (fields : Fields α) : Prop :=
  fields.names.Pairwise (· < ·)

theorem find?_insert_self (name : String) (value : α) (fields : Fields α) :
    find? name (insert name value fields) = some value := by
  fun_induction insert name value fields <;> simp_all [find?]

theorem find?_insert_of_ne {name other : String} (h : name ≠ other) (value : α)
    (fields : Fields α) : find? other (insert name value fields) = find? other fields := by
  fun_induction insert name value fields <;> simp_all [find?]

theorem insert_insert (name : String) (value later : α) (fields : Fields α) :
    insert name later (insert name value fields) = insert name later fields := by
  fun_induction insert name value fields with
  | case1 => simp [insert]
  | case2 n v rest hlt => simp [insert, hlt]
  | case3 v rest hlt => simp [insert]
  | case4 n v rest hlt hne ih => simp [insert, hlt, hne, ih]

theorem insert_of_forall_lt {name : String} {fields : Fields α}
    (h : ∀ other ∈ fields.names, other < name) (value : α) :
    insert name value fields = fields ++ [(name, value)] := by
  induction fields with
  | nil => rfl
  | cons field rest ih =>
    obtain ⟨n, v⟩ := field
    obtain ⟨hn, hrest⟩ := List.forall_mem_cons.mp h
    have hne : n ≠ name := fun heq => String.lt_irrefl name (heq ▸ hn)
    rw [insert, if_neg (String.lt_asymm hn), if_neg hne, ih hrest, List.cons_append]

theorem map_insert (f : α → β) (name : String) (value : α) (fields : Fields α) :
    (insert name value fields).map (Prod.map id f) =
      insert name (f value) (fields.map (Prod.map id f)) := by
  fun_induction insert name value fields with
  | case1 => rfl
  | case2 n v rest hlt => simp [insert, hlt]
  | case3 v rest hlt => simp [insert]
  | case4 n v rest hlt hne ih => simp [insert, hlt, hne, ih]

theorem find?_eq_none_iff {name : String} {fields : Fields α} :
    find? name fields = none ↔ name ∉ fields.names := by
  induction fields with
  | nil => simp [find?, names]
  | cons field rest ih =>
    obtain ⟨n, v⟩ := field
    by_cases h : n = name
    · simp [find?, names, h]
    · simp only [find?, h, if_false, ih]
      simp [names, Ne.symm h]

theorem mem_of_find? {name : String} {value : α} {fields : Fields α}
    (h : find? name fields = some value) : (name, value) ∈ fields := by
  induction fields with
  | nil => cases h
  | cons field rest ih =>
    obtain ⟨n, v⟩ := field
    by_cases hn : n = name
    · subst hn
      simp_all [find?]
    · exact List.mem_cons_of_mem _ (ih (by simpa [find?, hn] using h))

theorem mem_names_insert {name other : String} {value : α} {fields : Fields α} :
    other ∈ names (insert name value fields) ↔ other = name ∨ other ∈ fields.names := by
  fun_induction insert name value fields with
  | case1 => simp [names]
  | case2 n v rest hlt => simp [names]
  | case3 v rest hlt => simp [names]
  | case4 n v rest hlt hne ih =>
    simp only [names, List.map_cons, List.mem_cons] at ih ⊢
    rw [ih, or_left_comm]

theorem ordered_cons {n : String} {v : α} {rest : Fields α} :
    Ordered ((n, v) :: rest) ↔ (∀ other ∈ rest.names, n < other) ∧ rest.Ordered :=
  List.pairwise_cons

theorem Ordered.insert {fields : Fields α} (h : fields.Ordered) (name : String) (value : α) :
    (fields.insert name value).Ordered := by
  fun_induction Fields.insert name value fields with
  | case1 => exact ordered_cons.mpr ⟨by simp [names], h⟩
  | case2 n v rest hlt =>
    refine ordered_cons.mpr ⟨fun other hother => ?_, h⟩
    rcases List.mem_cons.mp hother with rfl | hother
    · exact hlt
    · exact String.lt_trans hlt ((ordered_cons.mp h).1 other hother)
  | case3 v rest hlt => exact h
  | case4 n v rest hlt hne ih =>
    obtain ⟨hfirst, hrest⟩ := ordered_cons.mp h
    refine ordered_cons.mpr ⟨fun other hother => ?_, ih hrest⟩
    rcases mem_names_insert.mp hother with rfl | hother
    · -- neither before the first name nor equal to it
      exact Decidable.byContradiction fun hnot =>
        hne (String.le_antisymm (String.not_lt.mp hlt) (String.not_lt.mp hnot))
    · exact hfirst other hother

theorem find?_eq_none_of_lt {fields : Fields α} {n name : String}
    (h : ∀ other ∈ fields.names, n < other) (hle : name ≤ n) : find? name fields = none := by
  refine find?_eq_none_iff.mpr fun hmem => ?_
  exact absurd (h name hmem) (String.not_lt.mpr hle)

/-- Where each name occurs once, a field is what stands under its name. -/
theorem Ordered.mem_iff {fields : Fields α} (h : fields.Ordered) {name : String} {value : α} :
    (name, value) ∈ fields ↔ find? name fields = some value := by
  refine ⟨fun hmem => ?_, mem_of_find?⟩
  induction fields with
  | nil => cases hmem
  | cons field rest ih =>
    obtain ⟨n, v⟩ := field
    obtain ⟨hfirst, hrest⟩ := ordered_cons.mp h
    rcases List.mem_cons.mp hmem with heq | hmem
    · obtain ⟨rfl, rfl⟩ := Prod.mk.inj heq
      simp [find?]
    · have hlt := hfirst name (List.mem_map_of_mem hmem)
      have hne : n ≠ name := fun heq => String.lt_irrefl name (heq ▸ hlt)
      simpa [find?, hne] using ih hrest hmem

/-- If only one name counts, then only the value under it does. -/
theorem Ordered.flatMap_one {fields : Fields α} (h : fields.Ordered) (name : String)
    (f : α → List β) :
    (fields.flatMap fun field => if field.1 = name then f field.2 else []) =
      ((find? name fields).map f).getD [] := by
  induction fields with
  | nil => rfl
  | cons field rest ih =>
    obtain ⟨n, v⟩ := field
    obtain ⟨hfirst, hrest⟩ := ordered_cons.mp h
    rw [List.flatMap_cons, ih hrest]
    by_cases hn : n = name
    · subst hn
      simp [find?, find?_eq_none_of_lt hfirst (String.le_refl n)]
    · simp [find?, hn]

/-- If only two names count, then only the values under them do, the smaller name first. -/
theorem Ordered.flatMap_two {fields : Fields α} (h : fields.Ordered) {first second : String}
    (hlt : first < second) (f g : α → List β) :
    (fields.flatMap fun field =>
      if field.1 = first then f field.2 else if field.1 = second then g field.2 else []) =
      ((find? first fields).map f).getD [] ++ ((find? second fields).map g).getD [] := by
  have hne : first ≠ second := by
    rintro rfl
    exact String.lt_irrefl first hlt
  induction fields with
  | nil => rfl
  | cons field rest ih =>
    obtain ⟨n, v⟩ := field
    obtain ⟨hrestNames, hrest⟩ := ordered_cons.mp h
    rw [List.flatMap_cons, ih hrest]
    by_cases hfirst : n = first
    · subst hfirst
      simp [find?, hne, find?_eq_none_of_lt hrestNames (String.le_refl n)]
    · by_cases hsecond : n = second
      · subst hsecond
        have hnone : find? first rest = none :=
          find?_eq_none_of_lt hrestNames (String.not_lt.mp (String.lt_asymm hlt))
        simp [find?, hfirst, hnone, find?_eq_none_of_lt hrestNames (String.le_refl n)]
      · simp [find?, hfirst, hsecond]

/-- A value that is set counts for nothing new, if it counts for as much as the value in its place. -/
theorem Ordered.flatMap_insert {fields : Fields α} (h : fields.Ordered) {name : String} {value : α}
    (f : String × α → List β)
    (hsame : f (name, value) = ((find? name fields).map fun v => f (name, v)).getD []) :
    (Fields.insert name value fields).flatMap f = fields.flatMap f := by
  fun_induction Fields.insert name value fields with
  | case1 => simpa [find?] using hsame
  | case2 n v rest hlt =>
    have hnone : find? name ((n, v) :: rest) = none := by
      refine find?_eq_none_iff.mpr fun hmem => ?_
      rcases List.mem_cons.mp hmem with rfl | hmem
      · exact String.lt_irrefl _ hlt
      · exact String.lt_asymm hlt ((ordered_cons.mp h).1 name hmem)
    rw [List.flatMap_cons, hsame, hnone, Option.map_none, Option.getD_none, List.nil_append]
  | case3 v rest hlt => simpa [find?] using hsame
  | case4 n v rest hlt hne ih =>
    rw [List.flatMap_cons, List.flatMap_cons, ih (ordered_cons.mp h).2]
    simpa [find?, hne] using hsame

/-- Fields in order are known by what stands under each name. -/
theorem Ordered.ext {fields others : Fields α} (h : fields.Ordered) (h' : others.Ordered)
    (hfind : ∀ name, find? name fields = find? name others) : fields = others := by
  induction fields generalizing others with
  | nil =>
    cases others with
    | nil => rfl
    | cons other more => simpa [find?] using hfind other.1
  | cons field rest ih =>
    obtain ⟨n, v⟩ := field
    cases others with
    | nil => simpa [find?] using hfind n
    | cons other more =>
      obtain ⟨m, w⟩ := other
      obtain ⟨hfirst, hrest⟩ := ordered_cons.mp h
      obtain ⟨hfirst', hmore⟩ := ordered_cons.mp h'
      obtain rfl : n = m := by
        -- the smaller of two first names would be found on one side only
        by_cases hle : n ≤ m
        · refine Decidable.byContradiction fun hne => ?_
          simpa [find?, Ne.symm hne, find?_eq_none_of_lt hfirst' hle] using hfind n
        · have hge : m ≤ n := String.not_lt.mp (String.lt_asymm (String.not_le.mp hle))
          refine Decidable.byContradiction fun hne => ?_
          simpa [find?, hne, find?_eq_none_of_lt hfirst hge] using hfind m
      obtain rfl : v = w := by simpa [find?] using hfind n
      refine congrArg _ (ih hrest hmore fun name => ?_)
      by_cases hname : n = name
      · subst hname
        rw [find?_eq_none_of_lt hfirst (String.le_refl n),
          find?_eq_none_of_lt hfirst' (String.le_refl n)]
      · simpa [find?, hname] using hfind name

/-- The order in which two names are set does not matter. -/
theorem Ordered.insert_comm {fields : Fields α} (h : fields.Ordered) {name other : String}
    (hne : name ≠ other) (v w : α) :
    Fields.insert name v (Fields.insert other w fields) =
      Fields.insert other w (Fields.insert name v fields) := by
  refine ((h.insert other w).insert name v).ext ((h.insert name v).insert other w) fun n => ?_
  by_cases hname : name = n
  · subst hname
    rw [find?_insert_self, find?_insert_of_ne hne.symm, find?_insert_self]
  · by_cases hother : other = n
    · subst hother
      rw [find?_insert_of_ne hne, find?_insert_self, find?_insert_self]
    · rw [find?_insert_of_ne hname, find?_insert_of_ne hother, find?_insert_of_ne hother,
        find?_insert_of_ne hname]

theorem mem_insert {field : String × α} {name : String} {value : α} {fields : Fields α}
    (h : field ∈ insert name value fields) : field = (name, value) ∨ field ∈ fields := by
  fun_induction insert name value fields with
  | case1 => exact .inl (List.mem_singleton.mp h)
  | case2 n v rest hlt => exact List.mem_cons.mp h
  | case3 v rest hlt => exact (List.mem_cons.mp h).imp_right (List.mem_cons_of_mem _)
  | case4 n v rest hlt hne ih =>
    rcases List.mem_cons.mp h with rfl | h
    · exact .inr List.mem_cons_self
    · exact (ih h).imp_right (List.mem_cons_of_mem _)

theorem ordered_ofList (pairs : List (String × α)) : (ofList pairs).Ordered :=
  List.foldlRecOn pairs _ List.Pairwise.nil fun _ h pair _ => h.insert pair.1 pair.2

theorem mem_of_mem_ofList {pairs : List (String × α)} :
    ∀ field ∈ ofList pairs, field ∈ pairs := by
  refine List.foldlRecOn (motive := fun fields => ∀ field ∈ fields, field ∈ pairs) pairs _ ?_ ?_
  · exact fun field hfield => absurd hfield List.not_mem_nil
  · intro fields h pair hpair field hfield
    rcases mem_insert hfield with rfl | hfield
    · exact hpair
    · exact h field hfield

end Fields

end Wayfare
