import Wayfare.Page.Envelope
import Wayfare.Proofs.Except

/-!
The envelope of a page as a document and back. Absent parts are left out of the document and read as
absent; of all that a page can hold, only tables that are null do not come back.
-/
namespace Wayfare

/-! ## Documents that a shape leaves as they are -/

namespace Json.Shape

variable {s : Shape} {v : Json}

/-- The shape sees the document as it is. -/
def Keeps (s : Shape) (v : Json) : Prop :=
  s.view v = .ok v

theorem keeps_any (v : Json) : any.Keeps v := rfl

theorem keeps_text (t : String) : text.Keeps (.string t) := rfl

theorem keeps_natural {bits n : Nat} (h : n < Nat.pow 2 bits) : (natural bits).Keeps (.ofNat n) := by
  have hbound : (0 ≤ (n : Int) && (n : Int) < (Nat.pow 2 bits : Nat)) = true := by
    simp only [Bool.and_eq_true, decide_eq_true_eq]
    omega
  simp only [Keeps, natural, Json.ofNat, Number.ofNat, hbound, if_true]

theorem Keeps.optional (h : s.Keeps v) : (optional s).Keeps v := by
  cases v with
  | null => rfl
  | _ => exact h

theorem viewItems_of_keeps {items : List Json} (h : ∀ item ∈ items, s.Keeps item) (i : Nat) :
    viewItems s i items = .ok items := by
  induction items generalizing i with
  | nil => rfl
  | cons item rest ih =>
    obtain ⟨hitem, hrest⟩ := List.forall_mem_cons.mp h
    rw [viewItems, hitem, ih hrest]
    rfl

theorem keeps_list {items : List Json} (h : ∀ item ∈ items, s.Keeps item) :
    (list s).Keeps (.array items) := by
  simp only [Keeps, list, viewItems_of_keeps h]
  rfl

theorem viewFields_of_keeps {fields : Fields Json} (h : ∀ field ∈ fields, s.Keeps field.2) :
    viewFields s fields = .ok fields := by
  induction fields with
  | nil => rfl
  | cons field rest ih =>
    obtain ⟨hfield, hrest⟩ := List.forall_mem_cons.mp h
    rw [viewFields, hfield, ih hrest]
    rfl

theorem keeps_dictionary {fields : Fields Json} (h : ∀ field ∈ fields, s.Keeps field.2) :
    (dictionary s).Keeps (.object fields) := by
  simp only [Keeps, dictionary, viewFields_of_keeps h]
  rfl

/-- The field of the record that a field of an object is read as leaves its value as it is. -/
def KnownField (fields : List Field) (field : String × Json) : Prop :=
  ∃ f, fields.find? (·.name == field.1) = some f ∧ f.shape.Keeps field.2

/-- Fields that come one after the other are gathered in this order. -/
theorem viewRecord_of_known {fields : List Field} {gathered given : Fields Json}
    (hordered : (gathered ++ given : Fields Json).Ordered) (h : ∀ field ∈ given, KnownField fields field) :
    viewRecord fields gathered given = .ok (gathered ++ given) := by
  induction given generalizing gathered with
  | nil => rw [viewRecord, List.append_nil]
  | cons field rest ih =>
    obtain ⟨name, value⟩ := field
    obtain ⟨⟨f, hf, hview⟩, hrest⟩ := List.forall_mem_cons.mp h
    have hview : f.shape.view value = .ok value := hview
    have hlast : Fields.insert name value gathered = gathered ++ [(name, value)] := by
      refine Fields.insert_of_forall_lt (fun other hother => ?_) value
      rw [Fields.Ordered, Fields.names, List.map_append] at hordered
      exact (List.pairwise_append.mp hordered).2.2 other hother name List.mem_cons_self
    rw [viewRecord]
    simp only [hf, hview, hlast]
    rw [ih (by simpa using hordered) hrest, List.append_assoc, List.singleton_append]

/-- An object with fields of the record only, every required one among them, is seen as it is. -/
theorem keeps_record {title : String} {openness : Openness} {fields : List Field}
    {given : Fields Json} (hordered : given.Ordered) (h : ∀ field ∈ given, KnownField fields field)
    (hrequired : firstMissing fields given = none) :
    (record title openness fields).Keeps (.object given) := by
  have hview : viewRecord fields [] given = .ok given := viewRecord_of_known hordered h
  simp [Keeps, record, hview, hrequired]

end Json.Shape

open Json (Shape)

/-- Two fields that can be absent. -/
theorem Fields.ordered_optional {α β : Type} {first second : String} (h : first < second)
    (x : Option α) (y : Option β) (f : α → Json) (g : β → Json) :
    Fields.Ordered ((x.map fun v => (first, f v)).toList ++ (y.map fun v => (second, g v)).toList) := by
  rw [Fields.Ordered, Fields.names, List.map_append, List.pairwise_append]
  refine ⟨?_, ?_, ?_⟩
  · cases x <;> simp
  · cases y <;> simp
  · simp only [List.mem_map, Option.mem_toList, Option.map_eq_some_iff]
    rintro _ ⟨_, ⟨_, -, rfl⟩, rfl⟩ _ ⟨_, ⟨_, -, rfl⟩, rfl⟩
    exact h

/-! ## Metadata -/

namespace PageMeta

theorem countOf_ofNat (n : UInt64) : countOf (.ofNat n.toNat) = some n := by
  simp [countOf, Json.ofNat, Number.ofNat]

theorem linksOf_linksJson (links : Fields String) : linksOf (linksJson links) = some links := by
  simp only [linksOf, linksJson, textFields, List.filterMap_map]
  simp [Function.comp_def, Json.asString?]

theorem ofView_toJson (m : PageMeta) : ofView m.toJson = m := by
  obtain ⟨count, links⟩ := m
  cases count <;> cases links <;>
    simp [ofView, toJson, Json.field?, Fields.find?, countOf_ofNat, linksOf_linksJson]

theorem keeps_linksJson (links : Fields String) : (Shape.dictionary .text).Keeps (linksJson links) := by
  refine Shape.keeps_dictionary (List.forall_mem_map.mpr fun link _ => ?_)
  exact Shape.keeps_text link.2

theorem keeps_toJson (m : PageMeta) : shape.Keeps m.toJson := by
  have hcount (n : UInt64) : (Shape.optional (.natural 64)).Keeps (.ofNat n.toNat) :=
    (Shape.keeps_natural n.toNat_lt).optional
  refine Shape.keeps_record ?_ (fun field hfield => ?_) rfl
  · exact Fields.ordered_optional (by decide) ..
  · simp only [List.mem_append, Option.mem_toList, Option.map_eq_some_iff] at hfield
    rcases hfield with ⟨n, -, rfl⟩ | ⟨links, -, rfl⟩
    · exact ⟨_, rfl, hcount n⟩
    · exact ⟨_, rfl, (keeps_linksJson links).optional⟩

end PageMeta

/-! ## Pages -/

namespace Page

variable {α : Type} [Body α]

theorem keeps_toJson {p : Page α} (hdata : (Body.shape α).Keeps (Body.toJson p.data)) :
    (shape (Body.shape α)).Keeps p.toJson := by
  refine Shape.keeps_record ?_ (fun field hfield => ?_) rfl
  · have hdata : "data" < "dictionaries" ∧ "data" < "meta" := by decide
    refine Fields.ordered_cons.mpr ⟨fun other hother => ?_, Fields.ordered_optional (by decide) ..⟩
    obtain ⟨field, hfield, rfl⟩ := List.mem_map.mp hother
    simp only [List.mem_append, Option.mem_toList, Option.map_eq_some_iff] at hfield
    rcases hfield with ⟨d, -, rfl⟩ | ⟨m, -, rfl⟩
    · exact hdata.1
    · exact hdata.2
  · simp only [List.mem_cons, List.mem_append, Option.mem_toList, Option.map_eq_some_iff] at hfield
    rcases hfield with rfl | ⟨d, -, rfl⟩ | ⟨m, -, rfl⟩
    · exact ⟨_, rfl, hdata⟩
    · exact ⟨_, rfl, (Shape.keeps_any d).optional⟩
    · exact ⟨_, rfl, (PageMeta.keeps_toJson m).optional⟩

theorem ofView_toJson {p : Page α} (hdata : Body.ofView (Body.toJson p.data) = p.data) :
    ofView p.toJson = { p with dictionaries := p.dictionaries.bind present } := by
  obtain ⟨data, meta?, dictionaries⟩ := p
  have hmeta (m : PageMeta) : (present m.toJson).map PageMeta.ofView = some m :=
    congrArg some (PageMeta.ofView_toJson m)
  cases meta? <;> cases dictionaries <;>
    simp [ofView, toJson, Json.field?, Fields.find?, hdata, hmeta]

/-- A page comes back from its document, but for tables that are null. -/
theorem ofJson_toJson {p : Page α} (hkeeps : (Body.shape α).Keeps (Body.toJson p.data))
    (hdata : Body.ofView (Body.toJson p.data) = p.data) :
    ofJson p.toJson = .ok { p with dictionaries := p.dictionaries.bind present } := by
  have hview : (shape (Body.shape α)).view p.toJson = .ok p.toJson := keeps_toJson hkeeps
  rw [ofJson, hview, ← ofView_toJson hdata]
  rfl

theorem ofJson_toJson_items (p : Page (List Json)) :
    ofJson p.toJson = .ok { p with dictionaries := p.dictionaries.bind present } :=
  ofJson_toJson (Shape.keeps_list fun item _ => Shape.keeps_any item) rfl

/-- A page of documents survives the way into a document and back, unless its tables are null: then it
comes back without tables and otherwise the same. Its links are the same in any case. -/
theorem round_trip (p : Page (List Json)) :
    (p.dictionaries ≠ some .null → ofJson p.toJson = .ok p) ∧
      (p.dictionaries = some .null → ofJson p.toJson = .ok { p with dictionaries := none }) ∧
      ∃ back : Page (List Json), ofJson p.toJson = .ok back ∧
        ∀ relation, Paged.link relation back = Paged.link relation p := by
  have hback := ofJson_toJson_items p
  refine ⟨fun hnull => ?_, fun hnull => ?_, _, hback, fun relation => rfl⟩
  · have hpresent : p.dictionaries.bind present = p.dictionaries := by
      cases hd : p.dictionaries with
      | none => rfl
      | some d =>
        cases d with
        | null => exact absurd hd hnull
        | _ => rfl
    rw [hback, hpresent]
  · rw [hback, hnull]
    rfl

/-- All parts are there, some of them empty; and the same page with tables that are null. -/
theorem full_page_back :
    let full : Page (List Json) := ⟨[.null, .ofNat 7],
      some ⟨some 40, some [("next", "/items?page[offset]=25")]⟩, some (.object [])⟩
    full.dictionaries ≠ some .null ∧ ofJson full.toJson = .ok full ∧
      ofJson { full with dictionaries := some .null }.toJson =
        .ok { full with dictionaries := none } ∧
      full.toJson = .object [("data", .array [.null, .ofNat 7]), ("dictionaries", .object []),
        ("meta", .object [("count", .ofNat 40),
          ("links", .object [("next", .string "/items?page[offset]=25")])])] := by
  intro full
  have hfull : full.dictionaries ≠ some .null := by simp [full]
  exact ⟨hfull, (round_trip full).1 hfull, (round_trip _).2.1 rfl, rfl⟩

end Page

end Wayfare
