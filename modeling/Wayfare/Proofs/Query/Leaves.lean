import Wayfare.Json.Fault
import Wayfare.Proofs.Query.Keys
import Wayfare.Proofs.Text.Utf8

/-!
The leaves of parameters. A leaf is a value without parts, other than null; the path to it gives the key
of a pair and its text the value, and the query has these pairs in the order of the paths.
-/
namespace Wayfare

namespace Json

/-! ## Parts -/

/-- The parts of a value, in their order, each with the step to it. -/
def parts : Json → List (Step × Json)
  | .array items => items.zipIdx.map fun (item, i) => (.index i, item)
  | .object fields => fields.map fun (name, value) => (.key name, value)
  | _ => []

/-- The part that a step leads to. -/
def part? : Step → Json → Option Json
  | .key name, .object fields => Fields.find? name fields
  | .index i, .array items => items[i]?
  | _, _ => none

/-- The value that a path leads to. -/
def at? : Path → Json → Option Json
  | [], v => some v
  | step :: path, v => (v.part? step).bind (at? path)

/-- Which of two parts of one value comes first: fields by the bytes of their names, items by their
places. -/
inductive Step.Before : Step → Step → Prop where
  | key {name other : String} (h : Text.utf8 name < Text.utf8 other) : Before (.key name) (.key other)
  | index {i j : Nat} (h : i < j) : Before (.index i) (.index j)

theorem wellFormed_of_mem_parts {v : Json} (h : v.WellFormed) : ∀ part ∈ v.parts, part.2.WellFormed := by
  cases v with
  | null | bool _ | number _ | string _ => simp [parts]
  | array items =>
    rw [WellFormed, allWellFormed_iff] at h
    refine List.forall_mem_map.mpr fun pair hpair => h _ ?_
    exact List.mem_of_getElem? (List.mem_zipIdx_iff_getElem?.mp hpair)
  | object fields =>
    rw [WellFormed, allFieldsWellFormed_iff] at h
    exact List.forall_mem_map.mpr h.2

theorem mem_parts_iff {v : Json} (h : v.WellFormed) {step : Step} {w : Json} :
    (step, w) ∈ v.parts ↔ v.part? step = some w := by
  cases v with
  | null | bool _ | number _ | string _ => cases step <;> simp [parts, part?]
  | array items =>
    cases step with
    | index i =>
      rw [part?, ← List.mk_mem_zipIdx_iff_getElem?, parts, List.mem_map]
      constructor
      · rintro ⟨pair, hpair, heq⟩
        obtain ⟨hstep, rfl⟩ := Prod.mk.inj heq
        obtain rfl := Step.index.inj hstep
        exact hpair
      · exact fun hpair => ⟨_, hpair, rfl⟩
    | _ => simp [parts, part?]
  | object fields =>
    rw [WellFormed] at h
    cases step with
    | key name => simpa [parts, part?] using h.1.mem_iff
    | _ => simp [parts, part?]

theorem pairwise_parts {v : Json} (h : v.WellFormed) :
    v.parts.Pairwise fun part other => part.1.Before other.1 := by
  cases v with
  | null | bool _ | number _ | string _ => exact .nil
  | array items =>
    have hplaces : (items.zipIdx.map Prod.snd).Pairwise (· < ·) := by
      rw [List.zipIdx_map_snd]
      exact List.pairwise_lt_range'
    refine List.pairwise_map.mpr ((List.pairwise_map.mp hplaces).imp ?_)
    exact fun hlt => .index hlt
  | object fields =>
    rw [WellFormed] at h
    have hnames : (fields.map (·.1)).Pairwise (· < ·) := h.1
    refine List.pairwise_map.mpr ((List.pairwise_map.mp hnames).imp ?_)
    exact fun hlt => .key (Text.utf8_lt_iff.mpr hlt)

mutual

/-- What holds of a value once it holds of its parts holds of every value. -/
theorem parts_induction {P : Json → Prop} (h : ∀ v : Json, (∀ part ∈ v.parts, P part.2) → P v) :
    ∀ v : Json, P v
  | .null => h _ (by simp [parts])
  | .bool _ => h _ (by simp [parts])
  | .number _ => h _ (by simp [parts])
  | .string _ => h _ (by simp [parts])
  | .array items => by
    refine h _ (List.forall_mem_map.mpr fun pair hpair => ?_)
    exact items_induction h items _ (List.mem_of_getElem? (List.mem_zipIdx_iff_getElem?.mp hpair))
  | .object fields => h _ (List.forall_mem_map.mpr (fields_induction h fields))

theorem items_induction {P : Json → Prop} (h : ∀ v : Json, (∀ part ∈ v.parts, P part.2) → P v) :
    ∀ items : List Json, ∀ item ∈ items, P item
  | [] => by simp
  | item :: rest => List.forall_mem_cons.mpr ⟨parts_induction h item, items_induction h rest⟩

theorem fields_induction {P : Json → Prop} (h : ∀ v : Json, (∀ part ∈ v.parts, P part.2) → P v) :
    ∀ fields : List (String × Json), ∀ field ∈ fields, P field.2
  | [] => by simp
  | (_, value) :: rest => List.forall_mem_cons.mpr ⟨parts_induction h value, fields_induction h rest⟩

end

end Json

namespace Query

open Json (Path Step)

/-! ## Leaves of a value -/

mutual

/-- The leaves of a value, with the paths to them and their texts. -/
def leaves : Json → List (Path × String)
  | .null => []
  | .bool b => [([], toString b)]
  | .number n => [([], n.text)]
  | .string s => [([], s)]
  | .array items => itemLeaves 0 items
  | .object fields => fieldLeaves fields

def itemLeaves (i : Nat) : List Json → List (Path × String)
  | [] => []
  | item :: rest => (leaves item).map (Prod.map (.index i :: ·) id) ++ itemLeaves (i + 1) rest

def fieldLeaves : List (String × Json) → List (Path × String)
  | [] => []
  | (name, value) :: rest => (leaves value).map (Prod.map (.key name :: ·) id) ++ fieldLeaves rest

end

/-- The leaves of a part, seen from the value it belongs to. -/
def leavesBehind (part : Step × Json) : List (Path × String) :=
  (leaves part.2).map (Prod.map (part.1 :: ·) id)

theorem itemLeaves_eq (i : Nat) (items : List Json) :
    itemLeaves i items =
      (items.zipIdx i).flatMap fun (item, i) => leavesBehind (.index i, item) := by
  induction items generalizing i with
  | nil => rfl
  | cons item rest ih =>
    rw [itemLeaves, ih, List.zipIdx_cons, List.flatMap_cons]
    rfl

theorem fieldLeaves_eq (fields : Fields Json) :
    fieldLeaves fields = fields.flatMap fun (name, value) => leavesBehind (.key name, value) := by
  induction fields with
  | nil => rfl
  | cons field rest ih =>
    rw [fieldLeaves, ih, List.flatMap_cons]
    rfl

/-- A value is a leaf itself, or its leaves are those of its parts. -/
theorem leaves_eq (v : Json) :
    leaves v = ((scalarText? v).map ([], ·)).toList ++ v.parts.flatMap leavesBehind := by
  cases v with
  | null | bool _ | number _ | string _ => simp [leaves, scalarText?, Json.parts]
  | array items => simp [leaves, itemLeaves_eq, scalarText?, Json.parts, List.flatMap_map]
  | object fields => simp [leaves, fieldLeaves_eq, scalarText?, Json.parts, List.flatMap_map]

/-- The leaves are the values without parts that some path leads to. -/
theorem mem_leaves_iff {v : Json} (h : v.WellFormed) {path : Path} {text : String} :
    (path, text) ∈ leaves v ↔ (v.at? path).bind scalarText? = some text := by
  induction v using Json.parts_induction generalizing path with
  | h v ih =>
    rw [leaves_eq, List.mem_append, List.mem_flatMap]
    cases path with
    | nil => simp [Json.at?, leavesBehind]
    | cons step path =>
      have hbehind : ∀ part : Step × Json, (step :: path, text) ∈ leavesBehind part ↔
          part.1 = step ∧ (path, text) ∈ leaves part.2 := by
        intro part
        simp [leavesBehind, and_assoc, and_left_comm]
      rw [Json.at?, Option.bind_assoc, Option.bind_eq_some_iff]
      constructor
      · rintro (hself | ⟨part, hpart, hmem⟩)
        · simp at hself
        · obtain ⟨rfl, hleaf⟩ := (hbehind part).mp hmem
          have hwell := Json.wellFormed_of_mem_parts h part hpart
          exact ⟨part.2, (Json.mem_parts_iff h).mp hpart, (ih part hpart hwell).mp hleaf⟩
      · rintro ⟨w, hw, hleaf⟩
        have hpart := (Json.mem_parts_iff h).mpr hw
        have hwell := Json.wellFormed_of_mem_parts h _ hpart
        exact .inr ⟨_, hpart, (hbehind _).mpr ⟨rfl, (ih _ hpart hwell).mpr hleaf⟩⟩

/-- Leaves stand in the order of their paths. -/
theorem pairwise_leaves {v : Json} (h : v.WellFormed) :
    (leaves v).Pairwise fun leaf other => List.Lex Step.Before leaf.1 other.1 := by
  induction v using Json.parts_induction with
  | h v ih =>
    have hparts : (v.parts.flatMap leavesBehind).Pairwise fun leaf other =>
        List.Lex Step.Before leaf.1 other.1 := by
      refine List.pairwise_flatMap.mpr ⟨fun part hpart => ?_, ?_⟩
      · have hleaves := ih part hpart (Json.wellFormed_of_mem_parts h part hpart)
        exact List.pairwise_map.mpr (hleaves.imp .cons)
      · refine (Json.pairwise_parts h).imp fun hbefore => ?_
        simp only [leavesBehind, List.forall_mem_map]
        exact fun _ _ _ _ => .rel hbefore
    cases v with
    | array _ | object _ => simpa [leaves_eq, scalarText?] using hparts
    | null | bool _ | number _ | string _ => simp [leaves]

/-! ## Keys and pairs -/

/-- What a step adds to a key. -/
def brackets : Step → String
  | .key name => "[" ++ name ++ "]"
  | _ => "[]"

/-- The key of what a path leads to, from a value with a key. -/
def keyAt (key : String) (path : Path) : String :=
  key ++ String.join (path.map brackets)

theorem keyAt_nil (key : String) : keyAt key [] = key := by
  simp [keyAt]

theorem keyAt_cons (key : String) (step : Step) (path : Path) :
    keyAt key (step :: path) = keyAt (key ++ brackets step) path := by
  simp [keyAt, String.append_assoc]

theorem flattenItems_eq (key : String) (items : List Json) :
    flattenItems key items = items.flatMap (flatten key) := by
  induction items with
  | nil => rfl
  | cons item rest ih => rw [flattenItems, ih, List.flatMap_cons]

/-- A value has the pair of its own text, or the pairs of its parts. -/
theorem flatten_eq (key : String) (v : Json) :
    flatten key v = ((scalarText? v).map (key, ·)).toList ++
      v.parts.flatMap fun part => flatten (key ++ brackets part.1) part.2 := by
  cases v with
  | null | bool _ | number _ | string _ => simp [flatten, scalarText?, Json.parts]
  | array items =>
    -- the pairs of items do not tell their places
    have hitems : items.flatMap (flatten (itemKey key)) =
        items.zipIdx.flatMap fun pair => flatten (itemKey key) pair.1 := by
      rw [← List.flatMap_map Prod.fst (flatten (itemKey key)), List.zipIdx_map_fst]
    rw [flatten, flattenItems_eq, hitems]
    simp [scalarText?, Json.parts, List.flatMap_map, itemKey, brackets]
  | object fields =>
    simp [flatten, flattenFields_eq, scalarText?, Json.parts, List.flatMap_map, fieldKey, brackets,
      String.append_assoc]

theorem flatten_eq_map (key : String) (v : Json) :
    flatten key v = (leaves v).map fun (path, text) => (keyAt key path, text) := by
  induction v using Json.parts_induction generalizing key with
  | h v ih =>
    rw [flatten_eq, leaves_eq, List.map_append, List.map_flatMap]
    congr 1
    · cases scalarText? v <;> simp [keyAt_nil]
    · rw [List.flatMap_def, List.flatMap_def]
      refine congrArg List.flatten (List.map_congr_left fun part hpart => ?_)
      simp [leavesBehind, ih part hpart, keyAt_cons]

/-! ## Leaves of parameters -/

/-- A leaf of some parameters: under which name, by which path from there, and its text. -/
structure Leaf where
  name : String
  path : Path
  text : String
  deriving DecidableEq, Repr

namespace Leaf

/-- The path from the parameters as a whole. -/
def wholePath (leaf : Leaf) : Path :=
  .key leaf.name :: leaf.path

/-- The path leads to a value without parts, other than null, with the text of the leaf. -/
def In (params : Json) (leaf : Leaf) : Prop :=
  (params.at? leaf.wholePath).bind scalarText? = some leaf.text

/-- Depth first, the parts of each value in their order. -/
def Before (leaf other : Leaf) : Prop :=
  List.Lex Step.Before leaf.wholePath other.wholePath

/-- The name with brackets for each step behind it, and the text. -/
def pair (leaf : Leaf) : Pair :=
  (keyAt leaf.name leaf.path, leaf.text)

theorem eq_of_wholePath {leaf other : Leaf} (hpath : leaf.wholePath = other.wholePath)
    (htext : leaf.text = other.text) : leaf = other := by
  cases leaf
  cases other
  cases hpath
  cases htext
  rfl

end Leaf

/-- The leaves of parameters, one parameter after the other. -/
def leavesOf (fields : Fields Json) : List Leaf :=
  fields.flatMap fun field => (leaves field.2).map fun leaf => ⟨field.1, leaf.1, leaf.2⟩

theorem map_leavesOf (fields : Fields Json) :
    (leavesOf fields).map (fun leaf => (leaf.wholePath, leaf.text)) = leaves (.object fields) := by
  rw [leaves, fieldLeaves_eq, leavesOf, List.map_flatMap]
  simp only [List.map_map]
  rfl

/-- The query of an object has one pair for each leaf and no other, in the order of the leaves: a field
before those with greater names, in bytes, and an item before later ones. -/
theorem pairs_are_leaves {fields : Fields Json} (h : (Json.object fields).WellFormed) :
    ∃ found : List Leaf, (∀ leaf, leaf ∈ found ↔ leaf.In (.object fields)) ∧
      found.Pairwise Leaf.Before ∧ encode (.object fields) = .ok (found.map Leaf.pair) := by
  refine ⟨leavesOf fields, fun leaf => ?_, ?_, ?_⟩
  · rw [Leaf.In, ← mem_leaves_iff h, ← map_leavesOf, List.mem_map]
    constructor
    · exact fun hmem => ⟨leaf, hmem, rfl⟩
    · rintro ⟨other, hother, heq⟩
      obtain ⟨hpath, htext⟩ := Prod.mk.inj heq
      obtain rfl : other = leaf := Leaf.eq_of_wholePath hpath htext
      exact hother
  · have hpairwise := pairwise_leaves h
    rw [← map_leavesOf] at hpairwise
    have hordered := List.pairwise_map.mp hpairwise
    exact hordered
  · rw [encode, ofFields_eq, leavesOf, List.map_flatMap]
    simp only [flatten_eq_map, List.map_map]
    rfl

/-- Lists in lists, an empty object and nulls. -/
theorem pairs_of_nested_search :
    let search : Fields Json := [("legs", .array [.array [.string "SYD", .null, .string "BKK"],
        .object [("day", .ofNat 7), ("via", .array [])], .bool true]),
      ("page", .object [("", .null), ("a]", .string "x")]), ("é", .object [])]
    (Json.object search).WellFormed ∧ ∃ found : List Leaf,
      (∀ leaf, leaf ∈ found ↔ leaf.In (.object search)) ∧ found.Pairwise Leaf.Before ∧
        found.map Leaf.pair = [("legs[][]", "SYD"), ("legs[][]", "BKK"), ("legs[][day]", "7"),
          ("legs[]", "true"), ("page[a]]", "x")] := by
  intro search
  have hsearch : (Json.object search).WellFormed := by
    simp only [search, Json.WellFormed, Json.allFieldsWellFormed, Json.allWellFormed, Json.ofNat,
      Fields.Ordered, Fields.names]
    decide
  obtain ⟨found, hfound, hpairwise, hpairs⟩ := pairs_are_leaves hsearch
  exact ⟨hsearch, found, hfound, hpairwise, (Except.ok.inj hpairs).symm.trans rfl⟩

end Query

end Wayfare
