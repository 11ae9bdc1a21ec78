import Wayfare.Proofs.Client.Decoding
import Wayfare.Proofs.Client.Queries
import Wayfare.Proofs.Url.Below

/-!
Identifiers in the paths of items. An identifier is put behind the path of its collection as it is, and
what it addresses there is for the reader of addresses to say: one segment below the collection, several,
another place, or a query.
-/
namespace Wayfare

open Url (Parts walk isStill)

/-! ## Identifiers in an address -/

/-- What an address reads of an identifier at its end. Tabs and line breaks do not count, nor do controls
and spaces behind the identifier. -/
def identifierParts (id : String) : Parts :=
  Parts.ofText ((id.toList.reverse.dropWhile (·.toNat ≤ 0x20)).reverse.filter Url.counts)

/-- The segments that an identifier is read as; a backslash counts as a slash. -/
def identifierPieces (id : String) : List (List Char) :=
  Text.cutBy Url.Family.web.isSlash (identifierParts id).front

/-- An identifier that addresses one segment below a place: it ends in a segment that is neither empty
nor dots, in front of which nothing stands that leads elsewhere, and it begins no query. -/
structure OneSegment (place : List (List Char)) (id : String) : Prop where
  back : walk .web place (identifierPieces id).dropLast = place
  named : (identifierPieces id).getLastD [] ≠ []
  still : isStill ((identifierPieces id).getLastD []) = true
  queryless : (identifierParts id).query.getD [] = []

/-- The segments of a collection. -/
def ItemOp.names (op : ItemOp) : List (List Char) :=
  Text.cut '/' (op.collection.toList.drop 1)

section

variable {id : String} {op : ItemOp} {place names : List (List Char)}

theorem oneSegment_iff :
    OneSegment place id ↔
      (∃ name, name ≠ [] ∧
        Url.addSegments .web place (identifierPieces id) = place ++ [name]) ∧
      (identifierParts id).query.getD [] = [] := by
  obtain ⟨front, last, hpieces⟩ :=
    List.eq_nil_or_concat (identifierPieces id) |>.resolve_left (Text.cutBy_ne_nil _ _)
  rw [List.concat_eq_append] at hpieces
  have hback : (identifierPieces id).dropLast = front := by simp [hpieces]
  have hlast : (identifierPieces id).getLastD [] = last := by simp [hpieces]
  rw [hpieces, Url.addSegments_concat]
  constructor
  · intro h
    have hplace := h.back
    have hnamed := h.named
    have hstill := h.still
    rw [hback] at hplace
    rw [hlast] at hnamed hstill
    have hname : Url.escape Url.pathSet last ≠ [] := fun hnil => hnamed (Url.escape_eq_nil_iff.mp hnil)
    exact ⟨⟨_, hname, (Url.addSegment_eq_concat_iff hname).mpr ⟨hstill, hplace, rfl⟩⟩, h.queryless⟩
  · rintro ⟨⟨name, hname, hpath⟩, hquery⟩
    obtain ⟨hstill, hplace, rfl⟩ := (Url.addSegment_eq_concat_iff hname).mp hpath
    refine ⟨by rwa [hback], ?_, by rwa [hlast], hquery⟩
    rw [hlast]
    rintro rfl
    exact hname rfl

theorem clean_item (op : ItemOp) (id : String) :
    Url.clean (op.collection ++ "/" ++ id).toList =
      op.collection.toList ++
        '/' :: (id.toList.reverse.dropWhile (·.toNat ≤ 0x20)).reverse.filter Url.counts := by
  obtain ⟨rest, hrest, hcounts⟩ : ∃ rest, op.collection.toList = '/' :: rest ∧
      rest.filter Url.counts = rest := by
    cases op <;> exact ⟨_, rfl, by decide⟩
  have hcs : (op.collection ++ "/" ++ id).toList = '/' :: (rest ++ '/' :: id.toList) := by
    simp [String.toList_append, hrest]
  have hend : (rest ++ '/' :: id.toList).reverse.dropWhile (·.toNat ≤ 0x20) =
      id.toList.reverse.dropWhile (·.toNat ≤ 0x20) ++ '/' :: rest.reverse := by
    rw [List.reverse_append, List.reverse_cons, List.append_assoc]
    exact Text.dropWhile_append_of_head rfl
  have hslash : Url.counts '/' = true := rfl
  rw [hcs, hrest, Url.clean_eq, Text.trimBy_cons (by decide), hend, List.reverse_append,
    List.reverse_cons, List.reverse_reverse, List.append_assoc, List.filter_cons_of_pos hslash,
    List.filter_append, hcounts]
  rfl

theorem parts_item (op : ItemOp) (id : String) :
    Parts.ofText (Url.clean (op.collection ++ "/" ++ id).toList) =
      ⟨op.collection.toList ++ '/' :: (identifierParts id).front, (identifierParts id).query,
        (identifierParts id).fragment⟩ := by
  have hplain : (op.collection.toList ++ ['/']).any Url.opensTail = false := by
    cases op <;> decide
  have h := Parts.ofText_append hplain
    ((id.toList.reverse.dropWhile (·.toNat ≤ 0x20)).reverse.filter Url.counts)
  rw [List.append_assoc, List.append_assoc] at h
  rw [clean_item]
  exact h

theorem walk_names (op : ItemOp) (names : List (List Char)) :
    walk .web names (Text.cutBy Url.Family.web.isSlash (op.collection.toList.drop 1)) =
      names ++ op.names := by
  have hnames : Text.cutBy Url.Family.web.isSlash (op.collection.toList.drop 1) = op.names := by
    cases op <;> decide
  have hstill : ∀ piece ∈ op.names, isStill piece = true := by
    cases op <;> decide
  have hescape : op.names.map (Url.escape Url.pathSet) = op.names := by
    cases op <;> decide
  rw [hnames, Url.walk_still hstill, hescape]

/-! ## Requests for items -/

/-- The address of an item: from the place of the base on through the segments of the collection and
those of the identifier, with the query that the identifier begins. -/
theorem address_item {c : Credentials} {u v : Url} (hu : Url.parse c.baseUrl = .ok u)
    (hweb : Url.familyOf u.scheme = .web) (hquery : u.query = none) (hfragment : u.fragment = none)
    (hv : Url.parse (c.endpoint (op.collection ++ "/" ++ id)) = .ok v) :
    (Url.endBlanks c.baseUrl.toList = [] → u.segments = Url.place c.baseUrl.toList ∨
        u.segments = Url.place c.baseUrl.toList ++ [[]]) ∧
      v.path = .segments
        (Url.addSegments .web (Url.place c.baseUrl.toList ++ op.names) (identifierPieces id)) ∧
      v.query = (identifierParts id).writtenQuery .web := by
  obtain ⟨rest, hrest⟩ : ∃ rest, op.collection.toList = '/' :: rest := by
    cases op <;> exact ⟨_, rfl⟩
  have hcs : (op.collection ++ "/" ++ id).toList = '/' :: (rest ++ '/' :: id.toList) := by
    simp [String.toList_append, hrest]
  have hparts := parts_item op id
  rw [hcs] at hparts
  rw [Url.parse, Credentials.endpoint, String.toList_append, hcs] at hv
  obtain ⟨hbase, front, hfront, hpath, hwritten⟩ := Url.path_below hu hweb hquery hfragment hv
  rw [hparts] at hfront hwritten
  obtain rfl : rest ++ '/' :: (identifierParts id).front = front := by
    rw [hrest] at hfront
    exact List.cons.inj hfront |>.2
  have hslash : Url.Family.web.isSlash '/' = true := rfl
  have hnames := walk_names op (Url.place c.baseUrl.toList)
  rw [hrest, List.drop_one, List.tail_cons] at hnames
  rw [Text.cutBy_append hslash, Url.addSegments_append _ _ (Text.cutBy_ne_nil _ _), hnames] at hpath
  exact ⟨hbase, hpath, hwritten⟩

end

namespace Client

variable {σ α : Type} [Body α]

/-- A request without pairs of its own has the query that its path begins, unless that is empty. -/
theorem query_eq_none_iff {v bare : Url} (hbare : bare = v ∨ bare = v.withoutUser) {parts : Parts}
    (hquery : v.query = parts.writtenQuery .web) :
    (bare.withPairs []).onWire.query = none ↔ parts.query.getD [] = [] := by
  have hsame : bare.query = parts.writtenQuery .web := by
    rcases hbare with rfl | rfl <;> exact hquery
  have hwire : (bare.withPairs []).onWire.query =
      if (bare.query.getD []).isEmpty then none else some (bare.query.getD []) := rfl
  rw [hwire, hsame, Parts.writtenQuery]
  cases parts.query with
  | none => simp
  | some q => simp [Url.escape_eq_nil_iff]

/-- A request without pairs of its own has the segments of its address, if there are any. -/
theorem path_onWire {v bare : Url} (hbare : bare = v ∨ bare = v.withoutUser)
    {segments : List (List Char)} (hne : segments ≠ []) (hpath : v.path = .segments segments) :
    (bare.withPairs []).onWire.path = .segments segments := by
  have hsame : bare.path = v.path := by rcases hbare with rfl | rfl <;> rfl
  have hwire : (bare.withPairs []).onWire.path =
      if bare.path = .segments [] then .segments [[]] else bare.path := rfl
  have hfull : Url.Path.segments segments ≠ .segments [] := by
    rwa [ne_eq, Url.Path.segments.injEq]
  rw [hwire, hsame, hpath, if_neg hfull]

/-- A client with a path in its base. -/
def basedClient : Client :=
  ⟨⟨⟨"https://api.test/base", "id", ⟨"secret"⟩⟩, "app", defaultTimeout⟩, Page.linkBase⟩

theorem parse_base : Url.parse basedClient.settings.credentials.baseUrl = .ok
    ⟨"https".toList, some ⟨[], [], .name "api.test".toList, none⟩, .segments ["base".toList], none,
      none⟩ := by
  decide +kernel

/-- The deletion of an order. -/
def deletion (id : String) : Done (Nat × List Sent) (Response Json) :=
  basedClient.item linking.recorded .deleteFlightOrder id (supplied (0, []))

end Client

end Wayfare
