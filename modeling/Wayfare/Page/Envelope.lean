import Wayfare.Json.Shape

/-!
The envelope of a paged answer: the items of one page, and links to others by relation.
-/
namespace Wayfare

/-- How a page stands to another. -/
inductive Relation where
  | next
  | previous
  | first
  | last
  deriving DecidableEq, Repr

namespace Relation

/-- The name of a relation among the links of a page. -/
def label : Relation → String
  | .next => "next"
  | .previous => "previous"
  | .first => "first"
  | .last => "last"

def all : List Relation := [.next, .previous, .first, .last]

def ofLabel? (s : String) : Option Relation :=
  all.find? (·.label == s)

/-- What is said of a name that is no relation. -/
def unknownMessage (name : String) : String :=
  "Unknown page relation `" ++ name ++ "`."

theorem ofLabel?_label (r : Relation) : ofLabel? r.label = some r := by
  cases r <;> decide

end Relation

/-- What a page tells about the whole collection. -/
structure PageMeta where
  count : Option UInt64 := none
  /-- Links by the name of their relation. -/
  links : Option (Fields String) := none

/-- One page of a collection, with data of some type. -/
structure Page (α : Type) where
  data : α
  meta? : Option PageMeta := none
  /-- Tables that the data refers to. -/
  dictionaries : Option Json := none

/-- A type of data in the bodies of answers: how a body is decoded, and how the data is written. -/
class Body (α : Type) where
  shape : Json.Shape
  /-- The data of a document of the shape. -/
  ofView : Json → α
  toJson : α → Json

namespace PageMeta

def shape : Json.Shape :=
  .record "struct PageMeta" .tuple
    [⟨"count", .optional (.natural 64), false⟩,
      ⟨"links", .optional (.dictionary .text), false⟩]

/-- The texts among the fields of an object. -/
def textFields (fields : Fields Json) : Fields String :=
  fields.filterMap fun (name, value) => value.asString?.map fun s => (name, s)

/-- A whole number that fits sixty-four bits. -/
def countOf : Json → Option UInt64
  | .number (.whole n) => some (UInt64.ofNat n.toNat)
  | _ => none

def linksOf : Json → Option (Fields String)
  | .object fields => some (textFields fields)
  | _ => none

/-- The envelope data of a document of the shape. -/
def ofView (j : Json) : PageMeta :=
  ⟨(j.field? "count").bind countOf, (j.field? "links").bind linksOf⟩

/-- Links as a document. -/
def linksJson (links : Fields String) : Json :=
  .object (links.map fun (name, link) => (name, .string link))

/-- The fields that are present. -/
def toJson (m : PageMeta) : Json :=
  .object
    ((m.count.map fun n => ("count", Json.ofNat n.toNat)).toList ++
      (m.links.map fun links => ("links", linksJson links)).toList)

end PageMeta

/-- Any document. -/
instance : Body Json := ⟨.any, id, id⟩

/-- The items of a list; nothing else is of its shape. -/
def Json.items : Json → List Json
  | .array items => items
  | _ => []

instance : Body (List Json) := ⟨.list .any, Json.items, .array⟩

namespace Page

variable {α : Type}

def shape (data : Json.Shape) : Json.Shape :=
  .record "struct Page" .tuple
    [⟨"data", data, true⟩, ⟨"meta", .optional PageMeta.shape, false⟩,
      ⟨"dictionaries", .optional .any, false⟩]

/-- A value other than null. -/
def present : Json → Option Json
  | .null => none
  | j => some j

/-- The page of a document of the shape. -/
def ofView [Body α] (j : Json) : Page α where
  data := Body.ofView ((j.field? "data").getD .null)
  meta? := ((j.field? "meta").bind present).map PageMeta.ofView
  dictionaries := (j.field? "dictionaries").bind present

/-- The page that a document is, or the path to the first part that does not fit. -/
def ofJson [Body α] (j : Json) : Except Json.Path (Page α) :=
  ((shape (Body.shape α)).view j).map ofView

/-- The fields that are present, in the order of their names. -/
def toJson [Body α] (p : Page α) : Json :=
  .object
    (("data", Body.toJson p.data) ::
      ((p.dictionaries.map fun d => ("dictionaries", d)).toList ++
        (p.meta?.map fun m => ("meta", m.toJson)).toList))

end Page

instance [Body α] : Body (Page α) := ⟨Page.shape (Body.shape α), Page.ofView, Page.toJson⟩

/-- A body that may link to other pages. -/
class Paged (α : Type) where
  link : Relation → α → Option String

/-- Of a plain document: the text under the relation's name among the links of its metadata. -/
instance : Paged Json where
  link r j :=
    (j.field? "meta").bind fun m =>
      (m.field? "links").bind fun links => (links.field? r.label).bind Json.asString?

instance : Paged (Page α) where
  link r p := p.meta?.bind fun m => m.links.bind fun links => Fields.find? r.label links

end Wayfare
