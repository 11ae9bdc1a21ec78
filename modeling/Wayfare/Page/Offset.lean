import Wayfare.Json.Basic
import Wayfare.Url.Address

/-!
The offset of a page: a parameter of the requests for pages, and a query pair of the links to them.
-/
namespace Wayfare.Page

/-- The key of the offset in a query. -/
def offsetKey : String := "page[offset]"

/-- What a relative link is relative to; of the whole link only the query matters. -/
def linkBase : Url :=
  ⟨"http".toList, some ⟨[], [], .name "localhost".toList, none⟩, .segments [[]], none, none⟩

/-- The offset that a link asks for: the first value under the key, unless it is empty. -/
def offsetOfLink (link : String) : Option String :=
  match Url.resolve linkBase link with
  | .error _ => none
  | .ok url => ((url.pairs.find? (·.1 == offsetKey)).map (·.2)).filter (!·.isEmpty)

/-- The fields of an object; any other document counts as an empty object. -/
def fieldsOrNone : Json → Fields Json
  | .object fields => fields
  | _ => []

/-- The parameters with the offset of their page set; all other parameters stay. -/
def withOffset (params : Json) (offset : String) : Json :=
  let fields := fieldsOrNone params
  let page := fieldsOrNone ((Fields.find? "page" fields).getD .null)
  .object (Fields.insert "page" (.object (Fields.insert "offset" (.string offset) page)) fields)

/-- An offset that is set again replaces the earlier one. -/
theorem withOffset_withOffset (params : Json) (offset later : String) :
    withOffset (withOffset params offset) later = withOffset params later := by
  simp [withOffset, fieldsOrNone, Fields.find?_insert_self, Fields.insert_insert]

end Wayfare.Page
