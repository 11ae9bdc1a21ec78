import Wayfare.Client.Dispatch
import Wayfare.Page.Offset

/-!
Pages of an answer. The request of the answer is sent again with the offset of the linked page.
-/
namespace Wayfare.Client

/-- What is told of a page that is not there. -/
def noPageEvent (relation : Relation) (message : String) : Entry :=
  .event ⟨.debug, message, [("relation", .text relation.label)], none⟩

/-- The request for the page at an offset. -/
def pageRequest (request : Descriptor) (offset : String) : Descriptor :=
  { request with params := Page.withOffset request.params offset }

/-- The page that stands in a relation to an answer; none without any request if the answer links to
none, or if the link names no offset. -/
def pageWith [Paged α] [Body α] (client : Client) (network : Network σ) (ask : Acquisition σ)
    (relation : Relation) (previous : Response α) : Action σ (Option (Response α)) := fun session =>
  match Paged.link relation previous.data with
  | none =>
    .still session (some (.ok none))
      [noPageEvent relation "Response has no link for the requested page."]
  | some link =>
    match Page.offsetOfLink link with
    | none =>
      .still session (some (.ok none))
        [noPageEvent relation "Page link carries no usable offset."]
    | some offset =>
      match Verb.ofMethod previous.request.method with
      | .error e => .still session (some (.error e))
      | .ok _ =>
        (client.dispatch network ask .page (pageRequest previous.request offset) session).map
          some

/-- The same while no other call waits for a token. -/
def page [Paged α] [Body α] (client : Client) (network : Network σ) (relation : Relation)
    (previous : Response α) : Action σ (Option (Response α)) :=
  client.pageWith network (client.obtain network) relation previous

end Wayfare.Client
