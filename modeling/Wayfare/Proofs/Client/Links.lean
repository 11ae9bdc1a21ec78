import Wayfare.Proofs.Client.Walk
import Wayfare.Proofs.Json.Viewing

/-!
The links of a page and of the plain document with the same text. Both lead to the same pages, so that
it does not matter for a walk whether its answers are taken as pages or as documents.
-/
namespace Wayfare

open Json (Shape)

/-! ## Links in a view -/

section

variable {v seen : Json} {fields given : Fields Json}

theorem PageMeta.find?_textFields (h : Shape.viewFields .text given = .ok fields) (name : String) :
    Fields.find? name (textFields fields) = (Fields.find? name given).bind Json.asString? := by
  induction given generalizing fields with
  | nil =>
    cases h
    rfl
  | cons field rest ih =>
    obtain ⟨n, value⟩ := field
    rw [Shape.viewFields] at h
    split at h
    · cases h
    next w hw =>
    obtain ⟨more, hmore, rfl⟩ := exists_of_map_eq_ok h
    cases value with
    | string s =>
      cases hw
      by_cases hn : n = name
      · simp [textFields, Fields.find?, Json.asString?, hn]
      · simpa [textFields, Fields.find?, Json.asString?, hn] using ih hmore
    | _ => cases hw

/-- Links are null or an object of texts. -/
theorem PageMeta.find?_linksOf (h : (Shape.optional (.dictionary .text)).view v = .ok seen)
    (name : String) :
    (linksOf seen).bind (Fields.find? name) = (v.field? name).bind Json.asString? := by
  cases v with
  | null =>
    cases h
    rfl
  | object given =>
    obtain ⟨fields, hfields, rfl⟩ := exists_of_map_eq_ok h
    exact find?_textFields hfields name
  | _ => cases h

theorem PageMeta.find?_links (hgiven : given.Ordered)
    (h : PageMeta.shape.view (.object given) = .ok seen) (name : String) :
    (ofView seen).links.bind (Fields.find? name) =
      (Fields.find? "links" given).bind fun links => (links.field? name).bind Json.asString? := by
  rcases Shape.field?_of_view hgiven h "links" rfl with
    ⟨v, w, hv, hw, hseen⟩ | ⟨hnone, hseen⟩
  · rw [ofView, hseen, hv]
    exact find?_linksOf hw name
  · rw [ofView, hseen, hnone]
    rfl

/-- A page links to what its document links to. -/
theorem Page.link_of_view {α : Type} [Body α] {data : Shape}
    (hgiven : (Json.object given).WellFormed)
    (hmeta : ∀ m, Fields.find? "meta" given = some m → m = .null ∨ ∃ inner, m = .object inner)
    (h : (Page.shape data).view (.object given) = .ok seen) (relation : Relation) :
    Paged.link relation (Page.ofView seen : Page α) = Paged.link relation (Json.object given) := by
  rw [Json.WellFormed] at hgiven
  have hpage : Paged.link relation (Page.ofView seen : Page α) =
      ((seen.field? "meta").bind Page.present).bind fun m =>
        (PageMeta.ofView m).links.bind (Fields.find? relation.label) := by
    simp only [Paged.link, Page.ofView]
    cases (seen.field? "meta").bind Page.present <;> rfl
  have hdocument : Paged.link relation (Json.object given) =
      (Fields.find? "meta" given).bind fun m =>
        (m.field? "links").bind fun links => (links.field? relation.label).bind Json.asString? := rfl
  rw [hpage, hdocument]
  rcases Shape.field?_of_view hgiven.1 h "meta" rfl with
    ⟨v, w, hv, hw, hseen⟩ | ⟨hnone, hseen⟩
  · rw [hseen, hv]
    rcases hmeta v hv with rfl | ⟨inner, rfl⟩
    · cases hw
      rfl
    · have hinner := Json.wellFormed_of_find? hgiven.2 hv
      rw [Json.WellFormed] at hinner
      have hview : PageMeta.shape.view (.object inner) = .ok w := hw
      obtain ⟨out, rfl⟩ := Shape.exists_object_of_view hview
      have hlabel := PageMeta.find?_links hinner.1 hview relation.label
      rw [Option.bind_some, Option.bind_some]
      exact hlabel
  · rw [hseen, hnone]
    rfl

end

theorem PageMeta.faithful_shape : PageMeta.shape.Faithful := by
  refine Shape.faithful_record ?_ _ _
  simp only [List.forall_mem_cons]
  exact ⟨Shape.faithful_optional (Shape.faithful_natural 64),
    Shape.faithful_optional (Shape.faithful_dictionary Shape.faithful_text), by simp⟩

theorem Page.faithful_shape {data : Shape} (h : data.Faithful) : (Page.shape data).Faithful := by
  refine Shape.faithful_record ?_ _ _
  simp only [List.forall_mem_cons]
  exact ⟨h, Shape.faithful_optional PageMeta.faithful_shape,
    Shape.faithful_optional Shape.faithful_any, by simp⟩

def Json.isObject : Json → Bool
  | .object _ => true
  | _ => false

theorem Json.isObject_iff {v : Json} : v.isObject = true ↔ ∃ fields, v = .object fields := by
  cases v <;> simp [isObject]

namespace Client

variable {σ α β : Type} [Body α] [Body β]

/-! ## Bodies taken in two ways -/

/-- A body that is taken both as data of some type and as a document is data that the type sees in the
document. -/
theorem view_of_decode {status : Nat} {body : List UInt8} {a : α} {v : Json}
    (hfaithful : (Body.shape α).Faithful) (ha : decode status body = .ok a)
    (hv : decode status body = .ok v) :
    ∃ seen, (Body.shape α).view v = .ok seen ∧ Body.ofView seen = a ∧ v.WellFormed := by
  have hread : ∀ {γ : Type} [Body γ] {c : γ}, decode status body = .ok c → ∃ j,
      (Body.shape γ).readFirst (if Answer.isBlank body then Text.utf8 "null" else body) = .ok j ∧
        Body.ofView j = c := by
    intro γ _ c hc
    simp only [decode] at hc
    split at hc
    · next j hj =>
      cases hc
      exact ⟨j, hj, rfl⟩
    · cases hc
  obtain ⟨seen, hseen, rfl⟩ := hread ha
  obtain ⟨j, hj, rfl⟩ := hread hv
  obtain ⟨⟨seen, rest⟩, hfirst, rfl⟩ := exists_of_map_eq_ok hseen
  obtain ⟨⟨j, rest'⟩, hvalue, rfl⟩ := exists_of_map_eq_ok hj
  exact ⟨seen, (hfaithful Json.Scan.maxDepth hfirst hvalue).2, rfl, Json.wellFormed_of_read hvalue⟩

/-! ## Pages of answers taken in two ways -/

/-- What a call does to a session does not depend on how its answer is taken. -/
theorem session_dispatch (client : Client) (network : Network σ) (ask : Acquisition σ)
    (kind : CallKind) (d : Descriptor) (session : Session σ) :
    (client.dispatch network ask kind d session : Done σ (Response α)).session =
      (client.dispatch network ask kind d session : Done σ (Response β)).session := by
  simp only [dispatch, Done.surround]
  cases plan d.method d.params with
  | error e => rfl
  | ok planned =>
    simp only [perform]
    rcases (ask session).result with _ | e | token <;> rfl

theorem pageWith_eq_none_iff [Paged α] {client : Client} {network : Network σ} {ask : Acquisition σ}
    {relation : Relation} {previous : Response α} {session : Session σ} :
    (client.pageWith network ask relation previous session).result = some (.ok none) ↔
      linkedOffset relation previous.data = none := by
  rcases pageWith_cases client network ask relation previous session with
    ⟨hnone, message, hpage⟩ | ⟨offset, hsome, ⟨e, -, hpage⟩ | ⟨verb, -, hpage⟩⟩
  · simp [hpage, hnone, Done.still]
  · simp [hpage, hsome, Done.still]
  · rw [hpage, hsome, Done.result_map_eq_ok_iff]
    simp

/-- Answers with the same link and the same request lead to the same page: to none, or to the same
call. -/
theorem pageWith_alike [Paged α] [Paged β] {relation : Relation} {a : Response α} {b : Response β}
    (hlink : Paged.link relation a.data = Paged.link relation b.data) (hrequest : a.request = b.request)
    (client : Client) (network : Network σ) (ask : Acquisition σ) (session : Session σ) :
    let paged := client.pageWith network ask relation a session
    let paged' := client.pageWith network ask relation b session
    linkedOffset relation a.data = linkedOffset relation b.data ∧
      (paged.result = some (.ok none) ↔ paged'.result = some (.ok none)) ∧
      paged.session = paged'.session := by
  have hoffset : linkedOffset relation a.data = linkedOffset relation b.data := by
    rw [linkedOffset, linkedOffset, hlink]
  refine ⟨hoffset, by rw [pageWith_eq_none_iff, pageWith_eq_none_iff, hoffset], ?_⟩
  simp only [pageWith, hlink, hrequest]
  cases Paged.link relation b.data with
  | none => rfl
  | some link =>
    dsimp only
    cases Page.offsetOfLink link with
    | none => rfl
    | some offset =>
      dsimp only
      cases Verb.ofMethod b.request.method with
      | error e => rfl
      | ok verb =>
        exact session_dispatch client network ask .page (pageRequest b.request offset) session

/-- A body that is an object, whose metadata if any is an object or null, links to the same pages
whether it is taken as a page or as a document. In each relation the next page of both answers is the
same: none, or a call with the same offset, which sends the same and leaves the same session. -/
theorem same_page_either_way {status : Nat} {body : List UInt8} {page : Page (List Json)}
    {fields : Fields Json} (hpage : decode status body = .ok page)
    (hobject : decode status body = .ok (Json.object fields))
    (hmeta : ∀ m, Fields.find? "meta" fields = some m → m = .null ∨ ∃ inner, m = .object inner) :
    (∀ relation, Paged.link relation page = Paged.link relation (Json.object fields)) ∧
    ∀ (relation : Relation) (status : Nat) (request : Descriptor) {σ : Type} (client : Client)
      (network : Network σ) (ask : Acquisition σ) (session : Session σ),
      let typed := client.pageWith network ask relation ⟨page, status, request⟩ session
      let untyped := client.pageWith network ask relation ⟨Json.object fields, status, request⟩ session
      linkedOffset relation page = linkedOffset relation (Json.object fields) ∧
        (typed.result = some (.ok none) ↔ untyped.result = some (.ok none)) ∧
        typed.session = untyped.session := by
  obtain ⟨seen, hview, rfl, hgiven⟩ :=
    view_of_decode (Page.faithful_shape (Shape.faithful_list Shape.faithful_any)) hpage hobject
  have hlink : ∀ relation, Paged.link relation (Page.ofView seen : Page (List Json)) =
      Paged.link relation (Json.object fields) :=
    Page.link_of_view hgiven hmeta hview
  refine ⟨hlink, ?_⟩
  intro relation status request σ client network ask session
  let typed : Response (Page (List Json)) := ⟨Page.ofView seen, status, request⟩
  let untyped : Response Json := ⟨.object fields, status, request⟩
  have hsame : Paged.link relation typed.data = Paged.link relation untyped.data := hlink relation
  exact pageWith_alike hsame rfl client network ask session

/-- A page with a repeated link, a null and a field that pages do not have. -/
def repeatedLink : List UInt8 :=
  Text.utf8 ("\x7b\"x\":[\x7b\x7d],\"meta\":\x7b\"count\":null,\"links\":\x7b\"next\":\"/items?page[offset]=1\"," ++
    "\"next\":\"/items?page[offset]=2\"\x7d\x7d,\"data\":[true]\x7d")

/-- The later of two links counts, for the page as for the document. -/
theorem repeatedLink_either_way :
    ∃ (page : Page (List Json)) (fields : Fields Json),
      decode 200 repeatedLink = .ok page ∧ decode 200 repeatedLink = .ok (Json.object fields) ∧
      linkedOffset .next (Json.object fields) = some "2" ∧
      linkedOffset .next page = linkedOffset .next (Json.object fields) := by
  have hpage : (decode 200 repeatedLink : Except CallError (Page (List Json))).toOption.isSome =
      true := by
    decide +kernel
  have hobject : (decode 200 repeatedLink : Except CallError Json).toOption.any (fun v =>
      v.isObject && (v.field? "meta").any Json.isObject && linkedOffset .next v == some "2") =
        true := by
    decide +kernel
  obtain ⟨page, hpage⟩ := Option.isSome_iff_exists.mp hpage
  obtain ⟨v, hv, hcheck⟩ := (Option.any_eq_true _ _).mp hobject
  rw [toOption_eq_some_iff] at hpage hv
  simp only [Bool.and_eq_true, beq_iff_eq] at hcheck
  obtain ⟨⟨hv', hinner⟩, hsecond⟩ := hcheck
  obtain ⟨fields, rfl⟩ := Json.isObject_iff.mp hv'
  have hmeta : ∀ m, Fields.find? "meta" fields = some m → m = .null ∨ ∃ inner, m = .object inner := by
    intro m hm
    rw [Json.field?, hm] at hinner
    exact .inr (Json.isObject_iff.mp hinner)
  have halike := same_page_either_way hpage hv hmeta
  have hlinked : linkedOffset .next page = linkedOffset .next (Json.object fields) := by
    rw [linkedOffset, linkedOffset, halike.1]
  exact ⟨page, fields, hpage, hv, hsecond, hlinked⟩

end Client

end Wayfare
