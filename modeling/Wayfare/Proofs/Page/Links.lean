import Wayfare.Page.Offset
import Wayfare.Proofs.Query.Keys
import Wayfare.Proofs.Url.Query
import Wayfare.Proofs.Url.Relative

/-!
Links to pages. Of a link only the query matters: whether it names a host, only a path, or neither, the
offset that it asks for is that of the query as it was written.
-/
namespace Wayfare.Page

/-- The first value under the key of the offset, unless it is empty. -/
def firstOffset (pairs : List (String × String)) : Option String :=
  (Query.valuesAt offsetKey pairs).head?.filter (· ≠ "")

theorem find?_offsetKey (pairs : List (String × String)) :
    ((pairs.find? (·.1 == offsetKey)).map (·.2)).filter (!·.isEmpty) = firstOffset pairs := by
  have hfirst : (pairs.find? (·.1 == offsetKey)).map (·.2) =
      (Query.valuesAt offsetKey pairs).head? := by
    rw [← List.head?_filter, ← List.head?_map]
    rfl
  rw [hfirst, firstOffset]
  congr 1
  funext value
  rw [Bool.eq_iff_iff]
  simp

/-- A link to an address with an escaped query asks for the offset of the plain one. -/
theorem offsetOfLink_of_query {link : String} {query : List Char}
    (h : ∃ u, Url.resolve linkBase link = .ok u ∧
      u.query = some (Url.escape Url.webQuerySet query)) :
    offsetOfLink link = firstOffset (Url.Form.decode query) := by
  obtain ⟨u, hu, hquery⟩ := h
  rw [offsetOfLink, hu]
  dsimp only
  rw [find?_offsetKey, Url.pairs, hquery, Option.getD_some, Url.Form.decode_escape]

/-- The characters of a route: those of a path, and no colon, which would end a scheme. -/
def isRouteChar (c : Char) : Bool :=
  Url.isPathChar c && c != ':'

theorem isRouteChar_iff {c : Char} :
    isRouteChar c = true ↔ Url.isPathChar c = true ∧ c ≠ ':' := by
  simp [isRouteChar]

section

variable {query host path : String}

theorem offsetOfLink_host {scheme : String} (hscheme : scheme = "http" ∨ scheme = "https")
    (hquery : '#' ∉ query.toList)
    (hhost : ∀ c ∈ host.toList, Url.Authority.isAuthorityChar c = true)
    (haccepted : (Url.parse ("http://" ++ host)).isOk = true)
    (hpath : ∀ c ∈ path.toList, Url.isPathChar c = true) :
    offsetOfLink (scheme ++ "://" ++ host ++ "/" ++ path ++ "?" ++ query) =
      firstOffset (Url.Form.decode (Url.cleanQuery query.toList)) := by
  refine offsetOfLink_of_query ?_
  have htext : (scheme ++ "://" ++ host ++ "/" ++ path ++ "?" ++ query).toList =
      Url.schemeText scheme.toList ++ (host.toList ++ '/' :: path.toList) ++ '?' :: query.toList := by
    simp [Url.schemeText]
  rw [Url.resolve, htext]
  exact Url.resolve_host (hscheme.imp (congrArg _) (congrArg _)) hhost haccepted hpath hquery _

theorem offsetOfLink_relative (front : String) (hquery : '#' ∉ query.toList)
    (hfront : ∀ c ∈ front.toList, isRouteChar c = true)
    (hslashes : (front.toList.takeWhile Url.Family.web.isSlash).length < 2) :
    offsetOfLink (front ++ "?" ++ query) =
      firstOffset (Url.Form.decode (Url.cleanQuery query.toList)) := by
  refine offsetOfLink_of_query ?_
  have hchars : ∀ c ∈ front.toList, Url.isPathChar c = true ∧ c ≠ ':' := fun c hc =>
    isRouteChar_iff.mp (hfront c hc)
  have htext : (front ++ "?" ++ query).toList = front.toList ++ '?' :: query.toList := by simp
  rw [Url.resolve, htext]
  exact Url.resolve_relative (fun c hc => (hchars c hc).1) (fun hin => (hchars _ hin).2 rfl) hslashes
    hquery _

/-- Links to one query ask for the same offset: behind a host, which may have a user and a port, behind
a path from the root, behind a path that begins with no slash, and on its own. Where nothing of the query
is dropped, it is the first offset among the pairs of the query as it is written. -/
theorem links_agree (hquery : '#' ∉ query.toList)
    (hhost : ∀ c ∈ host.toList, Url.Authority.isAuthorityChar c = true)
    (haccepted : (Url.parse ("http://" ++ host)).isOk = true)
    (hpath : ∀ c ∈ path.toList, isRouteChar c = true)
    (hfirst : path.toList.head?.all (!Url.Family.web.isSlash ·)) :
    (∀ link ∈ [ "http://" ++ host ++ "/" ++ path ++ "?" ++ query,
        "https://" ++ host ++ "/" ++ path ++ "?" ++ query,
        "/" ++ path ++ "?" ++ query, path ++ "?" ++ query],
      offsetOfLink link = offsetOfLink ("?" ++ query)) ∧
    ((∀ c ∈ query.toList, Url.counts c = true) →
      (∀ c ∈ query.toList.getLast?, 0x20 < c.toNat) →
      offsetOfLink ("?" ++ query) = firstOffset (Url.Form.decode query.toList)) := by
  have halone : offsetOfLink ("?" ++ query) =
      firstOffset (Url.Form.decode (Url.cleanQuery query.toList)) :=
    offsetOfLink_relative "" hquery (by simp) (by simp)
  have hpathChars : ∀ c ∈ path.toList, Url.isPathChar c = true := fun c hc =>
    (isRouteChar_iff.mp (hpath c hc)).1
  have hnone : path.toList.takeWhile Url.Family.web.isSlash = [] :=
    @Text.takeWhile_append_of_head Char Url.Family.web.isSlash [] path.toList hfirst
  have hroot : offsetOfLink ("/" ++ path ++ "?" ++ query) =
      firstOffset (Url.Form.decode (Url.cleanQuery query.toList)) := by
    refine offsetOfLink_relative ("/" ++ path) hquery ?_ ?_
    · simpa using ⟨by decide, hpath⟩
    · have hslash : Url.Family.web.isSlash '/' = true := by decide
      simp [hslash, hnone]
  have hbare : offsetOfLink (path ++ "?" ++ query) =
      firstOffset (Url.Form.decode (Url.cleanQuery query.toList)) :=
    offsetOfLink_relative path hquery hpath (by simp [hnone])
  have hhttp : "http" ++ "://" = "http://" := rfl
  have hhttps : "https" ++ "://" = "https://" := rfl
  constructor
  · rw [halone, ← hhttp, ← hhttps]
    simp only [List.forall_mem_cons, List.not_mem_nil, false_imp_iff, implies_true, and_true]
    exact ⟨offsetOfLink_host (.inl rfl) hquery hhost haccepted hpathChars,
      offsetOfLink_host (.inr rfl) hquery hhost haccepted hpathChars, hroot, hbare⟩
  · intro hcounts hlast
    rw [halone, Url.cleanQuery_of_forall hcounts hlast]

/-- A query with the key of the offset twice, escaped in part, and bytes that are no text. -/
def oddQuery : String :=
  "page[limit]=3&&page%5Boffset]=%ff+é%2&page[offset]=7"

theorem links_with_odd_query :
    (∀ link ∈ [ "http://" ++ "Api2.Test" ++ "/" ++ "v1/items" ++ "?" ++ oddQuery,
        "https://" ++ "Api2.Test" ++ "/" ++ "v1/items" ++ "?" ++ oddQuery,
        "/" ++ "v1/items" ++ "?" ++ oddQuery, "v1/items" ++ "?" ++ oddQuery],
      offsetOfLink link = some "\uFFFD é%2") ∧
    offsetOfLink ("?" ++ oddQuery) = some "\uFFFD é%2" := by
  have hquery : '#' ∉ oddQuery.toList := by decide +kernel
  have hhost : ∀ c ∈ "Api2.Test".toList, Url.Authority.isAuthorityChar c = true :=
    List.all_eq_true.mp (by decide)
  have hpath : ∀ c ∈ "v1/items".toList, isRouteChar c = true := List.all_eq_true.mp (by decide)
  have hcounts : ∀ c ∈ oddQuery.toList, Url.counts c = true :=
    List.all_eq_true.mp (by decide +kernel)
  have hlast : ∀ c ∈ oddQuery.toList.getLast?, 0x20 < c.toNat := by
    have hseven : oddQuery.toList.getLast? = some '7' := by decide +kernel
    intro c hc
    obtain rfl : c = '7' := Option.some.inj (hc.symm.trans hseven)
    decide
  have hread : firstOffset (Url.Form.decode oddQuery.toList) = some "\uFFFD é%2" := by
    decide +kernel
  obtain ⟨hsame, hplain⟩ :=
    links_agree hquery hhost (by decide +kernel) hpath (by decide)
  have halone : offsetOfLink ("?" ++ oddQuery) = some "\uFFFD é%2" :=
    (hplain hcounts hlast).trans hread
  exact ⟨fun link hlink => (hsame link hlink).trans halone, halone⟩

end

end Wayfare.Page
