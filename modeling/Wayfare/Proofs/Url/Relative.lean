import Wayfare.Proofs.Url.Below
import Wayfare.Proofs.Url.Written

/-!
Addresses with a query, absolute and relative ones: whichever way the text before the question mark is
read, the query is what stands behind it.
-/
namespace Wayfare.Url

variable {front query : List Char}

/-! ## The text of a query -/

/-- The text of a query without the controls and spaces at its end, and without tabs and line breaks. -/
def cleanQuery (query : List Char) : List Char :=
  (query.reverse.dropWhile (·.toNat ≤ 0x20)).reverse.filter counts

theorem cleanQuery_of_forall (hcounts : ∀ c ∈ query, counts c = true)
    (hlast : ∀ c ∈ query.getLast?, 0x20 < c.toNat) : cleanQuery query = query := by
  have hend : query.reverse.dropWhile (·.toNat ≤ 0x20) = query.reverse := by
    rw [← List.head?_reverse] at hlast
    cases hquery : query.reverse with
    | nil => rfl
    | cons c cs =>
      have hc : ¬ c.toNat ≤ 0x20 := Nat.not_le.mpr (hlast c (by rw [hquery]; rfl))
      rw [List.dropWhile_cons_of_neg (by simpa using hc)]
  rw [cleanQuery, hend, List.reverse_reverse, List.filter_eq_self]
  exact hcounts

theorem mem_of_mem_cleanQuery {c : Char} (h : c ∈ cleanQuery query) : c ∈ query := by
  have hrest := List.mem_reverse.mp (List.mem_filter.mp h).1
  exact List.mem_reverse.mp ((List.dropWhile_suffix _).mem hrest)

theorem clean_query (hfront : ∀ c ∈ front, 0x20 < c.toNat) (query : List Char) :
    clean (front ++ '?' :: query) = front ++ '?' :: cleanQuery query := by
  have hhead : front.head?.all fun c => !decide (c.toNat ≤ 0x20) := by
    cases front with
    | nil => rfl
    | cons c cs => simpa using hfront c List.mem_cons_self
  have htrim : Text.trimBy (·.toNat ≤ 0x20) ([] ++ front ++ '?' :: query) =
      front ++ Text.trimBy (·.toNat ≤ 0x20) ('?' :: query) :=
    Text.trimBy_append_of_head (List.forall_mem_nil _) hhead rfl (List.cons_ne_nil _ _)
  have hcounts : front.filter counts = front :=
    List.filter_eq_self.mpr fun c hc => counts_of_lt (hfront c hc)
  rw [List.nil_append, Text.trimBy_cons (by decide)] at htrim
  rw [clean_eq, htrim, List.filter_append, hcounts]
  rfl

theorem ofText_plain (hfront : ∀ c ∈ front, isPathChar c = true) :
    Parts.ofText (clean front) = ⟨front, none, none⟩ := by
  have hchars : ∀ c ∈ front, 0x20 < c.toNat ∧ c ≠ '?' ∧ c ≠ '#' := fun c hc =>
    isPathChar_iff.mp (hfront c hc)
  have hwhole : front ++ queryText none = front := List.append_nil front
  have hparts : Parts.ofText (front ++ queryText none) = ⟨front, none, none⟩ :=
    ofText_front (fun hin => (hchars _ hin).2.1 rfl)
      fun hin => (hchars _ (hwhole ▸ hin)).2.2 rfl
  rw [clean_of_forall fun c hc => (hchars c hc).1, ← hparts, hwhole]

theorem ofText_query (hfront : ∀ c ∈ front, isPathChar c = true) (hsign : '#' ∉ query) :
    Parts.ofText (clean (front ++ '?' :: query)) = ⟨front, some (cleanQuery query), none⟩ := by
  have hchars : ∀ c ∈ front, 0x20 < c.toNat ∧ c ≠ '?' ∧ c ≠ '#' := fun c hc =>
    isPathChar_iff.mp (hfront c hc)
  have hnone : '#' ∉ front ++ queryText (some (cleanQuery query)) := by
    rw [queryText, List.mem_append, List.mem_cons, not_or, not_or]
    exact ⟨fun hin => (hchars _ hin).2.2 rfl, by decide,
      fun hin => hsign (mem_of_mem_cleanQuery hin)⟩
  rw [clean_query fun c hc => (hchars c hc).1]
  exact ofText_front (fun hin => (hchars _ hin).2.1 rfl) hnone

/-! ## Relative addresses -/

/-- Two slashes in front would begin a host. -/
theorem exists_ofRelative (base : Url) (parts : Parts) (hquery : parts.query.isSome)
    (hslashes : (front.takeWhile Family.web.isSlash).length < 2) :
    ∃ u, ofRelative base parts front = .ok u ∧ u.query = parts.writtenQuery .web := by
  have hwritten : (parts.writtenQuery .web).isSome := by
    rw [Parts.writtenQuery, Option.isSome_map, hquery]
  cases front with
  | nil =>
    refine ⟨_, rfl, ?_⟩
    dsimp only
    rw [if_pos hwritten]
  | cons a rest =>
    by_cases ha : Family.web.isSlash a = true
    · have hnext : rest.head?.any Family.web.isSlash = false := by
        cases rest with
        | nil => rfl
        | cons b rest =>
          rw [List.takeWhile_cons_of_pos ha, List.takeWhile_cons] at hslashes
          cases hb : Family.web.isSlash b with
          | false => simpa using hb
          | true => simp [hb] at hslashes
      simp only [ofRelative, ha, hnext, if_true, Bool.false_eq_true, if_false]
      exact ⟨_, rfl, rfl⟩
    · simp only [ofRelative, ha, Bool.false_eq_true, if_false]
      exact ⟨_, rfl, rfl⟩

theorem resolve_relative (hfront : ∀ c ∈ front, isPathChar c = true) (hcolon : ':' ∉ front)
    (hslashes : (front.takeWhile Family.web.isSlash).length < 2) (hsign : '#' ∉ query)
    (base : Url) : ∃ u, ofText (some base) (front ++ '?' :: query) = .ok u ∧
      u.query = some (escape webQuerySet (cleanQuery query)) := by
  obtain ⟨u, hu, hquery⟩ :=
    exists_ofRelative base ⟨front, some (cleanQuery query), none⟩ rfl hslashes
  refine ⟨u, ?_, hquery⟩
  simp only [ofText, ofText_query hfront hsign, cutScheme_of_not_mem hcolon]
  exact hu

/-! ## Addresses with a host -/

section

variable {scheme cs : List Char}

/-- The text before the host. -/
def schemeText (scheme : List Char) : List Char :=
  scheme ++ [':', '/', '/']

theorem isPathChar_schemeText (hscheme : scheme = "http".toList ∨ scheme = "https".toList) :
    ∀ c ∈ schemeText scheme, isPathChar c = true := by
  rw [← List.all_eq_true]
  rcases hscheme with rfl | rfl <;> decide

theorem ofText_schemeText (hscheme : scheme = "http".toList ∨ scheme = "https".toList)
    {text : List Char} (htext : text.head?.all (!Family.web.isSlash ·))
    (hfront : (Parts.ofText (clean cs)).front = schemeText scheme ++ text) (base? : Option Url) :
    ofText base? cs = ofAuthority scheme (Parts.ofText (clean cs)) text := by
  have hcut : cutScheme (Parts.ofText (clean cs)).front = some (scheme, '/' :: '/' :: text) := by
    rw [hfront, schemeText, List.append_assoc]
    exact cutScheme_http hscheme _
  simp only [ofText, hcut]
  exact ofScheme_slashes (familyOf_http hscheme) htext base? _

/-- The text of a host that is accepted is that of an authority, whatever stands behind it. -/
theorem isOk_readAuthority_of_parse {host : String}
    (hhost : ∀ c ∈ host.toList, Authority.isAuthorityChar c = true)
    (h : (parse ("http://" ++ host)).isOk = true) (default? : Option Nat) (whole : Bool) :
    (readAuthority .web default? whole host.toList).isOk = true := by
  have htext : ("http://" ++ host).toList = schemeText "http".toList ++ host.toList := by
    rw [String.toList_append]
    rfl
  have hparts := ofText_plain (List.forall_mem_append.mpr
    ⟨isPathChar_schemeText (.inl rfl), fun c hc => isPathChar_of_isAuthorityChar (hhost c hc)⟩)
  have hslash := any_isSlash_authority hhost
  have htake : host.toList.takeWhile (!Family.web.isSlash ·) = host.toList := by
    simpa using Text.takeWhile_append_of_not_any hslash []
  rw [parse, htext, ofText_schemeText (.inl rfl) (Text.head?_of_not_any hslash) (by rw [hparts]),
    isOk_ofAuthority, familyOf_http (.inl rfl), htake] at h
  exact isOk_readAuthority_web h default? whole

theorem resolve_host {host : String} {path query : List Char}
    (hscheme : scheme = "http".toList ∨ scheme = "https".toList)
    (hhost : ∀ c ∈ host.toList, Authority.isAuthorityChar c = true)
    (haccepted : (parse ("http://" ++ host)).isOk = true)
    (hpath : ∀ c ∈ path, isPathChar c = true) (hsign : '#' ∉ query) (base? : Option Url) :
    ∃ u, ofText base? (schemeText scheme ++ (host.toList ++ '/' :: path) ++ '?' :: query) = .ok u ∧
      u.query = some (escape webQuerySet (cleanQuery query)) := by
  have hread := isOk_readAuthority_of_parse hhost haccepted
  have hslash := any_isSlash_authority hhost
  have hfront : ∀ c ∈ schemeText scheme ++ (host.toList ++ '/' :: path), isPathChar c = true := by
    simp only [List.forall_mem_append, List.forall_mem_cons]
    exact ⟨isPathChar_schemeText hscheme, fun c hc => isPathChar_of_isAuthorityChar (hhost c hc),
      by decide, hpath⟩
  have hne : host.toList ≠ [] := by
    intro hnil
    obtain ⟨x, hx⟩ := exists_of_isOk (hread none true)
    rw [hnil] at hx
    exact not_readAuthority_web_nil hx
  have hhead : (host.toList ++ '/' :: path).head?.all (!Family.web.isSlash ·) := by
    rw [List.head?_append_of_ne_nil _ hne]
    exact Text.head?_of_not_any hslash
  have hparts := ofText_query hfront hsign
  have htake : (host.toList ++ '/' :: path).takeWhile (!Family.web.isSlash ·) = host.toList := by
    rw [Text.takeWhile_append_of_not_any hslash]
    exact List.append_nil _
  have hweb := familyOf_http hscheme
  have hok : (ofAuthority scheme ⟨schemeText scheme ++ (host.toList ++ '/' :: path),
      some (cleanQuery query), none⟩ (host.toList ++ '/' :: path)).isOk = true := by
    rw [isOk_ofAuthority, hweb, htake]
    exact hread _ _
  obtain ⟨u, hu⟩ := exists_of_isOk hok
  obtain ⟨-, -, hquery, -⟩ := pathText_of_ofAuthority hweb hu
  refine ⟨u, ?_, hquery⟩
  rw [ofText_schemeText hscheme hhead (by rw [hparts]), hparts]
  exact hu

end

end Wayfare.Url
