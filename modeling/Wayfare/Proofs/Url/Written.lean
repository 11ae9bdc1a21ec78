import Wayfare.Proofs.Url.Web
import Wayfare.Proofs.Url.WrittenAuthority

/-!
Addresses of the web are read again as they are written, and name the same query. What is read again
counts as a whole address, whatever it could be relative to.
-/
namespace Wayfare.Url

/-! ## Paths -/

/-- The characters of a written path. -/
def isPathChar (c : Char) : Bool :=
  0x20 < c.toNat && c != '?' && c != '#'

theorem isPathChar_iff {c : Char} :
    isPathChar c = true ↔ 0x20 < c.toNat ∧ c ≠ '?' ∧ c ≠ '#' := by
  simp [isPathChar, and_assoc]

/-- Segments of a path that can be read. -/
def ReadableNames (names : List (List Char)) : Prop :=
  ∀ name ∈ names, ∀ c ∈ name, isPathChar c = true

theorem isPathChar_escape (cs : List Char) : ∀ c ∈ escape pathSet cs, isPathChar c = true :=
  forall_mem_escape (by decide) cs

namespace ReadableNames

variable {names : List (List Char)}

theorem parent (h : ReadableNames names) : ReadableNames (parent names) := by
  rw [Url.parent]
  split
  · simp [ReadableNames]
  · split
    · exact h
    · exact fun name hname => h name (List.dropLast_subset _ hname)

theorem append {more : List (List Char)} (h : ReadableNames names) (h' : ReadableNames more) :
    ReadableNames (names ++ more) :=
  List.forall_mem_append.mpr ⟨h, h'⟩

theorem addSegment (h : ReadableNames names) (segment : List Char) (isLast : Bool) :
    ReadableNames (addSegment .web names segment isLast) := by
  have hend : ReadableNames (if isLast then [[]] else []) := by
    cases isLast <;> simp [ReadableNames]
  rw [Url.addSegment]
  split
  · exact h.parent.append hend
  · split
    · exact h.append hend
    · exact h.append (List.forall_mem_singleton.mpr (isPathChar_escape segment))

theorem addSegments (h : ReadableNames names) (segments : List (List Char)) :
    ReadableNames (addSegments .web names segments) := by
  fun_induction Url.addSegments .web names segments with
  | case1 => exact h
  | case2 names segment => exact h.addSegment segment true
  | case3 names segment rest _ ih => exact ih (h.addSegment segment false)

theorem pathOfText (text : List Char) : ReadableNames (pathOfText .web text) := by
  rw [Url.pathOfText, if_neg (by simp)]
  exact addSegments (by simp [ReadableNames]) _

theorem write (h : ReadableNames names) : ∀ c ∈ (Path.segments names).write, isPathChar c = true := by
  intro c hc
  obtain ⟨name, hname, hin⟩ := List.mem_flatMap.mp hc
  rcases List.mem_cons.mp hin with rfl | hin
  · decide
  · exact h name hname c hin

end ReadableNames

/-! ## Addresses -/

/-- An address that can be read again: one to send requests to, without a fragment, and with a query
made of pairs. -/
structure Readable (u : Url) : Prop where
  scheme : u.isReachable = true
  authority : ∃ a, u.authority = some a ∧ a.Readable
  path : ∃ names, u.path = .segments names ∧ ReadableNames names
  query : ∀ q ∈ u.query, ∀ c ∈ q, Form.isPairChar c = true
  fragment : u.fragment = none

theorem path_onWire {u : Url} {names : List (List Char)} (h : u.path = .segments names)
    (hnames : ReadableNames names) :
    ∃ names, u.onWire.path = .segments names ∧ ReadableNames names := by
  rw [onWire, h]
  dsimp only
  split
  · exact ⟨[[]], rfl, by simp [ReadableNames]⟩
  · exact ⟨names, rfl, hnames⟩

/-- Without an own query, an address of the web with pairs behind it can be read again. -/
theorem readable_withPairs {cs : List Char} {v bare : Url} (hv : ofText none cs = .ok v)
    (hbare : bare = v ∨ bare = v.withoutUser) (hreachable : bare.isReachable = true)
    (hquery : v.query = none) (pairs : List (String × String)) :
    ((bare.withPairs pairs).onWire).Readable := by
  obtain ⟨hscheme, hpathEq, hqueryEq⟩ :
      v.scheme = bare.scheme ∧ bare.path = v.path ∧ bare.query = v.query := by
    rcases hbare with rfl | rfl <;> exact ⟨rfl, rfl, rfl⟩
  have hweb : familyOf v.scheme = .web := by
    rw [hscheme]
    exact familyOf_of_isReachable hreachable
  obtain ⟨whole, front, begin, pathText, a, hread, hauthority, hpath, -⟩ := web_eq_ok hv hweb
  have ha := Authority.readable_of_readAuthority hread
  refine ⟨hreachable, ?_, ?_, ?_, rfl⟩
  · rcases hbare with rfl | rfl
    · exact ⟨a, hauthority, ha⟩
    · refine ⟨_, ?_, ha.withoutUser⟩
      simp [onWire, withPairs, withoutUser, hauthority]
  · exact path_onWire (u := bare.withPairs pairs) (hpathEq.trans hpath)
      (ReadableNames.pathOfText pathText)
  · rw [query_withPairs (hqueryEq.trans hquery)]
    intro q hq
    obtain ⟨-, heq⟩ := Option.ite_none_left_eq_some.mp hq
    rw [← Option.some.inj heq]
    exact Form.isPairChar_appendPairs (by simp) pairs

/-! ## Reading again -/

theorem clean_of_forall {cs : List Char} (h : ∀ c ∈ cs, 0x20 < c.toNat) : clean cs = cs := by
  have hdrop : ∀ ds : List Char, (∀ c ∈ ds, 0x20 < c.toNat) →
      ds.dropWhile (·.toNat ≤ 0x20) = ds := by
    intro ds hds
    cases ds with
    | nil => rfl
    | cons c ds =>
      have hc : ¬ c.toNat ≤ 0x20 := Nat.not_le.mpr (hds c List.mem_cons_self)
      simp [hc]
  have hreverse : ∀ c ∈ cs.reverse, 0x20 < c.toNat := fun c hc => h c (List.mem_reverse.mp hc)
  rw [clean_eq, Text.trimBy, hdrop cs h, hdrop _ hreverse, List.reverse_reverse, List.filter_eq_self]
  exact fun c hc => counts_of_lt (h c hc)

theorem cutAt_of_not_mem {sep : Char} {cs : List Char} (h : sep ∉ cs) : cutAt sep cs = (cs, none) := by
  have hnone : cs.dropWhile (· != sep) = [] :=
    List.dropWhile_eq_nil_iff.mpr (Text.forall_bne_of_not_mem h)
  rw [cutAt, hnone]

theorem cutAt_append {sep : Char} {front : List Char} (h : sep ∉ front) (behind : List Char) :
    cutAt sep (front ++ sep :: behind) = (front, some behind) := by
  have hfront := Text.forall_bne_of_not_mem h
  rw [cutAt, List.dropWhile_append_of_pos hfront, List.takeWhile_append_of_pos hfront]
  simp

/-- A query behind its question mark. -/
def queryText : Option (List Char) → List Char
  | none => []
  | some q => '?' :: q

theorem ofText_front {front : List Char} {query : Option (List Char)} (hmark : '?' ∉ front)
    (hsign : '#' ∉ front ++ queryText query) :
    Parts.ofText (front ++ queryText query) = ⟨front, query, none⟩ := by
  rw [Parts.ofText, cutAt_of_not_mem hsign]
  cases query with
  | none =>
    rw [queryText, List.append_nil]
    dsimp only
    rw [cutAt_of_not_mem hmark]
  | some q =>
    dsimp only
    rw [queryText, cutAt_append hmark]

theorem lt_of_isAlphanum {c : Char} (h : c.isAlphanum = true) : c.toNat < 0x80 := by
  have hcode : c.toNat = c.val.toNat := rfl
  delta Char.isAlphanum Char.isAlpha Char.isUpper Char.isLower Char.isDigit at h
  simp only [Bool.or_eq_true, Bool.and_eq_true, decide_eq_true_eq, UInt32.le_iff_toNat_le,
    ge_iff_le] at h
  rcases h with (h | h) | h
  · exact hcode ▸ Nat.lt_of_le_of_lt h.2 (by decide)
  · exact hcode ▸ Nat.lt_of_le_of_lt h.2 (by decide)
  · exact hcode ▸ Nat.lt_of_le_of_lt h.2 (by decide)

theorem lt_of_isPairChar {c : Char} (h : Form.isPairChar c = true) : c.toNat < 0x80 := by
  simp only [Form.isPairChar, Form.isFormChar, Bool.or_eq_true, beq_iff_eq] at h
  rcases h with (((((((h | rfl) | rfl) | rfl) | rfl) | rfl) | rfl) | rfl) | rfl
  · exact lt_of_isAlphanum h
  all_goals decide

theorem plain_of_isPairChar {c : Char} (h : Form.isPairChar c = true) :
    0x20 < c.toNat ∧ c ≠ '#' ∧ webQuerySet c = false :=
  Text.ascii_forall
    (p := fun c => Form.isPairChar c = true → 0x20 < c.toNat ∧ c ≠ '#' ∧ webQuerySet c = false)
    (by decide) (lt_of_isPairChar h) h

theorem cutScheme_http {scheme : List Char} (h : scheme = "http".toList ∨ scheme = "https".toList)
    (rest : List Char) : cutScheme (scheme ++ ':' :: rest) = some (scheme, rest) := by
  refine cutScheme_eq_some_iff.mpr ⟨scheme, rfl, ?_⟩
  rw [← List.all_eq_true]
  rcases h with rfl | rfl <;> decide

/-- Behind the slashes of a scheme of the web an authority is read, not a relative address. -/
theorem ofScheme_slashes {scheme text : List Char} (hweb : familyOf scheme = .web)
    (htext : text.head?.all (!Family.web.isSlash ·)) (base? : Option Url) (parts : Parts) :
    ofScheme base? parts scheme ('/' :: '/' :: text) = ofAuthority scheme parts text := by
  have hslash : Family.web.isSlash '/' = true := by decide
  have hdrop : ('/' :: '/' :: text).dropWhile Family.web.isSlash = text := by
    rw [List.dropWhile_cons_of_pos hslash, List.dropWhile_cons_of_pos hslash]
    cases text with
    | nil => rfl
    | cons c text =>
      have hc : Family.web.isSlash c = false := by simpa using htext
      rw [List.dropWhile_cons_of_neg (by simp [hc])]
  have hfilter : base?.filter (fun base => base.scheme == scheme &&
      decide ((('/' :: '/' :: text).takeWhile Family.web.isSlash).length < 2)) = none := by
    rw [Option.filter_eq_none_iff]
    intro base _
    simp [hslash]
  simp only [ofScheme, hweb, hfilter, hdrop]

theorem isPathChar_of_isAuthorityChar {c : Char} (h : Authority.isAuthorityChar c = true) :
    isPathChar c = true := by
  simp only [Authority.isAuthorityChar, Bool.and_eq_true] at h
  simp [isPathChar, h.1.1.1.1, h.1.2, h.2]

theorem isSlash_of_isAuthorityChar {c : Char} (h : Authority.isAuthorityChar c = true) :
    Family.web.isSlash c = false := by
  simp only [Authority.isAuthorityChar, Bool.and_eq_true, bne_iff_ne] at h
  simp [Family.isSlash, h.1.1.1.2, h.1.1.2]

theorem any_isSlash_authority {cs : List Char}
    (h : ∀ c ∈ cs, Authority.isAuthorityChar c = true) : cs.any Family.web.isSlash = false := by
  rw [List.any_eq_false]
  intro c hc
  simp [isSlash_of_isAuthorityChar (h c hc)]

/-- An authority ends where the path behind it begins. -/
theorem Authority.Readable.takeWhile_write {a : Authority} (h : a.Readable)
    (names : List (List Char)) :
    (a.write ++ (Path.segments names).write).head?.all (!Family.web.isSlash ·) ∧
      (a.write ++ (Path.segments names).write).takeWhile (!Family.web.isSlash ·) = a.write := by
  have hany : a.write.any Family.web.isSlash = false := any_isSlash_authority h.isAuthorityChar
  have hpath : (Path.segments names).write.takeWhile (!Family.web.isSlash ·) = [] := by
    cases names with
    | nil => rfl
    | cons name rest => rfl
  have hne : a.write ≠ [] := by
    simp [Authority.write_eq, h.host.write_ne_nil]
  constructor
  · rw [List.head?_append_of_ne_nil _ hne]
    exact Text.head?_of_not_any hany
  · rw [Text.takeWhile_append_of_not_any hany, hpath, List.append_nil]

namespace Readable

variable {u : Url}

theorem scheme_cases (h : u.Readable) : u.scheme = "http".toList ∨ u.scheme = "https".toList := by
  have hscheme := h.scheme
  rwa [isReachable, Bool.or_eq_true, beq_iff_eq, beq_iff_eq] at hscheme

/-- The text of an address that can be read: a scheme, an authority and a path, and the query. -/
theorem exists_write (h : u.Readable) : ∃ (a : Authority) (names : List (List Char)),
    a.Readable ∧ ReadableNames names ∧ u.write = (u.scheme ++ ':' :: '/' :: '/' :: (a.write ++ (Path.segments names).write)) ++
      queryText u.query := by
  obtain ⟨a, hauthority, ha⟩ := h.authority
  obtain ⟨names, hpath, hnames⟩ := h.path
  refine ⟨a, names, ha, hnames, ?_⟩
  rw [write, target, h.fragment, hauthority, hpath]
  simp only [List.append_nil, List.append_assoc, List.cons_append]
  rfl

/-- The parts of such a text. -/
theorem ofText_write (h : u.Readable) {front : List Char}
    (hfront : ∀ c ∈ front, isPathChar c = true) (hwrite : u.write = front ++ queryText u.query) :
    Parts.ofText (clean u.write) = ⟨front, u.query, none⟩ := by
  have hquery : ∀ c ∈ queryText u.query, 0x20 < c.toNat ∧ c ≠ '#' := by
    have hchars := h.query
    cases hwritten : u.query with
    | none => simp [queryText]
    | some q =>
      refine List.forall_mem_cons.mpr ⟨by decide, fun c hc => ?_⟩
      obtain ⟨hcode, hsign, -⟩ := plain_of_isPairChar (hchars q hwritten c hc)
      exact ⟨hcode, hsign⟩
  have hfront' : ∀ c ∈ front, 0x20 < c.toNat ∧ c ≠ '?' ∧ c ≠ '#' := fun c hc =>
    isPathChar_iff.mp (hfront c hc)
  have hall : ∀ c ∈ u.write, 0x20 < c.toNat := by
    rw [hwrite]
    exact List.forall_mem_append.mpr ⟨fun c hc => (hfront' c hc).1, fun c hc => (hquery c hc).1⟩
  have hsign : '#' ∉ front ++ queryText u.query := by
    rw [List.mem_append, not_or]
    exact ⟨fun hin => (hfront' _ hin).2.2 rfl, fun hin => (hquery _ hin).2 rfl⟩
  rw [clean_of_forall hall, hwrite]
  exact ofText_front (fun hin => (hfront' _ hin).2.1 rfl) hsign

theorem isPathChar_front (h : u.Readable) {a : Authority} (ha : a.Readable)
    {names : List (List Char)} (hnames : ReadableNames names) :
    ∀ c ∈ u.scheme ++ ':' :: '/' :: '/' :: (a.write ++ (Path.segments names).write),
      isPathChar c = true := by
  refine List.forall_mem_append.mpr ⟨?_, ?_⟩
  · rw [← List.all_eq_true]
    rcases h.scheme_cases with heq | heq <;> rw [heq] <;> decide
  · simp only [List.forall_mem_cons, List.forall_mem_append]
    exact ⟨by decide, by decide, by decide,
      fun c hc => isPathChar_of_isAuthorityChar (ha.isAuthorityChar c hc), hnames.write⟩

theorem map_escape_query (h : u.Readable) : u.query.map (escape webQuerySet) = u.query := by
  cases hquery : u.query with
  | none => rfl
  | some q =>
    have hplain : ∀ c ∈ q, c.toNat < 0x80 ∧ webQuerySet c = false := by
      intro c hc
      have hchar := h.query q hquery c hc
      exact ⟨lt_of_isPairChar hchar, (plain_of_isPairChar hchar).2.2⟩
    rw [Option.map_some, escape_of_forall hplain]

/-- An address that can be read is read again as it is written. -/
theorem resolve_text (h : u.Readable) (base : Url) :
    ∃ again, resolve base u.text = .ok again ∧ again.query = u.query := by
  obtain ⟨a, names, ha, hnames, hwrite⟩ := h.exists_write
  have hweb := familyOf_of_isReachable h.scheme
  have hparts := h.ofText_write (h.isPathChar_front ha hnames) hwrite
  obtain ⟨htext, htake⟩ := ha.takeWhile_write names
  obtain ⟨x, hx⟩ := exists_of_isOk (ha.isOk_write (defaultPort? u.scheme)
    (((a.write ++ (Path.segments names).write).dropWhile (!Family.web.isSlash ·)).isEmpty &&
      !Parts.hasTail ⟨u.scheme ++ ':' :: '/' :: '/' :: (a.write ++ (Path.segments names).write),
        u.query, none⟩))
  have hread : resolve base u.text = ofAuthority u.scheme
      ⟨u.scheme ++ ':' :: '/' :: '/' :: (a.write ++ (Path.segments names).write), u.query, none⟩
      (a.write ++ (Path.segments names).write) := by
    rw [resolve, text, String.toList_ofList, ofText, hparts]
    dsimp only
    rw [cutScheme_http h.scheme_cases]
    exact ofScheme_slashes hweb htext _ _
  refine ⟨_, hread.trans (ofAuthority_eq_ok_iff.mpr ⟨x.1, x.2, ?_, rfl⟩), ?_⟩
  · rw [hweb, htake]
    exact hx
  · rw [hweb]
    exact h.map_escape_query

end Readable

end Wayfare.Url
