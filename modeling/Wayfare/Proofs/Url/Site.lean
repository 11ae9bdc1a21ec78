import Wayfare.Proofs.Url.Extension

/-!
The scheme and the authority of an address, and whether it can be read at all, depend on nothing behind
the authority.
-/
namespace Wayfare.Url

/-! ## The text before the query and the fragment -/

/-- The characters that begin a query or a fragment. -/
def opensTail (c : Char) : Bool :=
  c == '#' || c == '?'

theorem cutAt_fst (sep : Char) (cs : List Char) :
    (cutAt sep cs).1 = cs.takeWhile (· != sep) := by
  rw [cutAt]
  split
  · next h => exact (List.takeWhile_eq_self_iff.mpr (List.dropWhile_eq_nil_iff.mp h)).symm
  · rfl

theorem isSome_cutAt_snd (sep : Char) (cs : List Char) :
    (cutAt sep cs).2.isSome = cs.any (· == sep) := by
  rw [cutAt]
  split
  · next h =>
    have := List.dropWhile_eq_nil_iff.mp h
    simp_all
  · next c more h =>
    have hne : cs.dropWhile (· != sep) ≠ [] := by simp [h]
    rw [ne_eq, List.dropWhile_eq_nil_iff] at hne
    simp_all

theorem front_ofText (cs : List Char) :
    (Parts.ofText cs).front = cs.takeWhile (!opensTail ·) := by
  simp only [Parts.ofText, cutAt_fst, List.takeWhile_takeWhile]
  congr 1
  funext c
  by_cases hash : c = '#' <;> by_cases mark : c = '?' <;> simp [opensTail, hash, mark]

theorem hasTail_ofText (cs : List Char) : (Parts.ofText cs).hasTail = cs.any opensTail := by
  simp only [Parts.ofText, Parts.hasTail, cutAt_fst, isSome_cutAt_snd]
  cases hash : cs.any (· == '#') with
  | true =>
    obtain ⟨c, hc, heq⟩ := List.any_eq_true.mp hash
    rw [Bool.or_true, eq_comm, List.any_eq_true]
    exact ⟨c, hc, by rw [opensTail, heq, Bool.true_or]⟩
  | false =>
    have hall : cs.takeWhile (· != '#') = cs := by
      rw [List.takeWhile_eq_self_iff]
      simp_all
    rw [hall, Bool.or_false]
    have h : ∀ c ∈ cs, (c == '?') = opensTail c := by
      intro c hc
      have : (c == '#') = false := by simp_all
      rw [opensTail, this, Bool.false_or]
    rw [Bool.eq_iff_iff, List.any_eq_true, List.any_eq_true]
    exact exists_congr fun c => and_congr_right fun hc => by rw [h c hc]

/-! ## Schemes -/

theorem cutScheme_eq_some_iff {cs rest scheme : List Char} :
    cutScheme cs = some (scheme, rest) ↔ ∃ name, cs = name ++ ':' :: rest ∧
      (∀ c ∈ name, isSchemeChar c = true) ∧ name.head?.any Char.isAlpha ∧
      name.map Char.toLower = scheme := by
  constructor
  · intro h
    rw [cutScheme] at h
    split at h
    · next hdrop =>
      have hsplit := List.takeWhile_append_dropWhile (p := isSchemeChar) (l := cs)
      rw [hdrop] at hsplit
      split at h
      · next halpha =>
        obtain ⟨rfl, rfl⟩ := Prod.mk.inj (Option.some.inj h)
        refine ⟨_, hsplit.symm, fun c hc => List.mem_takeWhile_imp hc, ?_, rfl⟩
        rw [← hsplit] at halpha
        cases hname : cs.takeWhile isSchemeChar with
        | nil =>
          rw [hname, List.nil_append, List.head?_cons] at halpha
          exact absurd halpha (by decide)
        | cons c name =>
          rw [hname] at halpha
          exact halpha
      · cases h
    · cases h
  · rintro ⟨name, rfl, hname, halpha, rfl⟩
    have hcolon : (':' :: rest).head?.all (!isSchemeChar ·) := by
      simp only [List.head?_cons, Option.all_some]
      decide
    have hdrop : (name ++ ':' :: rest).dropWhile isSchemeChar = ':' :: rest := by
      rw [Text.dropWhile_append_of_head hcolon, List.dropWhile_eq_nil_iff.mpr hname]
      rfl
    have halpha' : (name ++ ':' :: rest).head?.any Char.isAlpha := by
      cases name with
      | nil => cases halpha
      | cons c name => exact halpha
    rw [cutScheme, hdrop]
    simp only [halpha', if_true, Text.takeWhile_append_of_head hcolon,
      List.takeWhile_eq_self_iff.mpr hname]

theorem cutScheme_of_not_mem {cs : List Char} (h : ':' ∉ cs) : cutScheme cs = none := by
  cases hcut : cutScheme cs with
  | none => rfl
  | some found =>
    obtain ⟨name, rfl, -⟩ := cutScheme_eq_some_iff.mp hcut
    simp at h

theorem cutScheme_append {cs rest scheme : List Char} (h : cutScheme cs = some (scheme, rest))
    (more : List Char) : cutScheme (cs ++ more) = some (scheme, rest ++ more) := by
  obtain ⟨name, rfl, hname⟩ := cutScheme_eq_some_iff.mp h
  exact cutScheme_eq_some_iff.mpr ⟨name, by simp, hname⟩

/-- The colon of a scheme stands in front of any text without colons. -/
theorem exists_of_cutScheme_append {cs more rest scheme : List Char} (hcolon : ':' ∉ more)
    (h : cutScheme (cs ++ more) = some (scheme, rest)) :
    ∃ front, cutScheme cs = some (scheme, front) ∧ rest = front ++ more := by
  obtain ⟨name, hsplit, hname⟩ := cutScheme_eq_some_iff.mp h
  rcases List.append_eq_append_iff.mp hsplit with ⟨behind, hname', hmore⟩ | ⟨behind, rfl, hrest⟩
  · exact absurd (hmore ▸ List.mem_append_right _ List.mem_cons_self) hcolon
  · cases behind with
    | nil =>
      rw [List.nil_append] at hrest
      exact absurd (hrest ▸ List.mem_cons_self) hcolon
    | cons c front =>
      obtain ⟨rfl, rfl⟩ := List.cons.inj hrest
      exact ⟨front, cutScheme_eq_some_iff.mpr ⟨name, rfl, hname⟩, rfl⟩

/-! ## What follows the scheme -/

/-- The text behind the slashes that begin an authority. -/
def authorityText? (family : Family) (rest : List Char) : Option (List Char) :=
  match family with
  | .web => some (rest.dropWhile Family.web.isSlash)
  | family =>
    match rest with
    | a :: b :: text => if family.isSlash a && family.isSlash b then some text else none
    | _ => none

theorem authorityText?_other {rest : List Char} (h : ∀ text, rest ≠ '/' :: '/' :: text) :
    authorityText? .other rest = none := by
  match rest with
  | [] => rfl
  | [a] => rfl
  | a :: b :: text =>
    have hnot : (Family.other.isSlash a && Family.other.isSlash b) = false := by
      rw [Bool.eq_false_iff]
      intro hboth
      obtain ⟨rfl, rfl⟩ : a = '/' ∧ b = '/' := by simpa [Family.isSlash] using hboth
      exact h text rfl
    simp [authorityText?, hnot]

/-- Whether the text of an authority can be read; `whole` tells that nothing stands behind it. -/
def isReadable (scheme : List Char) (whole : Bool) (text : List Char) : Bool :=
  match familyOf scheme with
  | .file => text.isEmpty || isDrive text || (parseWebHost text).isOk
  | family => (readAuthority family (defaultPort? scheme) whole text).isOk

theorem familyOf_eq_file_iff {scheme : List Char} :
    familyOf scheme = .file ↔ scheme = "file".toList := by
  rw [familyOf]
  split
  · next h => simpa using h
  · next h =>
    split <;> simpa using h

theorem ofAuthority_eq_ok {scheme text : List Char} {parts : Parts} {u : Url}
    (h : ofAuthority scheme parts text = .ok u) :
    ∃ whole authority begin, u.scheme = scheme ∧ u.authority = some authority ∧
      readAuthority (familyOf scheme) (defaultPort? scheme) whole
        (text.takeWhile (!(familyOf scheme).isSlash ·)) = .ok (authority, begin) := by
  simp only [ofAuthority] at h
  split at h
  · cases h
  · next authority begin hread =>
    obtain rfl := Except.ok.inj h
    exact ⟨_, authority, begin, rfl, rfl, hread⟩

theorem isOk_ofAuthority (scheme : List Char) (parts : Parts) (text : List Char) :
    (ofAuthority scheme parts text).isOk =
      (readAuthority (familyOf scheme) (defaultPort? scheme)
        ((text.dropWhile (!(familyOf scheme).isSlash ·)).isEmpty && !parts.hasTail)
        (text.takeWhile (!(familyOf scheme).isSlash ·))).isOk := by
  simp only [ofAuthority]
  split
  · next h => rw [h]; rfl
  · next h => rw [h]; rfl

theorem scheme_ofFile {parts : Parts} {text : List Char} {u : Url}
    (h : ofFile parts text = .ok u) : u.scheme = "file".toList := by
  simp only [ofFile] at h
  split at h
  · split at h
    · split at h
      · exact (Except.ok.inj h) ▸ rfl
      · split at h
        · cases h
        · split at h <;> exact (Except.ok.inj h) ▸ rfl
    · exact (Except.ok.inj h) ▸ rfl
  · exact (Except.ok.inj h) ▸ rfl

theorem scheme_ofScheme {parts : Parts} {scheme rest : List Char} {u : Url}
    (h : ofScheme none parts scheme rest = .ok u) : u.scheme = scheme := by
  simp only [ofScheme, Option.filter_none] at h
  cases hfamily : familyOf scheme with
  | file =>
    rw [hfamily] at h
    rw [scheme_ofFile h, familyOf_eq_file_iff.mp hfamily]
  | web =>
    rw [hfamily] at h
    obtain ⟨-, -, -, hscheme, -⟩ := ofAuthority_eq_ok h
    exact hscheme
  | other =>
    simp only [hfamily] at h
    split at h
    · obtain ⟨-, -, -, hscheme, -⟩ := ofAuthority_eq_ok h
      exact hscheme
    · exact (Except.ok.inj h) ▸ rfl
    · exact (Except.ok.inj h) ▸ rfl

theorem isOk_ofFile (parts : Parts) (text : List Char) :
    (ofFile parts text).isOk =
      match authorityText? .file text with
      | none => true
      | some text =>
        let host := text.takeWhile (!Family.file.isSlash ·)
        host.isEmpty || isDrive host || (parseWebHost host).isOk := by
  match text with
  | a :: b :: rest =>
    simp only [ofFile, authorityText?]
    cases Family.file.isSlash a && Family.file.isSlash b with
    | false => rfl
    | true =>
      simp only [if_true]
      cases (rest.takeWhile (!Family.file.isSlash ·)).isEmpty ||
          isDrive (rest.takeWhile (!Family.file.isSlash ·)) with
      | true => rfl
      | false =>
        cases hhost : parseWebHost (rest.takeWhile (!Family.file.isSlash ·)) with
        | error f => rfl
        | ok host =>
          simp only [Bool.false_eq_true, if_false]
          split <;> rfl
  | [a] => rfl
  | [] => rfl

/-- Whether the text behind a scheme can be read; `tail` tells that a query or a fragment follows. -/
def reads (scheme : List Char) (tail : Bool) (rest : List Char) : Bool :=
  match authorityText? (familyOf scheme) rest with
  | none => true
  | some text =>
    isReadable scheme ((text.dropWhile (!(familyOf scheme).isSlash ·)).isEmpty && !tail)
      (text.takeWhile (!(familyOf scheme).isSlash ·))

theorem isOk_ofScheme (parts : Parts) (scheme rest : List Char) :
    (ofScheme none parts scheme rest).isOk = reads scheme parts.hasTail rest := by
  simp only [ofScheme, Option.filter_none, reads, isReadable]
  cases hfamily : familyOf scheme with
  | file =>
    exact isOk_ofFile parts rest
  | web =>
    simp only [authorityText?, isOk_ofAuthority, hfamily]
  | other =>
    simp only
    split
    · simp only [authorityText?, isOk_ofAuthority, hfamily]
      rfl
    · next text hnot =>
      rw [authorityText?_other fun more heq => hnot more (List.cons.inj heq).2]
      rfl
    · next hnot _ =>
      rw [authorityText?_other hnot]
      rfl

/-- The authority that a web address names behind its scheme. -/
def webAuthority (rest : List Char) : List Char :=
  (rest.dropWhile Family.web.isSlash).takeWhile (!Family.web.isSlash ·)

theorem backslash_notMem_webAuthority (rest : List Char) : '\\' ∉ webAuthority rest := by
  intro hin
  exact absurd (List.mem_takeWhile_imp hin) (by decide)

theorem authority_ofScheme_web {parts : Parts} {scheme rest : List Char} {u : Url}
    (hweb : familyOf scheme = .web) (h : ofScheme none parts scheme rest = .ok u) :
    ∃ whole authority begin, u.authority = some authority ∧
      readAuthority .web (defaultPort? scheme) whole (webAuthority rest) =
        .ok (authority, begin) := by
  simp only [ofScheme, hweb, Option.filter_none] at h
  obtain ⟨whole, authority, begin, -, hauthority, hread⟩ := ofAuthority_eq_ok h
  rw [hweb] at hread
  exact ⟨whole, authority, begin, hauthority, hread⟩

end Wayfare.Url
