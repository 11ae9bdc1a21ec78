import Wayfare.Proofs.Url.Site

/-!
The origin of a base with a path behind it. It is the origin of the base, unless the base ends in its
authority and blanks are dropped behind that: such a base cannot be gone on with.
-/
namespace Wayfare.Url

/-! ## Dangling bases -/

/-- Whether an authority that ends its text cannot be read with blanks and a path behind it. -/
def dangles (family : Family) (text blanks : List Char) : Bool :=
  match family with
  | .other => if blanks.isEmpty then text == ['@'] else clashes (cutUser text).2 blanks
  | _ => !blanks.isEmpty

/-- The same of the text behind a scheme, if it ends in an authority. -/
def danglesBehind (scheme rest blanks : List Char) : Bool :=
  match authorityText? (familyOf scheme) rest with
  | none => false
  | some text => !text.any (familyOf scheme).isSlash && dangles (familyOf scheme) text blanks

/-- Whether an address that can be read cannot be read with a path behind it. -/
def isDangling (base : List Char) : Bool :=
  !(clean base).any opensTail &&
    match cutScheme (clean base) with
    | none => false
    | some (scheme, rest) => danglesBehind scheme rest (endBlanks base)

/-! ## The text behind the scheme -/

theorem parts_extended {cs path rest scheme : List Char} (hpath : path.head? = some '/')
    (h : cutScheme (Parts.ofText (clean cs)).front = some (scheme, rest)) :
    ((clean cs).any opensTail = true ∧
      (Parts.ofText (clean (dropSlashes cs ++ path))).front = (Parts.ofText (clean cs)).front ∧
      (Parts.ofText (clean (dropSlashes cs ++ path))).hasTail = true) ∨
    ((clean cs).any opensTail = false ∧ (Parts.ofText (clean cs)).front = clean cs ∧
      ∃ front slashes, rest = front ++ slashes ∧ (∀ c ∈ slashes, c = '/') ∧
        (slashes = [] ∨ endBlanks cs = []) ∧
        cutScheme (Parts.ofText (clean (dropSlashes cs ++ path))).front =
          some (scheme, front ++ (endBlanks cs ++ (clean path).takeWhile (!opensTail ·)))) := by
  have hcs : clean cs ≠ [] := by
    intro hnil
    rw [front_ofText, hnil] at h
    cases h
  obtain ⟨shared, slashes, hclean, hext, hslashes, hone⟩ := clean_extended hcs hpath
  simp only [front_ofText, hasTail_ofText] at h ⊢
  have hslashes' : slashes.any opensTail = false := by
    rw [List.any_eq_false]
    intro c hc
    rw [hslashes c hc]
    decide
  have hblanks : (endBlanks cs).any opensTail = false := by
    rw [List.any_eq_false]
    intro c hc htail
    have : c = '#' ∨ c = '?' := by simpa [opensTail] using htail
    rcases this with rfl | rfl <;> exact absurd (allControl_endBlanks cs _ hc) (by decide)
  cases htail : shared.any opensTail with
  | true =>
    left
    refine ⟨?_, ?_, ?_⟩
    · rw [hclean, List.any_append, htail, Bool.true_or]
    · rw [hclean, hext, Text.takeWhile_append_of_any htail, Text.takeWhile_append_of_any htail]
    · rw [hext, List.any_append, htail, Bool.true_or]
  | false =>
    right
    have hnone : (clean cs).any opensTail = false := by
      rw [hclean, List.any_append, htail, hslashes', Bool.or_false]
    have hfront : (clean cs).takeWhile (!opensTail ·) = clean cs := by
      simpa using Text.takeWhile_append_of_not_any hnone []
    have hcolon : ':' ∉ slashes := by
      intro hin
      exact absurd (hslashes _ hin) (by decide)
    rw [hfront, hclean] at h
    obtain ⟨front, hscheme, hrest⟩ := exists_of_cutScheme_append hcolon h
    refine ⟨hnone, hfront, front, slashes, hrest, hslashes, hone, ?_⟩
    rw [hext, Text.takeWhile_append_of_not_any htail, Text.takeWhile_append_of_not_any hblanks]
    exact cutScheme_append hscheme _

theorem exists_front_of_path {path : List Char} (hpath : path.head? = some '/') :
    ∃ more, (clean path).takeWhile (!opensTail ·) = '/' :: more := by
  obtain ⟨rest, rfl⟩ : ∃ rest, path = '/' :: rest := by
    cases path <;> simp_all
  rw [clean_eq, Text.trimBy_cons (by decide), List.filter_cons, if_pos (by decide),
    List.takeWhile_cons, if_pos (by decide)]
  exact ⟨_, rfl⟩

theorem ofText_eq_ok {cs : List Char} {u : Url} (h : ofText none cs = .ok u) :
    ∃ rest, cutScheme (Parts.ofText (clean cs)).front = some (u.scheme, rest) ∧
      ofScheme none (Parts.ofText (clean cs)) u.scheme rest = .ok u := by
  simp only [ofText] at h
  split at h
  · next scheme rest hscheme =>
    obtain rfl := scheme_ofScheme h
    exact ⟨rest, hscheme, h⟩
  · cases h

theorem ofText_of_cutScheme {cs scheme rest : List Char}
    (h : cutScheme (Parts.ofText (clean cs)).front = some (scheme, rest)) :
    ofText none cs = ofScheme none (Parts.ofText (clean cs)) scheme rest := by
  simp only [ofText, h]

/-! ## Addresses of the web -/

theorem webAuthority_append {front slashes blanks more : List Char}
    (hslashes : ∀ c ∈ slashes, c = '/') (hblanks : AllControl blanks)
    (hne : webAuthority (front ++ slashes) ≠ []) :
    webAuthority (front ++ (blanks ++ '/' :: more)) = webAuthority (front ++ slashes) ∨
      webAuthority (front ++ (blanks ++ '/' :: more)) =
        webAuthority (front ++ slashes) ++ blanks := by
  have hall : ∀ c ∈ slashes, Family.web.isSlash c = true := by
    intro c hc
    rw [hslashes c hc]
    decide
  have hblanks' := hblanks.any_isSlash .web
  have hslash : Family.web.isSlash '/' = true := by decide
  have htake : slashes.takeWhile (!Family.web.isSlash ·) = [] := by
    cases slashes with
    | nil => rfl
    | cons c rest => simp [hall c List.mem_cons_self]
  cases hdrop : front.dropWhile Family.web.isSlash with
  | nil =>
    refine absurd ?_ hne
    rw [webAuthority, List.dropWhile_append, hdrop, List.dropWhile_eq_nil_iff.mpr hall]
    rfl
  | cons c text =>
    have hbehind : ∀ other, webAuthority (front ++ other) =
        (c :: text ++ other).takeWhile (!Family.web.isSlash ·) := by
      intro other
      rw [webAuthority, List.dropWhile_append, hdrop]
      rfl
    rw [hbehind, hbehind]
    cases hany : (c :: text).any Family.web.isSlash with
    | true =>
      left
      rw [Text.takeWhile_append_of_any hany, Text.takeWhile_append_of_any hany]
    | false =>
      right
      rw [Text.takeWhile_append_of_not_any hany, Text.takeWhile_append_of_not_any hany, htake,
        Text.takeWhile_append_of_not_any hblanks', List.takeWhile_cons, hslash]
      simp

/-- A web address with a path behind it, where it can be read, has the scheme and the authority of the
base. -/
theorem origin_extended {cs path : List Char} {u v : Url} (hu : ofText none cs = .ok u)
    (hweb : familyOf u.scheme = .web) (hpath : path.head? = some '/')
    (hv : ofText none (dropSlashes cs ++ path) = .ok v) :
    v.scheme = u.scheme ∧ v.authority = u.authority := by
  obtain ⟨rest, hscheme, hread⟩ := ofText_eq_ok hu
  obtain ⟨whole, authority, begin, hauthority, hbase⟩ := authority_ofScheme_web hweb hread
  rcases parts_extended hpath hscheme with ⟨-, hfront, -⟩ |
    ⟨-, -, front, slashes, rfl, hslashes, -, hscheme'⟩
  · -- a query or a fragment stands behind the authority
    rw [← hfront] at hscheme
    rw [ofText_of_cutScheme hscheme] at hv
    obtain ⟨whole', authority', begin', hauthority', hext⟩ := authority_ofScheme_web hweb hv
    obtain ⟨rfl, -⟩ := Prod.mk.inj (readAuthority_unique hext hbase)
    exact ⟨scheme_ofScheme hv, hauthority'.trans hauthority.symm⟩
  · obtain ⟨more, hmore⟩ := exists_front_of_path hpath
    rw [hmore] at hscheme'
    rw [ofText_of_cutScheme hscheme'] at hv
    obtain ⟨whole', authority', begin', hauthority', hext⟩ := authority_ofScheme_web hweb hv
    have hne : webAuthority (front ++ slashes) ≠ [] := by
      intro hnil
      exact not_readAuthority_web_nil (hnil ▸ hbase)
    have hsame : webAuthority (front ++ (endBlanks cs ++ '/' :: more)) =
        webAuthority (front ++ slashes) := by
      rcases webAuthority_append hslashes (allControl_endBlanks cs) hne with hsame | hblanks
      · exact hsame
      · by_cases hnone : endBlanks cs = []
        · rw [hblanks, hnone, List.append_nil]
        · have hfault := readAuthority_append_web hbase (backslash_notMem_webAuthority _)
            (allControl_endBlanks cs) hnone whole'
          rw [← hblanks, hext] at hfault
          cases hfault
    rw [hsame] at hext
    obtain ⟨rfl, -⟩ := Prod.mk.inj (readAuthority_unique hext hbase)
    exact ⟨scheme_ofScheme hv, hauthority'.trans hauthority.symm⟩

/-! ## Bases that can be gone on with -/

theorem isDrive_append {text blanks : List Char} (hblanks : AllControl blanks) (hne : blanks ≠ []) :
    isDrive (text ++ blanks) = false := by
  obtain ⟨front, c, rfl, hc⟩ := hblanks.exists_last hne
  rw [← List.append_assoc]
  generalize text ++ front = cs
  match cs with
  | [] => rfl
  | [letter] =>
    have hcolon : c ≠ ':' := by
      rintro rfl
      exact absurd hc (by decide)
    have hbar : c ≠ '|' := by
      rintro rfl
      exact absurd hc (by decide)
    simp [isDrive, hcolon, hbar]
  | _ :: _ :: more => cases more <;> rfl

theorem isReadable_append {scheme text blanks : List Char} {whole : Bool}
    (h : isReadable scheme whole text = true) (hblanks : AllControl blanks)
    (hslash : text.any (familyOf scheme).isSlash = false) :
    isReadable scheme false (text ++ blanks) = !dangles (familyOf scheme) text blanks := by
  simp only [isReadable] at h ⊢
  cases hfamily : familyOf scheme with
  | file =>
    simp only [hfamily] at h ⊢
    by_cases hnone : blanks = []
    · simpa [hnone, dangles] using h
    · have hhost : (parseWebHost (text ++ blanks)).isOk = false :=
        parseHost_append_web hblanks hnone text
      have hempty : (text ++ blanks).isEmpty = false := by simp [hnone]
      simp [isDrive_append hblanks hnone, hhost, hempty, hnone, dangles]
  | web =>
    simp only [hfamily] at h hslash ⊢
    obtain ⟨x, hx⟩ := exists_of_isOk h
    by_cases hnone : blanks = []
    · have hsign : text ≠ ['@'] := by
        rintro rfl
        obtain ⟨y, hy⟩ := readHostPort_of_readAuthority hx
        exact not_readHostPort_web_nil hy
      rw [hnone, List.append_nil, readAuthority_whole hsign false whole, h]
      rfl
    · have hback : '\\' ∉ text := fun hin =>
        absurd (List.any_eq_false.mp hslash _ hin) (by decide)
      rw [readAuthority_append_web hx hback hblanks hnone]
      simp [dangles, hnone]
  | other =>
    simp only [hfamily] at h ⊢
    obtain ⟨x, hx⟩ := exists_of_isOk h
    by_cases hnone : blanks = []
    · rw [hnone, List.append_nil]
      by_cases hsign : text = ['@']
      · rw [hsign]
        rfl
      · rw [readAuthority_whole hsign false whole, h]
        simp [dangles, hsign]
    · rw [readAuthority_append_other hx hblanks hnone]
      simp [dangles, hnone]

/-- What the path of the token endpoint puts behind a scheme, and a slash alone. -/
def tokenTail : List Char :=
  Credentials.tokenPath.toList.drop 1

theorem isReadable_tokenTail (scheme : List Char) (hweb : familyOf scheme ≠ .web) :
    isReadable scheme false (tokenTail.takeWhile (!(familyOf scheme).isSlash ·)) = true := by
  simp only [isReadable]
  cases hfamily : familyOf scheme with
  | web => exact absurd hfamily hweb
  | file =>
    have : (let host := tokenTail.takeWhile (!Family.file.isSlash ·)
        host.isEmpty || isDrive host || (parseWebHost host).isOk) = true := by decide +kernel
    exact this
  | other => rfl

section

variable {scheme front text slashes blanks more : List Char} {tail tail' : Bool}

theorem any_isSlash {family : Family} (h : ∀ c ∈ slashes, c = '/') (hne : slashes ≠ []) :
    slashes.any family.isSlash = true := by
  obtain ⟨c, rest, rfl⟩ := List.exists_cons_of_ne_nil hne
  rw [List.any_cons, h c List.mem_cons_self]
  rfl

/-- An authority with a path behind it: it ends where it ended, or takes the blanks in. -/
theorem isReadable_extended (hslashes : ∀ c ∈ slashes, c = '/') (hblanks : AllControl blanks)
    (hone : slashes = [] ∨ blanks = [])
    (h : isReadable scheme
      (((text ++ slashes).dropWhile (!(familyOf scheme).isSlash ·)).isEmpty && !tail)
      ((text ++ slashes).takeWhile (!(familyOf scheme).isSlash ·)) = true) :
    isReadable scheme
      (((text ++ (blanks ++ '/' :: more)).dropWhile (!(familyOf scheme).isSlash ·)).isEmpty && !tail')
      ((text ++ (blanks ++ '/' :: more)).takeWhile (!(familyOf scheme).isSlash ·)) =
    !(!(text ++ slashes).any (familyOf scheme).isSlash &&
      dangles (familyOf scheme) (text ++ slashes) blanks) := by
  have hslash : (familyOf scheme).isSlash '/' = true := rfl
  have hany : (text ++ (blanks ++ '/' :: more)).any (familyOf scheme).isSlash = true := by
    simp [hslash]
  rw [Text.isEmpty_dropWhile] at h ⊢
  rw [hany, Bool.not_true, Bool.false_and]
  cases htext : text.any (familyOf scheme).isSlash with
  | true =>
    rw [List.any_append, htext, Text.takeWhile_append_of_any htext] at h
    rw [List.any_append, htext, Text.takeWhile_append_of_any htext]
    exact h
  | false =>
    have hshort : slashes.takeWhile (!(familyOf scheme).isSlash ·) = [] := by
      cases slashes with
      | nil => rfl
      | cons c rest => simp [hslashes c List.mem_cons_self, hslash]
    have htake : (blanks ++ '/' :: more).takeWhile (!(familyOf scheme).isSlash ·) = blanks := by
      rw [Text.takeWhile_append_of_not_any (hblanks.any_isSlash _)]
      simp [hslash]
    rw [Text.takeWhile_append_of_not_any htext, hshort, List.append_nil] at h
    rw [Text.takeWhile_append_of_not_any htext, htake]
    by_cases hend : slashes = []
    · rw [hend, List.append_nil, htext, isReadable_append h hblanks htext]
      rfl
    · have hnone : blanks = [] := hone.resolve_left hend
      have hall : (text ++ slashes).any (familyOf scheme).isSlash = true := by
        rw [List.any_append, any_isSlash hslashes hend, Bool.or_true]
      rw [hall] at h ⊢
      rw [hnone, List.append_nil]
      exact h

theorem reads_extended_web (hweb : familyOf scheme = .web) (hslashes : ∀ c ∈ slashes, c = '/')
    (hblanks : AllControl blanks) (hone : slashes = [] ∨ blanks = [])
    (h : reads scheme tail (front ++ slashes) = true) :
    reads scheme tail' (front ++ (blanks ++ '/' :: more)) =
      !danglesBehind scheme (front ++ slashes) blanks := by
  cases hdrop : front.dropWhile Family.web.isSlash with
  | cons c text =>
    have hbehind : ∀ other, authorityText? (familyOf scheme) (front ++ other) =
        some (c :: text ++ other) := by
      intro other
      rw [hweb, authorityText?, List.dropWhile_append, hdrop]
      rfl
    simp only [reads, danglesBehind, hbehind] at h ⊢
    exact isReadable_extended hslashes hblanks hone h
  | nil =>
    have hall : ∀ c ∈ slashes, Family.web.isSlash c = true := by
      intro c hc
      rw [hslashes c hc]
      rfl
    have hnone : authorityText? (familyOf scheme) (front ++ slashes) = some [] := by
      rw [hweb, authorityText?, List.dropWhile_append, hdrop, List.dropWhile_eq_nil_iff.mpr hall]
      rfl
    rw [reads, hnone] at h
    simp only [isReadable, hweb] at h
    obtain ⟨x, hx⟩ := exists_of_isOk h
    exact absurd hx not_readAuthority_web_nil

theorem authorityText?_cons (hweb : familyOf scheme ≠ .web) (a b : Char) (text : List Char) :
    authorityText? (familyOf scheme) (a :: b :: text) =
      if (familyOf scheme).isSlash a && (familyOf scheme).isSlash b then some text else none := by
  cases hfamily : familyOf scheme with
  | web => exact absurd hfamily hweb
  | file => rfl
  | other => rfl

theorem authorityText?_short (hweb : familyOf scheme ≠ .web) {rest : List Char}
    (h : rest.length ≤ 1) : authorityText? (familyOf scheme) rest = none := by
  match rest with
  | [] => cases hfamily : familyOf scheme <;> first | rfl | exact absurd hfamily hweb
  | [a] => cases hfamily : familyOf scheme <;> first | rfl | exact absurd hfamily hweb
  | _ :: _ :: _ => simp at h

theorem reads_extended_long (hweb : familyOf scheme ≠ .web) {a b : Char}
    (hslashes : ∀ c ∈ slashes, c = '/')
    (hblanks : AllControl blanks) (hone : slashes = [] ∨ blanks = [])
    (h : reads scheme tail (a :: b :: text ++ slashes) = true) :
    reads scheme tail' (a :: b :: text ++ (blanks ++ '/' :: more)) =
      !danglesBehind scheme (a :: b :: text ++ slashes) blanks := by
  simp only [reads, danglesBehind, List.cons_append, authorityText?_cons hweb] at h ⊢
  cases hboth : (familyOf scheme).isSlash a && (familyOf scheme).isSlash b with
  | false => rfl
  | true =>
    rw [hboth] at h
    exact isReadable_extended hslashes hblanks hone h

/-- Slashes that end a text are no authority with anything in it. -/
theorem danglesBehind_short (hweb : familyOf scheme ≠ .web) (hfront : front.length ≤ 1)
    (hslashes : ∀ c ∈ slashes, c = '/') (hone : slashes = [] ∨ blanks = []) :
    danglesBehind scheme (front ++ slashes) blanks = false := by
  rw [danglesBehind]
  match hrest : front ++ slashes with
  | [] => rw [authorityText?_short hweb (by simp)]
  | [a] => rw [authorityText?_short hweb (by simp)]
  | a :: b :: text =>
    have htext : ∃ c, slashes = c :: text ∨ slashes = a :: c :: text := by
      match front with
      | [] => exact ⟨b, .inr hrest⟩
      | [x] => exact ⟨b, .inl (List.cons.inj hrest).2⟩
      | _ :: _ :: _ => simp at hfront
    have hall : ∀ c ∈ text, c = '/' := by
      obtain ⟨c, rfl | rfl⟩ := htext <;> exact fun d hd => hslashes d (by simp [hd])
    have hend : slashes ≠ [] := by
      obtain ⟨c, rfl | rfl⟩ := htext <;> simp
    rw [authorityText?_cons hweb, hone.resolve_left hend]
    split
    · rfl
    next text' h =>
    obtain rfl : text = text' := by simpa using (Option.ite_none_right_eq_some.mp h).2
    by_cases hnone : text = []
    · rw [hnone]
      cases familyOf scheme <;> rfl
    · rw [any_isSlash hall hnone]
      rfl

theorem reads_tokenTail (hweb : familyOf scheme ≠ .web) (hfront : front.length ≤ 1)
    (hblanks : AllControl blanks) :
    reads scheme tail (front ++ (blanks ++ '/' :: tokenTail)) = true := by
  rw [reads]
  rcases hrest : front ++ (blanks ++ '/' :: tokenTail) with _ | ⟨a, _ | ⟨b, text⟩⟩
  · rw [authorityText?_short hweb (by simp)]
  · rw [authorityText?_short hweb (by simp)]
  rw [authorityText?_cons hweb]
  split
  · rfl
  next text' h =>
  obtain ⟨hboth, htext⟩ := Option.ite_none_right_eq_some.mp h
  obtain rfl : text = text' := by simpa using htext
  obtain ⟨ha, hb⟩ := Bool.and_eq_true_iff.mp hboth
  rcases front with _ | ⟨x, _ | ⟨y, more⟩⟩
  · rcases blanks with _ | ⟨w, ws⟩
    · obtain ⟨-, rfl, -⟩ : _ ∧ 'v' = b ∧ _ := by simpa [tokenTail, Credentials.tokenPath] using hrest
      cases hfamily : familyOf scheme <;> rw [hfamily] at hb <;> exact absurd hb (by decide)
    · obtain rfl := (List.cons.inj hrest).1
      exact absurd ha (List.any_eq_false.mp (hblanks.any_isSlash _) _ List.mem_cons_self)
  · rcases blanks with _ | ⟨w, ws⟩
    · obtain rfl := (List.cons.inj (List.cons.inj hrest).2).2
      have hany : tokenTail.any (familyOf scheme).isSlash = true := by
        cases familyOf scheme <;> decide
      rw [Text.isEmpty_dropWhile, hany]
      exact isReadable_tokenTail scheme hweb
    · obtain rfl := (List.cons.inj (List.cons.inj hrest).2).1
      exact absurd hb (List.any_eq_false.mp (hblanks.any_isSlash _) _ List.mem_cons_self)
  · simp at hfront

end

theorem isOk_extended {cs : List Char} {u : Url} (hu : ofText none cs = .ok u) :
    (ofText none (dropSlashes cs ++ Credentials.tokenPath.toList)).isOk = !isDangling cs := by
  obtain ⟨rest, hscheme, hread⟩ := ofText_eq_ok hu
  have hbase := isOk_ofScheme (Parts.ofText (clean cs)) u.scheme rest
  rw [hread, Except.isOk] at hbase
  have hpath : Credentials.tokenPath.toList.head? = some '/' := rfl
  rcases parts_extended hpath hscheme with
    ⟨htail, hfront, htail'⟩ | ⟨htail, hfront, front, slashes, rfl, hslashes, hone, hscheme'⟩
  · -- a query or a fragment stands behind the authority
    have htailBase : (Parts.ofText (clean cs)).hasTail = true := by rw [hasTail_ofText, htail]
    have hdangling : isDangling cs = false := by rw [isDangling, htail]; rfl
    rw [← hfront] at hscheme
    rw [ofText_of_cutScheme hscheme, isOk_ofScheme, hdangling, htail', ← htailBase]
    exact hbase.symm
  · rw [hfront] at hscheme
    have hdangling : isDangling cs = danglesBehind u.scheme (front ++ slashes) (endBlanks cs) := by
      simp only [isDangling, htail, hscheme]
      rfl
    rw [ofText_of_cutScheme hscheme', isOk_ofScheme, hdangling]
    have hblanks := allControl_endBlanks cs
    have htoken : (clean Credentials.tokenPath.toList).takeWhile (!opensTail ·) =
        '/' :: tokenTail := by decide
    rw [htoken]
    by_cases hweb : familyOf u.scheme = .web
    · exact reads_extended_web hweb hslashes hblanks hone hbase.symm
    · match front with
      | a :: b :: text => exact reads_extended_long hweb hslashes hblanks hone hbase.symm
      | [a] =>
        rw [reads_tokenTail hweb (by simp) hblanks, danglesBehind_short hweb (by simp) hslashes hone]
        rfl
      | [] =>
        rw [reads_tokenTail hweb (by simp) hblanks, danglesBehind_short hweb (by simp) hslashes hone]
        rfl

end Wayfare.Url
