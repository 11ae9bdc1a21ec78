import Wayfare.Proofs.Url.Web

/-!
Addresses below a base. Where a base of the web has neither query nor fragment, an address that goes on
with a path begins with the segments of the base, and the segments of the path are walked from there.
-/
namespace Wayfare.Url

/-! ## Walks -/

section

variable {family : Family} {names pieces more : List (List Char)} {piece : List Char}

/-- The segments after some pieces of a path with others behind them. -/
def walk (family : Family) (names pieces : List (List Char)) : List (List Char) :=
  pieces.foldl (fun names piece => addSegment family names piece false) names

theorem walk_append (names pieces more : List (List Char)) :
    walk family names (pieces ++ more) = walk family (walk family names pieces) more :=
  List.foldl_append

theorem addSegments_append (names pieces : List (List Char)) (hne : more ≠ []) :
    addSegments family names (pieces ++ more) = addSegments family (walk family names pieces) more := by
  induction pieces generalizing names with
  | nil => rfl
  | cons piece pieces ih =>
    obtain ⟨next, rest, hcons⟩ := List.exists_cons_of_ne_nil
      (show pieces ++ more ≠ [] from List.append_ne_nil_of_right_ne_nil pieces hne)
    rw [List.cons_append, hcons, addSegments, ← hcons, ih]
    · rfl
    · simp

theorem addSegments_concat (names pieces : List (List Char)) (last : List Char) :
    addSegments family names (pieces ++ [last]) =
      addSegment family (walk family names pieces) last true :=
  addSegments_append names pieces (List.cons_ne_nil last [])

/-- The last piece of a path adds what it would add with others behind it, and at most an empty segment
more. -/
theorem addSegment_last (names : List (List Char)) (piece : List Char) :
    addSegment family names piece true = addSegment family names piece false ∨
      addSegment family names piece true = addSegment family names piece false ++ [[]] := by
  simp only [addSegment]
  split
  · exact .inr (by simp)
  · split
    · exact .inr (by simp)
    · exact .inl rfl

theorem addSegments_eq_walk (names : List (List Char)) (hne : pieces ≠ []) :
    addSegments family names pieces = walk family names pieces ∨
      addSegments family names pieces = walk family names pieces ++ [[]] := by
  obtain ⟨front, last, rfl⟩ := List.eq_nil_or_concat pieces |>.resolve_left hne
  rw [List.concat_eq_append, addSegments_concat, walk_append]
  exact addSegment_last _ last

theorem addSegments_ne_nil (names : List (List Char)) (hne : pieces ≠ []) :
    addSegments family names pieces ≠ [] := by
  obtain ⟨front, last, rfl⟩ := List.eq_nil_or_concat pieces |>.resolve_left hne
  rw [List.concat_eq_append, addSegments_concat]
  simp only [addSegment]
  split
  · simp
  · split <;> simp

/-- A segment that leads nowhere else. -/
def isStill (segment : List Char) : Bool :=
  !isDot segment && !isDotDot segment

theorem addSegment_still (h : isStill piece = true) (names : List (List Char)) (isLast : Bool) :
    addSegment .web names piece isLast = names ++ [escape pathSet piece] := by
  simp only [isStill, Bool.and_eq_true, Bool.not_eq_true'] at h
  simp [addSegment, h]

theorem walk_still (h : ∀ piece ∈ pieces, isStill piece = true) (names : List (List Char)) :
    walk .web names pieces = names ++ pieces.map (escape pathSet) := by
  induction pieces generalizing names with
  | nil => simp [walk]
  | cons piece pieces ih =>
    obtain ⟨hpiece, hpieces⟩ := List.forall_mem_cons.mp h
    rw [walk, List.foldl_cons, addSegment_still hpiece]
    simpa [walk] using ih hpieces (names ++ [escape pathSet piece])

theorem escape_eq_nil_iff {set : EscapeSet} {cs : List Char} : escape set cs = [] ↔ cs = [] := by
  cases cs <;> simp [escape, escapeChar_ne_nil]

/-- Where the last piece of a path leads one segment further. -/
theorem addSegment_eq_concat_iff {name : List Char} (hname : name ≠ []) {place : List (List Char)} :
    addSegment .web place piece true = names ++ [name] ↔
      isStill piece = true ∧ place = names ∧ escape pathSet piece = name := by
  by_cases hstill : isStill piece = true
  · rw [addSegment_still hstill]
    simp [hstill]
  · -- dots leave an empty segment at the end
    obtain ⟨place', hplace⟩ : ∃ place', addSegment .web place piece true = place' ++ [[]] := by
      simp only [isStill, Bool.and_eq_true, Bool.not_eq_true', not_and, Bool.not_eq_false] at hstill
      simp only [addSegment]
      split
      · exact ⟨_, rfl⟩
      · next hdots => simp_all
    simp [hplace, hstill, hname.symm]

end

/-! ## Paths behind an authority -/

section

variable {names : List (List Char)} {front : List Char}

/-- The pieces of the path that a base ends in. -/
def basePieces (pathText : List Char) : List (List Char) :=
  match pathText with
  | [] => []
  | _ :: cs => Text.cutBy Family.web.isSlash cs

theorem pathOfText_eq_walk (hfront : front.head?.all Family.web.isSlash) :
    pathOfText .web front = walk .web [] (basePieces front) ∨
      pathOfText .web front = walk .web [] (basePieces front) ++ [[]] := by
  cases front with
  | nil => exact .inr rfl
  | cons c cs =>
    have hc : Family.web.isSlash c = true := by simpa using hfront
    have hpath : pathOfText .web (c :: cs) =
        addSegments .web [] (Text.cutBy Family.web.isSlash cs) := by
      simp [pathOfText, dropSlash, hc, addPath]
    rw [hpath]
    exact addSegments_eq_walk [] (Text.cutBy_ne_nil _ cs)

theorem pathOfText_append (hfront : front.head?.all Family.web.isSlash) (cs : List Char) :
    pathOfText .web (front ++ '/' :: cs) =
      addSegments .web (walk .web [] (basePieces front)) (Text.cutBy Family.web.isSlash cs) := by
  have hslash : Family.web.isSlash '/' = true := rfl
  have hne := Text.cutBy_ne_nil Family.web.isSlash cs
  cases front with
  | nil => simp [pathOfText, dropSlash, hslash, addPath, basePieces, walk]
  | cons c front =>
    have hc : Family.web.isSlash c = true := by simpa using hfront
    rw [← addSegments_append _ _ hne, basePieces, ← Text.cutBy_append hslash]
    simp [pathOfText, dropSlash, hc, addPath]

end

/-! ## Texts below a base -/

section

variable {cs more text path : List Char} {sep : Char} {u v : Url} {parts : Parts}

theorem cutAt_behind (h : sep ∉ cs) (more : List Char) :
    cutAt sep (cs ++ more) = (cs ++ (cutAt sep more).1, (cutAt sep more).2) := by
  have hall := Text.forall_bne_of_not_mem h
  simp only [cutAt, List.dropWhile_append_of_pos hall, List.takeWhile_append_of_pos hall]
  split <;> rfl

theorem Parts.ofText_append (h : cs.any opensTail = false) (more : List Char) :
    Parts.ofText (cs ++ more) =
      ⟨cs ++ (ofText more).front, (ofText more).query, (ofText more).fragment⟩ := by
  have hall : ∀ c ∈ cs, opensTail c = false := by simpa using h
  have hsign : '#' ∉ cs := fun hin => absurd (hall _ hin) (by decide)
  have hmark : '?' ∉ cs := fun hin => absurd (hall _ hin) (by decide)
  simp only [ofText, cutAt_behind hsign, cutAt_behind hmark]

/-- The text of a base in front of a path. -/
def baseText (cs : List Char) : List Char :=
  (cs.dropWhile (·.toNat ≤ 0x20)).filter counts

theorem clean_below (hpath : path.head? = some '/') (cs : List Char) :
    clean (cs ++ path) = baseText cs ++ clean path := by
  have hhead : (cs.dropWhile (·.toNat ≤ 0x20)).head?.all fun c => !decide (c.toNat ≤ 0x20) :=
    Text.head?_dropWhile _ cs
  have hfront : ∀ c ∈ cs.takeWhile (·.toNat ≤ 0x20), c.toNat ≤ 0x20 := fun c hc => by
    simpa using List.mem_takeWhile_imp hc
  have h := clean_append hfront hhead hpath
  rwa [List.takeWhile_append_dropWhile] at h

theorem baseText_eq (hcs : clean cs ≠ []) : baseText cs = clean cs ++ endBlanks cs := by
  have hne : Text.trimBy (·.toNat ≤ 0x20) cs ≠ [] := by
    intro hnil
    exact hcs (by rw [clean_eq, hnil]; rfl)
  obtain ⟨front, hsplit, hfront, hhead⟩ := Text.exists_trimBy hne
  rw [baseText, clean_eq, endBlanks, ← List.filter_append]
  generalize Text.trimBy (·.toNat ≤ 0x20) cs = kept at hsplit hhead hne ⊢
  generalize (cs.reverse.takeWhile (·.toNat ≤ 0x20)).reverse = blanks at hsplit ⊢
  obtain ⟨c, rest, rfl⟩ := List.exists_cons_of_ne_nil hne
  rw [hsplit, List.dropWhile_append_of_pos hfront, List.cons_append, List.dropWhile_cons,
    if_neg (by simpa using hhead)]

theorem begin_eq_nil {default? : Option Nat} {whole : Bool} {authority : Authority}
    {begin : List Char} (h : readAuthority .web default? whole cs = .ok (authority, begin))
    (hback : '\\' ∉ cs) : begin = [] := by
  simp only [readAuthority] at h
  split at h
  · cases h
  split at h
  · cases h
  next host port rest hread =>
  split at h
  · cases h
  cases h
  cases hcut : (cutHost false (cutUser cs).2).2 with
  | nil =>
    rw [readHostPort_of_cutHost_nil hcut] at hread
    obtain ⟨_, -, heq⟩ := exists_of_map_eq_ok hread
    cases heq
    rfl
  | cons colon digits =>
    obtain ⟨-, -, hport⟩ := port_of_readHostPort hread hcut
    have hdigits : '\\' ∉ digits := by
      intro hin
      have hmem : '\\' ∈ (cutHost false (cutUser cs).2).2 := by
        rw [hcut]
        exact List.mem_cons_of_mem colon hin
      exact hback (mem_of_mem_cutUser (mem_of_mem_cutHost hmem))
    have hall := digits_of_readPort hport hdigits
    simp only [readPort] at hport
    split at hport
    · cases hport
    split at hport
    · cases hport
    cases hport
    rwa [List.dropWhile_eq_nil_iff, ← List.all_eq_true]

theorem pathText_of_ofAuthority {scheme : List Char} (hweb : familyOf scheme = .web)
    (h : ofAuthority scheme parts text = .ok v) :
    v.scheme = scheme ∧
      v.path = .segments (pathOfText .web (text.dropWhile (!Family.web.isSlash ·))) ∧
      v.query = parts.writtenQuery .web ∧ v.fragment = parts.writtenFragment := by
  obtain ⟨authority, begin, hread, rfl⟩ := ofAuthority_eq_ok_iff.mp h
  rw [hweb] at hread ⊢
  have hback : '\\' ∉ text.takeWhile (!Family.web.isSlash ·) := fun hin =>
    absurd (List.mem_takeWhile_imp hin) (by decide)
  obtain rfl := begin_eq_nil hread hback
  exact ⟨rfl, rfl, rfl, rfl⟩

/-- The text behind the slashes of a scheme with more behind it. -/
theorem ofScheme_append {scheme rest : List Char} (hweb : familyOf scheme = .web)
    (h : ofScheme none parts scheme rest = .ok u) (parts' : Parts) (more : List Char) :
    ofScheme none parts' scheme (rest ++ more) =
      ofAuthority scheme parts' (rest.dropWhile Family.web.isSlash ++ more) := by
  obtain ⟨whole, authority, begin, -, hread⟩ := authority_ofScheme_web hweb h
  have hne : rest.dropWhile Family.web.isSlash ≠ [] := by
    intro hnil
    rw [webAuthority, hnil] at hread
    exact not_readAuthority_web_nil hread
  simp only [ofScheme, hweb, Option.filter_none]
  rw [List.dropWhile_append, if_neg (by simpa using hne)]

theorem scheme_below (hu : ofText none cs = .ok u) (hpath : path.head? = some '/')
    (hv : ofText none (cs ++ path) = .ok v) : v.scheme = u.scheme := by
  obtain ⟨rest, hscheme, -⟩ := ofText_eq_ok hu
  obtain ⟨rest', hscheme', -⟩ := ofText_eq_ok hv
  have hne : clean cs ≠ [] := by
    intro hnil
    rw [front_ofText, hnil] at hscheme
    cases hscheme
  rw [front_ofText] at hscheme hscheme'
  rw [clean_below hpath, baseText_eq hne, List.append_assoc] at hscheme'
  cases htail : (clean cs).any opensTail with
  | true =>
    rw [Text.takeWhile_append_of_any htail, hscheme] at hscheme'
    exact (Prod.mk.inj (Option.some.inj hscheme')).1.symm
  | false =>
    have hwhole := Text.takeWhile_append_of_not_any htail []
    rw [List.append_nil, List.takeWhile_nil, List.append_nil] at hwhole
    rw [hwhole] at hscheme
    rw [Text.takeWhile_append_of_not_any htail, cutScheme_append hscheme] at hscheme'
    exact (Prod.mk.inj (Option.some.inj hscheme')).1.symm

/-- Below a base a path is read behind the text that ends the base. -/
theorem ofText_below (hu : ofText none cs = .ok u) (hweb : familyOf u.scheme = .web)
    (hquery : u.query = none) (hfragment : u.fragment = none) :
    ∃ text, (endBlanks cs = [] → ∃ parts, ofAuthority u.scheme parts text = .ok u) ∧
      ∀ path, path.head? = some '/' → ∃ parts : Parts,
        parts.query = (Parts.ofText (clean path)).query ∧
        ofText none (cs ++ path) =
          ofAuthority u.scheme parts (text ++ (Parts.ofText (clean path)).front) := by
  obtain ⟨rest, hscheme, hread⟩ := ofText_eq_ok hu
  have hbase := ofScheme_append hweb hread
  have hne : clean cs ≠ [] := by
    intro hnil
    rw [front_ofText, hnil] at hscheme
    cases hscheme
  have hself : ofAuthority u.scheme (Parts.ofText (clean cs))
      (rest.dropWhile Family.web.isSlash ++ []) = .ok u := by
    rw [← hbase, List.append_nil, hread]
  have hnone : (clean cs).any opensTail = false := by
    obtain ⟨-, -, hq, hf⟩ := pathText_of_ofAuthority hweb hself
    rw [hquery] at hq
    rw [hfragment] at hf
    rw [← hasTail_ofText, Parts.hasTail, Option.map_eq_none_iff.mp hq.symm,
      Option.map_eq_none_iff.mp hf.symm]
    rfl
  have hblanks : (baseText cs).any opensTail = false := by
    rw [baseText_eq hne, List.any_append, hnone, Bool.false_or, List.any_eq_false]
    intro c hc htail
    have hsign : c = '#' ∨ c = '?' := by simpa [opensTail] using htail
    rcases hsign with rfl | rfl <;> exact absurd (allControl_endBlanks cs _ hc) (by decide)
  have hfront : (Parts.ofText (clean cs)).front = clean cs := by
    rw [front_ofText]
    simpa using Text.takeWhile_append_of_not_any hnone []
  refine ⟨rest.dropWhile Family.web.isSlash ++ endBlanks cs, ?_, fun path hpath => ?_⟩
  · intro hend
    rw [hend]
    exact ⟨_, hself⟩
  · refine ⟨Parts.ofText (clean (cs ++ path)), ?_, ?_⟩
    · rw [clean_below hpath, Parts.ofText_append hblanks]
    · have hcut : cutScheme (Parts.ofText (clean (cs ++ path))).front =
          some (u.scheme, rest ++ (endBlanks cs ++ (Parts.ofText (clean path)).front)) := by
        rw [clean_below hpath, Parts.ofText_append hblanks, baseText_eq hne, List.append_assoc]
        rw [hfront] at hscheme
        exact cutScheme_append hscheme _
      rw [ofText_of_cutScheme hcut, hbase, List.append_assoc]

/-- The segments that a text of an authority and a path leads to. -/
def walked (text : List Char) : List (List Char) :=
  walk .web [] (basePieces (text.dropWhile (!Family.web.isSlash ·)))

theorem segments_ofAuthority {scheme : List Char} (hweb : familyOf scheme = .web)
    (h : ofAuthority scheme parts text = .ok u) :
    u.segments = walked text ∨ u.segments = walked text ++ [[]] := by
  obtain ⟨-, hpath, -⟩ := pathText_of_ofAuthority hweb h
  rw [segments, hpath]
  exact pathOfText_eq_walk (by simpa using Text.head?_dropWhile (!Family.web.isSlash ·) text)

theorem path_ofAuthority_slash {scheme front : List Char} (hweb : familyOf scheme = .web)
    (h : ofAuthority scheme parts (text ++ '/' :: front) = .ok v) :
    v.path = .segments (addSegments .web (walked text) (Text.cutBy Family.web.isSlash front)) ∧
      v.query = parts.writtenQuery .web := by
  have hdrop : (text ++ '/' :: front).dropWhile (!Family.web.isSlash ·) =
      text.dropWhile (!Family.web.isSlash ·) ++ '/' :: front :=
    Text.dropWhile_append_of_head rfl
  obtain ⟨-, hpath, hquery, -⟩ := pathText_of_ofAuthority hweb h
  rw [hdrop, pathOfText_append
    (by simpa using Text.head?_dropWhile (!Family.web.isSlash ·) text)] at hpath
  exact ⟨hpath, hquery⟩

/-- Whether an authority is read does not depend on the path behind it. -/
theorem exists_ofAuthority_slash {scheme front : List Char} (hweb : familyOf scheme = .web)
    (h : ofAuthority scheme parts (text ++ '/' :: front) = .ok v) (parts' : Parts)
    (front' : List Char) : ∃ w, ofAuthority scheme parts' (text ++ '/' :: front') = .ok w := by
  obtain ⟨authority, begin, hread, -⟩ := ofAuthority_eq_ok_iff.mp h
  have htake (more : List Char) : (text ++ '/' :: more).takeWhile (!Family.web.isSlash ·) =
      text.takeWhile (!Family.web.isSlash ·) := Text.takeWhile_append_of_head rfl
  have hdrop (more : List Char) :
      ((text ++ '/' :: more).dropWhile (!Family.web.isSlash ·)).isEmpty = false := by
    rw [Text.dropWhile_append_of_head rfl]
    simp
  refine ⟨_, ofAuthority_eq_ok_iff.mpr ⟨authority, begin, ?_, rfl⟩⟩
  rw [hweb, htake, hdrop] at hread ⊢
  exact hread

/-- The segments that a base leads to: those of the base with a slash behind it. -/
def place (base : List Char) : List (List Char) :=
  match ofText none (base ++ ['/']) with
  | .error _ => []
  | .ok u => u.segments.dropLast

/-- The path below a base goes on from the place of the base, which is the path of the base itself up
to a slash at its end, unless the base ends in blanks. -/
theorem path_below (hu : ofText none cs = .ok u) (hweb : familyOf u.scheme = .web)
    (hquery : u.query = none) (hfragment : u.fragment = none)
    (hv : ofText none (cs ++ '/' :: path) = .ok v) :
    (endBlanks cs = [] → u.segments = place cs ∨ u.segments = place cs ++ [[]]) ∧ ∃ front,
      (Parts.ofText (clean ('/' :: path))).front = '/' :: front ∧
      v.path = .segments (addSegments .web (place cs) (Text.cutBy Family.web.isSlash front)) ∧
      v.query = (Parts.ofText (clean ('/' :: path))).writtenQuery .web := by
  obtain ⟨text, hbase, hbelow⟩ := ofText_below hu hweb hquery hfragment
  obtain ⟨front, hfront⟩ := exists_front_of_path (show ('/' :: path).head? = some '/' from rfl)
  rw [← front_ofText] at hfront
  obtain ⟨parts, hparts, hread⟩ := hbelow ('/' :: path) rfl
  rw [hread, hfront] at hv
  have hplace : place cs = walked text := by
    obtain ⟨parts', -, hslash⟩ := hbelow ['/'] rfl
    obtain ⟨w, hw⟩ := exists_ofAuthority_slash hweb hv parts' []
    have hsegments : w.segments = walked text ++ [[]] := by
      rw [segments, (path_ofAuthority_slash hweb hw).1]
      exact addSegment_still rfl _ true
    have hone : (Parts.ofText (clean ['/'])).front = ['/'] := rfl
    rw [hone, hw] at hslash
    simp only [place, hslash, hsegments, List.dropLast_concat]
  obtain ⟨hpath, hwritten⟩ := path_ofAuthority_slash hweb hv
  rw [hplace]
  refine ⟨fun hblanks => ?_, front, hfront, hpath, ?_⟩
  · obtain ⟨parts', hself⟩ := hbase hblanks
    exact segments_ofAuthority hweb hself
  · rw [hwritten, Parts.writtenQuery, Parts.writtenQuery, hparts]

end

end Wayfare.Url
