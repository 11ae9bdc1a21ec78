import Wayfare.Proofs.Option
import Wayfare.Proofs.Url.Idna.Composition
import Wayfare.Proofs.Url.Idna.Punycode

/-!
Domain names that were read are read again as they are written. Each label of a name stands for itself:
it is ASCII, or it is coded, and what it codes is shown again.
-/
namespace Wayfare.Url.Idna

/-! ## Characters of names -/

/-- The characters of a written name: small ASCII that may stand in a name. -/
def isNameChar (c : Char) : Bool :=
  isAscii c && c.toLower == c && !isForbidden c

theorem ascii_allowed_lower : ∀ n < 0x80, isForbidden (Char.ofNat n) = false →
    isNameChar (Char.ofNat n).toLower = true := by
  decide +kernel

theorem isNameChar_toLower {c : Char} (hc : isAscii c = true) (hallowed : isForbidden c = false) :
    isNameChar c.toLower = true := by
  have hlower := ascii_allowed_lower c.toNat (by simpa [isAscii] using hc)
  rw [Char.ofNat_toNat] at hlower
  exact hlower hallowed

/-- Capitals do not stand for themselves. -/
theorem toLower_of_isKept {c : Char} (hkept : isKept c = true) : c.toLower = c := by
  refine dif_neg ?_
  rintro ⟨hA, hZ⟩
  have hlow : 0x41 ≤ c.toNat := UInt32.le_iff_toNat_le.mp hA
  have hhigh : c.toNat ≤ 0x5A := UInt32.le_iff_toNat_le.mp hZ
  have hrun : Replacement.ofRun (0x41, 0x5A, 0x61) ∈ replacements := by
    simp only [replacements, List.mem_append]
    exact .inl (.inl (.inl (.inl (List.mem_map_of_mem List.mem_cons_self))))
  have hcovers : (Replacement.ofRun (0x41, 0x5A, 0x61)).covers c.toNat = true := by
    simp [Replacement.covers, Replacement.ofRun, hlow, hhigh, Nat.mod_one]
  rw [isKept, List.any_eq_true.mpr ⟨_, hrun, hcovers⟩] at hkept
  cases hkept

theorem isNameChar_of_isKept {c : Char} (hc : isAscii c = true) (hkept : isKept c = true)
    (hallowed : isForbidden c = false) : isNameChar c = true := by
  simp [isNameChar, hc, toLower_of_isKept hkept, hallowed]

theorem labelChar_codedMark : ∀ c ∈ codedMark, isNameChar c = true ∧ c ≠ '.' := by
  have hall : codedMark.all (fun c => isNameChar c && c != '.') = true := by decide
  simpa using hall

theorem labelChar_digit : ∀ d < 36,
    isNameChar (Punycode.digit d) = true ∧ Punycode.digit d ≠ '.' := by
  decide +kernel

/-! ## Labels -/

theorem isAscii_of_isNameChar {c : Char} (h : isNameChar c = true) : isAscii c = true := by
  simp only [isNameChar, Bool.and_eq_true] at h
  exact h.1.1

theorem allowed_of_isNameChar {c : Char} (h : isNameChar c = true) : isForbidden c = false := by
  simpa [isNameChar] using (Bool.and_eq_true_iff.mp h).2

theorem toLower_of_isNameChar {c : Char} (h : isNameChar c = true) : c.toLower = c := by
  simp only [isNameChar, Bool.and_eq_true, beq_iff_eq] at h
  exact h.1.2

theorem all_isAscii {cs : List Char} (h : ∀ c ∈ cs, isNameChar c = true) : cs.all isAscii = true :=
  List.all_eq_true.mpr fun c hc => isAscii_of_isNameChar (h c hc)

theorem any_isForbidden {cs : List Char} (h : ∀ c ∈ cs, isNameChar c = true) :
    cs.any isForbidden = false := by
  rw [List.any_eq_false]
  intro c hc
  rw [allowed_of_isNameChar (h c hc)]
  exact Bool.false_ne_true

/-- A label that a name was read from: composed, of characters that stand for themselves. -/
structure Label (label : List Char) : Prop where
  composed : composed label = label
  kept : ∀ c ∈ label, isKept c = true
  point : '.' ∉ label

variable {label shown written : List Char}

theorem processLabel_ascii (hascii : label.all isAscii = true)
    (h : processLabel label = some (shown, written)) :
    written = label ∧ ∀ c ∈ label, isForbidden c = false := by
  rw [processLabel, if_pos hascii] at h
  split at h
  · cases h
  next hallowed =>
  have hnone : ∀ c ∈ label, isForbidden c = false := by simpa using hallowed
  split at h
  · obtain ⟨_, -, heq⟩ := Option.map_eq_some_iff.mp h
    exact ⟨(Prod.mk.inj heq).2.symm, hnone⟩
  · exact ⟨(Prod.mk.inj (Option.some.inj h)).2.symm, hnone⟩

/-- A label beyond ASCII, once it is coded, is decoded to itself. -/
theorem processLabel_coded (hlabel : Label label) (hascii : ¬ label.all isAscii = true)
    (hfits : labelFits label = true) :
    (∀ c ∈ codedMark ++ Punycode.encode label, isNameChar c = true ∧ c ≠ '.') ∧
    processLabel (codedMark ++ Punycode.encode label) =
      some (label, codedMark ++ Punycode.encode label) := by
  have hallowed : ∀ c ∈ label, isForbidden c = false := by
    simp only [labelFits, Bool.and_eq_true, Bool.not_eq_true', List.any_eq_false] at hfits
    simpa using hfits.2
  have hchars : ∀ c ∈ codedMark ++ Punycode.encode label, isNameChar c = true ∧ c ≠ '.' := by
    intro c hc
    rcases List.mem_append.mp hc with hmark | hcode
    · exact labelChar_codedMark c hmark
    · rcases Punycode.mem_encode hcode with ⟨hin, hlow⟩ | rfl | ⟨d, hd, rfl⟩
      · refine ⟨isNameChar_of_isKept (by simpa [isAscii] using hlow) (hlabel.kept c hin)
          (hallowed c hin), ?_⟩
        rintro rfl
        exact hlabel.point hin
      · decide
      · exact labelChar_digit d hd
  have hname : ∀ c ∈ codedMark ++ Punycode.encode label, isNameChar c = true :=
    fun c hc => (hchars c hc).1
  have hcoded : isCoded (codedMark ++ Punycode.encode label) = true :=
    List.isPrefixOf_iff_prefix.mpr (List.prefix_append _ _)
  have hkept : label.all isKept = true := List.all_eq_true.mpr hlabel.kept
  have hdecode : decodeLabel (codedMark ++ Punycode.encode label) = some label := by
    rw [decodeLabel, List.drop_left, Punycode.decode_encode]
    simp [hascii, hkept, hlabel.composed, hfits]
  refine ⟨hchars, ?_⟩
  rw [processLabel, if_pos (all_isAscii hname), any_isForbidden hname, hcoded, hdecode]
  rfl

/-- A label that was read is read again as it is written, and shows the same. -/
theorem processLabel_again (hlabel : Label label)
    (h : processLabel label = some (shown, written)) :
    (∀ c ∈ written, isNameChar c = true ∧ c ≠ '.') ∧
      processLabel written = some (shown, written) := by
  by_cases hascii : label.all isAscii = true
  · obtain ⟨rfl, hallowed⟩ := processLabel_ascii hascii h
    refine ⟨fun c hc => ⟨isNameChar_of_isKept (List.all_eq_true.mp hascii c hc)
      (hlabel.kept c hc) (hallowed c hc), ?_⟩, h⟩
    rintro rfl
    exact hlabel.point hc
  · rw [processLabel, if_neg hascii] at h
    obtain ⟨hfits, heq⟩ := Option.ite_none_right_eq_some.mp h
    obtain ⟨rfl, rfl⟩ := Prod.mk.inj (Option.some.inj heq)
    exact processLabel_coded hlabel hascii (Bool.and_eq_true_iff.mp hfits).2

/-! ## Names -/

theorem composed_ascii {cs : List Char} (h : ∀ c ∈ cs, isAscii c = true) : composed cs = cs := by
  induction cs using List.reverseRecOn with
  | nil => rfl
  | append_singleton cs c ih =>
    obtain ⟨hcs, hc⟩ := List.forall_mem_append.mp h
    have hlow : c.toNat < 0x80 := by simpa [isAscii] using hc
    rw [composed_append hlow, ih hcs]

theorem mapM_mapChar {cs : List Char} (h : ∀ c ∈ cs, isNameChar c = true) :
    (cs.mapM mapChar).map List.flatten = some cs := by
  have hmapped : cs.mapM mapChar = some (cs.map ([·])) := by
    rw [mapM_eq_some_iff, List.forall₂_map_right_iff, List.forall₂_same]
    intro c hc
    have hlow : c.toNat < 0x80 := by simpa [isAscii] using isAscii_of_isNameChar (h c hc)
    rw [mapChar_ascii hlow, toLower_of_isNameChar (h c hc)]
  rw [hmapped, Option.map_some, ← List.flatMap_def, List.flatMap_singleton']

/-- The labels that a mapped text is cut into. -/
theorem label_of_mem_cut {name mapped label : List Char}
    (hmapped : (name.mapM mapChar).map List.flatten = some mapped)
    (hlabel : label ∈ Text.cut '.' (composed mapped)) : Label label := by
  obtain ⟨pieces, hpieces, rfl⟩ := Option.map_eq_some_iff.mp hmapped
  refine ⟨composed_of_mem_cut (composed_composed _) hlabel, fun c hc => ?_,
    Text.not_mem_of_mem_cut hlabel⟩
  rcases mem_composed (Text.mem_of_mem_cut hc hlabel) with hgained | hin
  · exact isKept_of_gained (gained_of_composed hgained)
  · obtain ⟨piece, hpiece, hin⟩ := List.mem_flatten.mp hin
    obtain ⟨d, -, hd⟩ := exists_of_mem_mapM hpieces hpiece
    exact isKept_of_mapChar hd hin

theorem map_toLower {name : List Char} (h : ∀ c ∈ name, isNameChar c = true) :
    name.map Char.toLower = name :=
  (List.map_congr_left fun c hc => toLower_of_isNameChar (h c hc)).trans (List.map_id _)

theorem toAscii_plain {name : List Char} (h : ∀ c ∈ name, isNameChar c = true)
    (hplain : isPlain name = true) : toAscii (Text.encodeUtf8 name) = .ok name := by
  rw [toAscii, Text.decodeUtf8?_encodeUtf8]
  dsimp only
  rw [if_pos hplain, any_isForbidden h, map_toLower h]
  rfl

/-- Whether the labels of a name fit the directions in which they are shown. -/
def directed (labels : List (List Char × List Char)) : Bool :=
  !(labels.any (fun (shown, _) => shown.any isRightward) &&
    !labels.all (fun (shown, _) => directionFits shown))

/-- A name is read as it stands, in small letters, or label by label, once it is mapped and composed. -/
theorem toAscii_eq_ok {bytes : List UInt8} {name : List Char} (h : toAscii bytes = .ok name) :
    (∃ text : List Char, isPlain text = true ∧ text.any isForbidden = false ∧ name = text.map Char.toLower) ∨
    (∃ (text mapped : List Char) (labels : List (List Char × List Char)),
      (text.mapM mapChar).map List.flatten = some mapped ∧
      (Text.cut '.' (composed mapped)).mapM processLabel = some labels ∧ directed labels = true ∧
      name = ['.'].intercalate (labels.map (·.2))) := by
  rw [toAscii] at h
  split at h
  · cases h
  next text htext =>
  split at h
  · next hplain =>
    split at h
    · cases h
    next hallowed =>
    exact .inl ⟨text, hplain, Bool.eq_false_iff.mpr hallowed, (Except.ok.inj h).symm⟩
  · split at h
    · cases h
    next mapped hmapped =>
    split at h
    · cases h
    next labels hlabels =>
    split at h
    · cases h
    next hdirection =>
    exact .inr ⟨text, mapped, labels, hmapped, hlabels,
      (Bool.not_eq_true' _).mpr (Bool.eq_false_iff.mpr hdirection), (Except.ok.inj h).symm⟩

/-- Labels that are written as they are read make a name that is written as it is read. -/
theorem toAscii_labels {labels : List (List Char × List Char)} (hne : labels ≠ [])
    (hlabels : ∀ label ∈ labels, (∀ c ∈ label.2, isNameChar c = true ∧ c ≠ '.') ∧
      processLabel label.2 = some label)
    (hdirected : directed labels = true) :
    let name := ['.'].intercalate (labels.map (·.2))
    (∀ c ∈ name, isNameChar c = true) ∧ toAscii (Text.encodeUtf8 name) = .ok name := by
  intro name
  have hchars : ∀ c ∈ name, isNameChar c = true := by
    intro c hc
    rcases Text.mem_intercalate hc with rfl | ⟨written, hwritten, hin⟩
    · decide
    · obtain ⟨label, hmem, rfl⟩ := List.mem_map.mp hwritten
      exact ((hlabels label hmem).1 c hin).1
  refine ⟨hchars, ?_⟩
  by_cases hplain : isPlain name = true
  · exact toAscii_plain hchars hplain
  · have hpoints : ∀ written ∈ labels.map (·.2), '.' ∉ written := by
      intro written hwritten hpoint
      obtain ⟨label, hmem, rfl⟩ := List.mem_map.mp hwritten
      exact ((hlabels label hmem).1 '.' hpoint).2 rfl
    have hread : (labels.map (·.2)).mapM processLabel = some labels := by
      rw [mapM_eq_some_iff, List.forall₂_map_left_iff, List.forall₂_same]
      exact fun label hmem => (hlabels label hmem).2
    have hcut : Text.cut '.' (composed name) = labels.map (·.2) := by
      rw [composed_ascii fun c hc => isAscii_of_isNameChar (hchars c hc),
        Text.cut_intercalate hpoints (by simpa using hne)]
    rw [toAscii, Text.decodeUtf8?_encodeUtf8]
    dsimp only
    rw [if_neg hplain, mapM_mapChar hchars]
    dsimp only
    rw [hcut, hread]
    dsimp only
    rw [(Bool.not_eq_true' _).mp hdirected]
    rfl

/-- A name that was read is read again as it is written. -/
theorem toAscii_again {bytes : List UInt8} {name : List Char} (h : toAscii bytes = .ok name) :
    (∀ c ∈ name, isNameChar c = true) ∧ toAscii (Text.encodeUtf8 name) = .ok name := by
  rcases toAscii_eq_ok h with ⟨text, hplain, hallowed, rfl⟩ |
    ⟨text, mapped, labels, hmapped, hlabels, hdirected, rfl⟩
  · obtain ⟨hascii, hcoded⟩ := Bool.and_eq_true_iff.mp hplain
    have hchars : ∀ c ∈ text.map Char.toLower, isNameChar c = true := by
      intro c hc
      obtain ⟨d, hd, rfl⟩ := List.mem_map.mp hc
      exact isNameChar_toLower (List.all_eq_true.mp hascii d hd)
        (Bool.eq_false_iff.mpr (List.any_eq_false.mp hallowed d hd))
    have hplain' : isPlain (text.map Char.toLower) = true := by
      rw [isPlain, map_toLower hchars, hcoded, all_isAscii hchars]
      rfl
    exact ⟨hchars, toAscii_plain hchars hplain'⟩
  · have hne : labels ≠ [] := by
      rw [← List.length_pos_iff, ← (mapM_eq_some_iff.mp hlabels).length_eq, List.length_pos_iff]
      exact Text.cutBy_ne_nil _ _
    apply toAscii_labels hne ?_ hdirected
    rintro ⟨shown, written⟩ hin
    obtain ⟨label, hmem, hprocess⟩ := exists_of_mem_mapM hlabels hin
    exact processLabel_again (label_of_mem_cut hmapped hmem) hprocess

end Wayfare.Url.Idna
