import Wayfare.Proofs.Url.Idna.Tables

/-!
The parts of characters. A character is whole, a syllable of letters, or has a first and a second part;
only the first part can have parts of its own, and not many times over.
-/
namespace Wayfare.Url.Idna

/-! ## Looking characters up -/

theorem find?_key {table : List (Nat × Nat × Nat)} (h : (table.map (·.1)).Pairwise (· < ·))
    {pair : Nat × Nat × Nat} (hpair : pair ∈ table) :
    table.find? (·.1 == pair.1) = some pair := by
  induction table with
  | nil => cases hpair
  | cons first rest ih =>
    obtain ⟨hfirst, hrest⟩ := List.pairwise_cons.mp h
    rcases List.mem_cons.mp hpair with rfl | hin
    · simp
    · have hlt : first.1 < pair.1 := hfirst _ (List.mem_map_of_mem hin)
      rw [List.find?_cons_of_neg (by simpa using Nat.ne_of_lt hlt)]
      exact ih hrest hin

theorem find?_pairs {pair : Nat × Nat × Nat} (h : pair ∈ pairs) :
    pairs.find? (·.1 == pair.1) = some pair :=
  find?_key (List.isChain_iff_pairwise.mp keys_ascending) h

section

variable {n a b : Nat}

theorem testBit_keySet (h : (n, a, b) ∈ pairs) : keySet.testBit n = true :=
  (testBit_pointSet _ _).mpr (List.mem_map_of_mem h)

theorem testBit_firstSet (h : (n, a, b) ∈ pairs) : firstSet.testBit a = true :=
  (testBit_pointSet _ _).mpr (List.mem_map_of_mem h)

theorem testBit_secondSet (h : (n, a, b) ∈ pairs) : secondSet.testBit b = true :=
  (testBit_pointSet _ _).mpr (List.mem_map_of_mem h)

theorem toNat_of_composed (h : composedSet.testBit n = true) : (Char.ofNat n).toNat = n :=
  toNat_of_gained (gained_of_composed h)

theorem toNat_key (h : (n, a, b) ∈ pairs) : (Char.ofNat n).toNat = n :=
  toNat_of_composed (by simp [testBit_composedSet, testBit_keySet h])

theorem toNat_first (h : (n, a, b) ∈ pairs) : (Char.ofNat a).toNat = a :=
  toNat_of_composed (by simp [testBit_composedSet, testBit_firstSet h])

theorem toNat_second (h : (n, a, b) ∈ pairs) : (Char.ofNat b).toNat = b :=
  toNat_of_composed (by simp [testBit_composedSet, testBit_secondSet h])

theorem find?_eq_none (h : keySet.testBit n = false) : pairs.find? (·.1 == n) = none := by
  rw [List.find?_eq_none]
  rintro ⟨n', a, b⟩ hpair heq
  obtain rfl : n' = n := by simpa using heq
  rw [testBit_keySet hpair] at h
  cases h

theorem testBit_syllableSet_eq (n : Nat) : syllableSet.testBit n = (splitSyllable n).isSome := by
  rw [isSome_splitSyllable, Bool.eq_iff_iff, syllableSet, testBit_spanSet]
  simp only [Bool.and_eq_true, decide_eq_true_eq]
  omega

theorem splitSyllable_eq_none (h : syllableSet.testBit n = false) : splitSyllable n = none := by
  rw [testBit_syllableSet_eq, Option.isSome_eq_false_iff] at h
  exact Option.isNone_iff_eq_none.mp h

theorem testBit_syllableSet {letters : List Char} (h : splitSyllable n = some letters) :
    syllableSet.testBit n = true := by
  rw [testBit_syllableSet_eq, h, Option.isSome_some]

theorem testBit_letter {letters : List Char} {c : Char} (h : splitSyllable n = some letters)
    (hc : c ∈ letters) : letterSet.testBit c.toNat = true := by
  have hletter : ∀ m, letterSet.testBit m = true → letterSet.testBit (Char.ofNat m).toNat = true := by
    intro m hm
    rwa [toNat_of_composed (by simp [testBit_composedSet, hm])]
  rw [splitSyllable] at h
  split at h
  · next hrange =>
    simp only [Bool.and_eq_true, decide_eq_true_eq] at hrange
    have hlead : letterSet.testBit (leadBase + (n - syllableBase) / 588) = true := by
      simp only [letterSet, Nat.testBit_or, Bool.or_eq_true, testBit_spanSet]
      omega
    have hvowel : letterSet.testBit (vowelBase + (n - syllableBase) % 588 / 28) = true := by
      simp only [letterSet, Nat.testBit_or, Bool.or_eq_true, testBit_spanSet]
      omega
    dsimp only at h
    split at h
    · obtain rfl := Option.some.inj h
      rcases List.mem_pair.mp hc with rfl | rfl
      · exact hletter _ hlead
      · exact hletter _ hvowel
    · next htail =>
      obtain rfl := Option.some.inj h
      rw [beq_iff_eq] at htail
      have htail : letterSet.testBit (tailBase + (n - syllableBase) % 28) = true := by
        simp only [letterSet, Nat.testBit_or, Bool.or_eq_true, testBit_spanSet]
        omega
      simp only [List.mem_cons, List.not_mem_nil, or_false] at hc
      rcases hc with hc | hc | hc
      · exact hc ▸ hletter _ hlead
      · exact hc ▸ hletter _ hvowel
      · exact hc ▸ hletter _ htail
  · cases h

end

/-! ## Taking characters apart -/

/-- A character without parts. -/
def Whole (c : Char) : Prop :=
  (keySet ||| syllableSet).testBit c.toNat = false

theorem whole_iff {c : Char} :
    Whole c ↔ keySet.testBit c.toNat = false ∧ syllableSet.testBit c.toNat = false := by
  rw [Whole, Nat.testBit_or, Bool.or_eq_false_iff]

theorem whole_of_letter {c : Char} (h : letterSet.testBit c.toNat = true) : Whole c := by
  refine whole_iff.mpr ⟨?_, not_testBit_of_disjoint letters_whole h⟩
  rw [Bool.eq_false_iff]
  intro hkey
  have := not_testBit_of_disjoint keys_apart hkey
  simp [h] at this

theorem whole_of_second {c : Char} (h : secondSet.testBit c.toNat = true) : Whole c :=
  not_testBit_of_disjoint seconds_whole h

variable {c : Char}

/-- The three kinds of characters. -/
theorem kind_cases (c : Char) :
    Whole c ∨ (∃ letters, splitSyllable c.toNat = some letters) ∨
      ∃ n a b, (n, a, b) ∈ pairs ∧ c = Char.ofNat n := by
  by_cases hkey : keySet.testBit c.toNat = true
  · obtain ⟨⟨n, a, b⟩, hpair, hn⟩ := List.mem_map.mp ((testBit_pointSet _ _).mp hkey)
    refine .inr (.inr ⟨n, a, b, hpair, ?_⟩)
    rw [show n = c.toNat from hn, Char.ofNat_toNat]
  · cases hsplit : splitSyllable c.toNat with
    | some letters => exact .inr (.inl ⟨letters, rfl⟩)
    | none =>
      refine .inl (whole_iff.mpr ⟨Bool.eq_false_iff.mpr hkey, ?_⟩)
      rw [testBit_syllableSet_eq, hsplit, Option.isSome_none]

theorem decompose_whole (h : Whole c) (depth : Nat) : decompose depth c = [c] := by
  obtain ⟨hkey, hsyllable⟩ := whole_iff.mp h
  cases depth with
  | zero => rfl
  | succ depth =>
    rw [decompose]
    split
    · rfl
    · rw [takeApart, splitSyllable_eq_none hsyllable, find?_eq_none hkey]

theorem decompose_syllable {letters : List Char} (h : splitSyllable c.toNat = some letters)
    (depth : Nat) : decompose (depth + 1) c = letters := by
  have hrange := testBit_syllableSet h
  rw [syllableSet, testBit_spanSet] at hrange
  rw [decompose_succ (by simp only [syllableBase] at hrange; omega), takeApart, h]

/-- The parts of a composed character are those of its first part, and its second. -/
theorem decompose_pair {n a b : Nat} (h : (n, a, b) ∈ pairs) (depth : Nat) :
    decompose (depth + 1) (Char.ofNat n) = decompose depth (Char.ofNat a) ++ [Char.ofNat b] := by
  have hapart := not_testBit_of_disjoint keys_apart (testBit_keySet h)
  simp only [Nat.testBit_or, Bool.or_eq_false_iff] at hapart
  obtain ⟨⟨hascii, hsyllable⟩, -⟩ := hapart
  rw [← Bool.not_eq_true, testBit_spanSet] at hascii
  rw [decompose_succ (by rw [toNat_key h]; omega), takeApart, toNat_key h,
    splitSyllable_eq_none hsyllable, find?_pairs h]

theorem mem_decompose {depth : Nat} {d : Char} (h : d ∈ decompose depth c) :
    composedSet.testBit d.toNat = true ∨ d = c := by
  induction depth generalizing c with
  | zero => exact .inr (List.mem_singleton.mp h)
  | succ depth ih =>
    rcases kind_cases c with hwhole | ⟨letters, hsplit⟩ | ⟨n, a, b, hpair, rfl⟩
    · rw [decompose_whole hwhole, List.mem_singleton] at h
      exact .inr h
    · rw [decompose_syllable hsplit] at h
      exact .inl (by simp [testBit_composedSet, testBit_letter hsplit h])
    · rw [decompose_pair hpair, List.mem_append, List.mem_singleton] at h
      rcases h with hfirst | rfl
      · rcases ih hfirst with hin | rfl
        · exact .inl hin
        · exact .inl (by simp [testBit_composedSet, toNat_first hpair, testBit_firstSet hpair])
      · exact .inl (by simp [testBit_composedSet, toNat_second hpair, testBit_secondSet hpair])

/-! ## How often -/

/-- A character below a level is whole, a syllable, or one more than the level of its first part. -/
theorem level_induction {motive : Nat → Char → Prop} (whole : ∀ k c, Whole c → motive k c)
    (syllable : ∀ k c letters, splitSyllable c.toNat = some letters → motive k c)
    (pair : ∀ k n a b, (n, a, b) ∈ pairs → motive k (Char.ofNat a) → motive (k + 1) (Char.ofNat n))
    {k : Nat} {c : Char} (h : c.toNat ∉ level k) : motive k c := by
  induction k generalizing c with
  | zero =>
    rcases kind_cases c with hwhole | ⟨letters, hsplit⟩ | ⟨n, a, b, hpair, rfl⟩
    · exact whole 0 c hwhole
    · exact syllable 0 c letters hsplit
    · refine absurd ?_ h
      rw [toNat_key hpair]
      exact List.mem_map_of_mem hpair
  | succ k ih =>
    rcases kind_cases c with hwhole | ⟨letters, hsplit⟩ | ⟨n, a, b, hpair, rfl⟩
    · exact whole (k + 1) c hwhole
    · exact syllable (k + 1) c letters hsplit
    · refine pair k n a b hpair (ih fun ha => h ?_)
      rw [toNat_first hpair] at ha
      rw [toNat_key hpair, level, above, List.mem_map]
      exact ⟨(n, a, b), List.mem_filter.mpr ⟨hpair, (testBit_pointSet _ _).mpr ha⟩, rfl⟩

/-- Deeper than a character has parts, nothing more is taken apart. -/
theorem decompose_deeper {k : Nat} (h : c.toNat ∉ level k) :
    ∀ depth > k, decompose (depth + 1) c = decompose depth c := by
  refine level_induction
    (motive := fun k c => ∀ depth > k, decompose (depth + 1) c = decompose depth c) ?_ ?_ ?_ h
  · intro k c hwhole depth hdepth
    rw [decompose_whole hwhole, decompose_whole hwhole]
  · intro k c letters hsplit depth hdepth
    obtain ⟨depth, rfl⟩ := Nat.exists_eq_add_one_of_ne_zero (Nat.ne_zero_of_lt hdepth)
    rw [decompose_syllable hsplit, decompose_syllable hsplit]
  · intro k n a b hpair ih depth hdepth
    obtain ⟨depth, rfl⟩ := Nat.exists_eq_add_one_of_ne_zero (Nat.ne_zero_of_lt hdepth)
    rw [decompose_pair hpair, decompose_pair hpair, ih depth (Nat.lt_of_succ_lt_succ hdepth)]

theorem whole_of_mem_decompose {k : Nat} (h : c.toNat ∉ level k) :
    ∀ depth > k, ∀ d ∈ decompose depth c, Whole d := by
  refine level_induction (motive := fun k c => ∀ depth > k, ∀ d ∈ decompose depth c, Whole d)
    ?_ ?_ ?_ h
  · intro k c hwhole depth hdepth d hd
    rw [decompose_whole hwhole, List.mem_singleton] at hd
    rwa [hd]
  · intro k c letters hsplit depth hdepth d hd
    obtain ⟨depth, rfl⟩ := Nat.exists_eq_add_one_of_ne_zero (Nat.ne_zero_of_lt hdepth)
    rw [decompose_syllable hsplit] at hd
    exact whole_of_letter (testBit_letter hsplit hd)
  · intro k n a b hpair ih depth hdepth d hd
    obtain ⟨depth, rfl⟩ := Nat.exists_eq_add_one_of_ne_zero (Nat.ne_zero_of_lt hdepth)
    rw [decompose_pair hpair, List.mem_append, List.mem_singleton] at hd
    rcases hd with hfirst | rfl
    · exact ih depth (Nat.lt_of_succ_lt_succ hdepth) d hfirst
    · apply whole_of_second
      rw [toNat_second hpair]
      exact testBit_secondSet hpair

/-- The parts of a character, as far as it has any. -/
def parts (c : Char) : List Char :=
  decompose 8 c

theorem not_mem_level_four (c : Char) : c.toNat ∉ level 4 := by
  rw [level_four]
  exact List.not_mem_nil

theorem whole_of_mem_parts {d : Char} (h : d ∈ parts c) : Whole d :=
  whole_of_mem_decompose (not_mem_level_four c) 8 (by decide) d h

theorem parts_whole (h : Whole c) : parts c = [c] :=
  decompose_whole h 8

theorem parts_pair {n a b : Nat} (h : (n, a, b) ∈ pairs) :
    parts (Char.ofNat n) = parts (Char.ofNat a) ++ [Char.ofNat b] := by
  rw [parts, decompose_pair h, parts, decompose_deeper (not_mem_level_four _) 7 (by decide)]

theorem parts_ne_nil (c : Char) : parts c ≠ [] := by
  rcases kind_cases c with hwhole | ⟨letters, hsplit⟩ | ⟨n, a, b, hpair, rfl⟩
  · simp [parts_whole hwhole]
  · rw [parts, decompose_syllable hsplit]
    rintro rfl
    rw [splitSyllable] at hsplit
    dsimp only at hsplit
    split at hsplit
    · split at hsplit <;> cases hsplit
    · cases hsplit
  · simp [parts_pair hpair]

/-! ## What is put together comes apart again -/

variable {a b : Char}

/-- A syllable by the numbers of its letters; the last may be missing. -/
def syllable (lead vowel tail : Nat) : Nat :=
  syllableBase + (lead * 21 + vowel) * 28 + tail

theorem splitSyllable_syllable {lead vowel tail : Nat} (hlead : lead < 19) (hvowel : vowel < 21)
    (htail : tail < 28) :
    splitSyllable (syllable lead vowel tail) =
      some ([Char.ofNat (leadBase + lead), Char.ofNat (vowelBase + vowel)] ++
        if tail = 0 then [] else [Char.ofNat (tailBase + tail)]) := by
  have hrange : syllableBase ≤ syllable lead vowel tail ∧
      syllable lead vowel tail < syllableBase + 11172 := by
    simp only [syllable]
    omega
  have hplace : syllable lead vowel tail - syllableBase = (lead * 21 + vowel) * 28 + tail := by
    simp only [syllable]
    omega
  have hlead' : ((lead * 21 + vowel) * 28 + tail) / 588 = lead := by omega
  have hvowel' : ((lead * 21 + vowel) * 28 + tail) % 588 / 28 = vowel := by omega
  have htail' : ((lead * 21 + vowel) * 28 + tail) % 28 = tail := by omega
  simp only [splitSyllable, hrange, hplace, hlead', hvowel', htail', decide_true, Bool.and_self,
    if_true, beq_iff_eq]
  split <;> rfl

theorem parts_syllable {lead vowel tail : Nat} (hlead : lead < 19) (hvowel : vowel < 21)
    (htail : tail < 28) :
    parts (Char.ofNat (syllable lead vowel tail)) =
      [Char.ofNat (leadBase + lead), Char.ofNat (vowelBase + vowel)] ++
        if tail = 0 then [] else [Char.ofNat (tailBase + tail)] := by
  have hsplit := splitSyllable_syllable hlead hvowel htail
  have hbit : composedSet.testBit (syllable lead vowel tail) = true := by
    simp [testBit_composedSet, testBit_syllableSet hsplit]
  exact decompose_syllable (by rwa [toNat_of_composed hbit]) 7

/-- Two letters are joined, or a syllable without a last letter and that letter. -/
theorem joinSyllable_eq_some {a b : Nat} (h : joinSyllable a b = some c) :
    (∃ lead < 19, ∃ vowel < 21, a = leadBase + lead ∧ b = vowelBase + vowel ∧
      c = Char.ofNat (syllable lead vowel 0)) ∨
    (∃ lead < 19, ∃ vowel < 21, ∃ tail < 28, tail ≠ 0 ∧ a = syllable lead vowel 0 ∧
      b = tailBase + tail ∧ c = Char.ofNat (syllable lead vowel tail)) := by
  rw [joinSyllable] at h
  split at h
  · next hletters =>
    simp only [Bool.and_eq_true, decide_eq_true_eq] at hletters
    obtain ⟨lead, rfl⟩ := Nat.exists_eq_add_of_le hletters.1.1.1
    obtain ⟨vowel, rfl⟩ := Nat.exists_eq_add_of_le hletters.1.2
    refine .inl ⟨lead, by omega, vowel, by omega, rfl, rfl, ?_⟩
    rw [← Option.some.inj h, Nat.add_sub_cancel_left, Nat.add_sub_cancel_left]
    rfl
  · split at h
    · next hjoins =>
      simp only [Bool.and_eq_true, decide_eq_true_eq, beq_iff_eq] at hjoins
      obtain ⟨tail, rfl⟩ := Nat.exists_eq_add_of_lt hjoins.1.2
      have ha : a = syllable ((a - syllableBase) / 588) ((a - syllableBase) % 588 / 28) 0 := by
        simp only [syllable]
        omega
      have hjoined : a + (tailBase + tail + 1 - tailBase) =
          syllable ((a - syllableBase) / 588) ((a - syllableBase) % 588 / 28) (tail + 1) := by
        simp only [syllable] at ha ⊢
        omega
      refine .inr ⟨_, by omega, _, by omega, tail + 1, by omega, by omega, ha, rfl, ?_⟩
      rw [← Option.some.inj h, hjoined]
    · cases h

theorem parts_joinSyllable (h : joinSyllable a.toNat b.toNat = some c) :
    parts c = parts a ++ [b] := by
  rcases joinSyllable_eq_some h with ⟨lead, hlead, vowel, hvowel, ha, hb, rfl⟩ |
    ⟨lead, hlead, vowel, hvowel, tail, htail, hzero, ha, hb, rfl⟩
  · have hwhole : Whole a := by
      apply whole_of_letter
      simp only [letterSet, Nat.testBit_or, Bool.or_eq_true, testBit_spanSet]
      omega
    rw [parts_syllable hlead hvowel (by decide), parts_whole hwhole, ← ha, ← hb, Char.ofNat_toNat,
      Char.ofNat_toNat]
    rfl
  · have hparts : parts a = [Char.ofNat (leadBase + lead), Char.ofNat (vowelBase + vowel)] := by
      rw [← Char.ofNat_toNat a, ha, parts_syllable hlead hvowel (by decide)]
      rfl
    rw [parts_syllable hlead hvowel htail, hparts, if_neg hzero, ← hb, Char.ofNat_toNat]

theorem parts_composePair (h : composePair a b = some c) : parts c = parts a ++ [b] := by
  rw [composePair] at h
  split at h
  · cases h
  split at h
  · next joined hjoined =>
    obtain rfl := Option.some.inj h
    exact parts_joinSyllable hjoined
  · obtain ⟨⟨n, x, y⟩, hfind, rfl⟩ := Option.map_eq_some_iff.mp h
    have hboth : x = a.toNat ∧ y = b.toNat := by simpa using List.find?_some hfind
    obtain ⟨rfl, rfl⟩ := hboth
    rw [parts_pair (List.mem_of_find?_eq_some hfind), Char.ofNat_toNat, Char.ofNat_toNat]

theorem composed_of_composePair (h : composePair a b = some c) :
    composedSet.testBit c.toNat = true := by
  have hparts : ¬ Whole c := by
    intro hwhole
    have hone := parts_composePair h
    rw [parts_whole hwhole] at hone
    obtain ⟨d, front, hfront⟩ := List.exists_cons_of_ne_nil (parts_ne_nil a)
    simp [hfront] at hone
  rw [Whole, Bool.not_eq_false, Nat.testBit_or, Bool.or_eq_true] at hparts
  rcases hparts with hkey | hsyllable
  · simp [testBit_composedSet, hkey]
  · simp [testBit_composedSet, hsyllable]

/-- Nothing is composed with a point in front. -/
theorem composePair_point (c : Char) : composePair '.' c = none := by
  have hjoin : joinSyllable '.'.toNat c.toNat = none := by
    simp [joinSyllable, leadBase, syllableBase]
  rw [Option.eq_none_iff_forall_ne_some]
  intro d h
  rw [composePair, hjoin] at h
  split at h
  · cases h
  · obtain ⟨⟨n, x, y⟩, hfind, -⟩ := Option.map_eq_some_iff.mp h
    obtain ⟨rfl, -⟩ : x = '.'.toNat ∧ y = c.toNat := by simpa using List.find?_some hfind
    have hpoint := point_not_composed
    have hpair := testBit_firstSet (List.mem_of_find?_eq_some hfind)
    rw [(testBit_composedSet 0x2E).mpr (.inr (.inl hpair))] at hpoint
    cases hpoint

end Wayfare.Url.Idna
