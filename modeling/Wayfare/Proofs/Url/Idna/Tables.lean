import Mathlib.Data.List.Chain
import Wayfare.Proofs.Text.Utf8
import Wayfare.Url.Idna.Composition
import Wayfare.Url.Idna.Mapping

/-!
Facts about the tables of international names. Sets of code points are the bits of numbers, so that
whole tables can be compared at once.
-/
namespace Wayfare.Url.Idna

/-! ## Sets of code points -/

/-- The union of sets, one for each item. -/
def unite {α : Type} (set : α → Nat) (items : List α) : Nat :=
  items.foldr (fun item rest => set item ||| rest) 0

theorem testBit_unite {α : Type} (set : α → Nat) (items : List α) (n : Nat) :
    (unite set items).testBit n = true ↔ ∃ item ∈ items, (set item).testBit n = true := by
  induction items with
  | nil => simp [unite]
  | cons item items ih =>
    rw [unite, List.foldr_cons, ← unite, Nat.testBit_or, Bool.or_eq_true, ih]
    simp

/-- The union of some sets. It is no chain of `|||`: where two such sets are compared, the checker would
go through their tables. -/
def union (sets : List Nat) : Nat :=
  unite id sets

theorem testBit_union (sets : List Nat) (n : Nat) :
    (union sets).testBit n = true ↔ ∃ set ∈ sets, set.testBit n = true :=
  testBit_unite id sets n

/-- The set of some points. -/
def pointSet (points : List Nat) : Nat :=
  unite (1 <<< ·) points

theorem testBit_pointSet (points : List Nat) (n : Nat) :
    (pointSet points).testBit n = true ↔ n ∈ points := by
  simp [pointSet, testBit_unite, Nat.one_shiftLeft, Nat.testBit_two_pow]

/-- The points from `low` to `high`. -/
def spanSet (low high : Nat) : Nat :=
  (1 <<< (high + 1 - low) - 1) <<< low

theorem testBit_spanSet (low high n : Nat) :
    (spanSet low high).testBit n = true ↔ low ≤ n ∧ n ≤ high := by
  rw [spanSet, Nat.testBit_shiftLeft, Nat.one_shiftLeft, Nat.testBit_two_pow_sub_one]
  simp only [ge_iff_le, Bool.and_eq_true, decide_eq_true_eq]
  omega

/-- Sets without a common bit have no common point. -/
theorem not_testBit_of_disjoint {s t n : Nat} (h : s &&& t = 0) (hn : s.testBit n = true) :
    t.testBit n = false := by
  have hand := congrArg (Nat.testBit · n) h
  simpa [Nat.testBit_and, hn] using hand

/-! ## Pairs and syllables -/

/-- The characters with two parts, and the parts. -/
def keySet : Nat :=
  pointSet (pairs.map (·.1))

def firstSet : Nat :=
  pointSet (pairs.map (·.2.1))

def secondSet : Nat :=
  pointSet (pairs.map (·.2.2))

def syllableSet : Nat :=
  spanSet syllableBase (syllableBase + 11171)

/-- The parts of syllables. -/
def letterSet : Nat :=
  spanSet leadBase (leadBase + 18) ||| spanSet vowelBase (vowelBase + 20) |||
    spanSet (tailBase + 1) (tailBase + 27)

/-- What a text gains when it is composed. -/
def composedSet : Nat :=
  union [keySet, firstSet, secondSet, syllableSet, letterSet]

theorem testBit_composedSet (n : Nat) :
    composedSet.testBit n = true ↔ keySet.testBit n = true ∨ firstSet.testBit n = true ∨
      secondSet.testBit n = true ∨ syllableSet.testBit n = true ∨ letterSet.testBit n = true := by
  rw [composedSet, testBit_union]
  simp

theorem point_not_composed : composedSet.testBit 0x2E = false := by
  decide +kernel

theorem keys_ascending : (pairs.map (·.1)).IsChain (· < ·) := by
  decide +kernel

/-- No character with parts is ASCII, a syllable or a part of one. -/
theorem keys_apart : keySet &&& (spanSet 0 0x7F ||| syllableSet ||| letterSet) = 0 := by
  decide +kernel

/-- Second parts have no parts of their own. -/
theorem seconds_whole : secondSet &&& (keySet ||| syllableSet) = 0 := by
  decide +kernel

theorem letters_whole : letterSet &&& syllableSet = 0 := by
  decide

/-- Characters whose first part is among some points. -/
def above (points : List Nat) : List Nat :=
  (pairs.filter fun (_, first, _) => (pointSet points).testBit first).map (·.1)

/-- Characters that can be taken apart so many times and once more. -/
def level : Nat → List Nat
  | 0 => pairs.map (·.1)
  | k + 1 => above (level k)

theorem level_four : level 4 = [] := by
  decide +kernel

/-! ## Replacements and refusals -/

namespace Replacement

/-- How far the covered characters are behind the first. -/
def offsets (r : Replacement) : Nat :=
  if r.step = 1 then spanSet 0 (r.last - r.first)
  else pointSet ((List.range ((r.last - r.first) / r.step + 1)).map (r.step * ·))

/-- A set that holds the covered characters. -/
def covered (r : Replacement) : Nat :=
  r.offsets <<< r.first

/-- A set that holds what stands for them. -/
def targets (r : Replacement) : Nat :=
  unite (fun t => if r.sliding then r.offsets <<< t else 1 <<< t) r.target

theorem testBit_offsets {r : Replacement} {n : Nat} (h : r.covers n = true) :
    r.offsets.testBit (n - r.first) = true := by
  obtain ⟨⟨hfirst, hlast⟩, hstep⟩ : (r.first ≤ n ∧ n ≤ r.last) ∧ (n - r.first) % r.step = 0 := by
    simpa [covers] using h
  unfold offsets
  split
  · rw [testBit_spanSet]
    omega
  · rw [testBit_pointSet, List.mem_map]
    refine ⟨(n - r.first) / r.step, ?_, Nat.mul_div_cancel' (Nat.dvd_of_mod_eq_zero hstep)⟩
    rw [List.mem_range, Nat.lt_add_one_iff]
    exact Nat.div_le_div_right (Nat.sub_le_sub_right hlast _)

theorem testBit_covered {r : Replacement} {n : Nat} (h : r.covers n = true) :
    r.covered.testBit n = true := by
  have hfirst : r.first ≤ n := by
    simp only [covers, Bool.and_eq_true, decide_eq_true_eq] at h
    exact h.1.1
  simp [covered, Nat.testBit_shiftLeft, hfirst, testBit_offsets h]

theorem testBit_targets {r : Replacement} {n : Nat} (h : r.covers n = true) {t : Nat}
    (ht : t ∈ r.target) :
    r.targets.testBit (if r.sliding then t + (n - r.first) else t) = true := by
  rw [targets, testBit_unite]
  refine ⟨t, ht, ?_⟩
  split
  · simp [Nat.testBit_shiftLeft, testBit_offsets h]
  · simp [Nat.one_shiftLeft]

end Replacement

/-- A set that holds the characters that do not stand for themselves. -/
def unkept : Nat :=
  union [unite Replacement.covered replacements,
    unite (fun (low, high) => spanSet low high) refused.bounds.toList]

theorem testBit_unkept (n : Nat) : unkept.testBit n = true ↔
    (∃ r ∈ replacements, r.covered.testBit n = true) ∨
      ∃ range ∈ refused.bounds.toList, range.1 ≤ n ∧ n ≤ range.2 := by
  rw [unkept, testBit_union]
  simp [testBit_unite, testBit_spanSet]

theorem isKept_of_not_unkept {c : Char} (h : unkept.testBit c.toNat = false) : isKept c = true := by
  have hnone := (testBit_unkept c.toNat).not.mp (Bool.eq_false_iff.mp h)
  rw [isKept, Bool.and_eq_true, Bool.not_eq_true', Bool.not_eq_true']
  constructor
  · rw [List.any_eq_false]
    exact fun r hr hcovers => hnone (.inl ⟨r, hr, Replacement.testBit_covered hcovers⟩)
  · rw [Text.Ranges.contains, ← Array.any_toList, List.any_eq_false]
    intro range hrange hin
    exact hnone (.inr ⟨range, hrange, by simpa using hin⟩)

/-! ## What is gained -/

/-- The characters of ASCII without the capitals. -/
def smallSet : Nat :=
  spanSet 0 0x40 ||| spanSet 0x5B 0x7F

theorem testBit_toLower : ∀ n < 0x80, smallSet.testBit (Char.ofNat n).toLower.toNat = true := by
  decide

/-- What a text gains when it is mapped and composed. -/
def gained : Nat :=
  union [unite Replacement.targets replacements, smallSet, composedSet]

theorem testBit_gained (n : Nat) : gained.testBit n = true ↔
    (∃ r ∈ replacements, r.targets.testBit n = true) ∨ smallSet.testBit n = true ∨
      composedSet.testBit n = true := by
  rw [gained, testBit_union]
  simp [testBit_unite]

/-- What is gained stands for itself, and is a character. The table is gone through once for all of
it. -/
theorem gained_apart : gained &&& unkept = 0 ∧ gained &&& spanSet 0xD800 0xDFFF = 0 ∧
    gained >>> 0x110000 = 0 := by
  decide +kernel

theorem isKept_of_gained {c : Char} (h : gained.testBit c.toNat = true) : isKept c = true :=
  isKept_of_not_unkept (not_testBit_of_disjoint gained_apart.1 h)

theorem toNat_of_gained {n : Nat} (h : gained.testBit n = true) : (Char.ofNat n).toNat = n := by
  obtain ⟨-, hsurrogates, hhigh⟩ := gained_apart
  have hlt : n < 0x110000 := by
    by_contra hge
    have hshift := congrArg (Nat.testBit · (n - 0x110000)) hhigh
    simp [Nat.testBit_shiftRight, Nat.add_sub_cancel' (Nat.not_lt.mp hge), h] at hshift
  have hscalar : ¬ (0xD800 ≤ n ∧ n ≤ 0xDFFF) := by
    rw [← testBit_spanSet, not_testBit_of_disjoint hsurrogates h]
    exact Bool.false_ne_true
  exact Text.toNat_ofNat (by simp only [Nat.isValidChar]; omega)

theorem gained_of_composed {n : Nat} (h : composedSet.testBit n = true) :
    gained.testBit n = true :=
  (testBit_gained n).mpr (.inr (.inr h))

/-- What stands for a character stands for itself. -/
theorem isKept_apply {r : Replacement} (hr : r ∈ replacements) {n : Nat} (hcovers : r.covers n = true)
    {c : Char} (hc : c ∈ r.apply n) : isKept c = true := by
  obtain ⟨t, ht, rfl⟩ := List.mem_map.mp hc
  have htarget : gained.testBit (if r.sliding then t + (n - r.first) else t) = true :=
    (testBit_gained _).mpr (.inl ⟨r, hr, Replacement.testBit_targets hcovers ht⟩)
  apply isKept_of_gained
  rwa [toNat_of_gained htarget]

theorem isKept_of_mapChar {c d : Char} {cs : List Char} (h : mapChar c = some cs) (hd : d ∈ cs) :
    isKept d = true := by
  rw [mapChar] at h
  split at h
  · next hascii =>
    obtain rfl := Option.some.inj h
    rw [List.mem_singleton.mp hd]
    have hlower := testBit_toLower c.toNat hascii
    rw [Char.ofNat_toNat] at hlower
    exact isKept_of_gained ((testBit_gained _).mpr (.inr (.inl hlower)))
  · split at h
    · next r hr =>
      obtain rfl := Option.some.inj h
      have hcovers := List.find?_some hr
      exact isKept_apply (List.mem_of_find?_eq_some hr) hcovers hd
    · next hnone =>
      split at h
      · cases h
      · next hrefused =>
        obtain rfl := Option.some.inj h
        obtain rfl := List.mem_singleton.mp hd
        simp only [List.find?_eq_none] at hnone
        simpa [isKept, hrefused] using hnone

end Wayfare.Url.Idna
