import Wayfare.Proofs.Text.Span
import Wayfare.Proofs.Url.Authority
import Wayfare.Settings

/-!
Addresses made of a base and a path behind it. Slashes at the end of the base are dropped; controls and
spaces there are no part of the base, but a part of the address that goes on with a path.
-/
namespace Wayfare.Url

/-- Tabs and line breaks do not count in an address. -/
def counts (c : Char) : Bool :=
  c != '\t' && c != '\n' && c != '\r'

theorem counts_of_lt {c : Char} (h : 0x20 < c.toNat) : counts c = true := by
  simp only [counts, Bool.and_eq_true, bne_iff_ne]
  refine ⟨⟨?_, ?_⟩, ?_⟩ <;>
  · rintro rfl
    exact absurd h (by decide)

/-- The controls and spaces at the end of a text, without those that never count. -/
def endBlanks (cs : List Char) : List Char :=
  (cs.reverse.takeWhile (·.toNat ≤ 0x20)).reverse.filter counts

/-- A text without the slashes at its end. -/
def dropSlashes (cs : List Char) : List Char :=
  (cs.reverse.dropWhile (· == '/')).reverse

theorem toList_dropEndSlashes (s : String) : (dropEndSlashes s).toList = dropSlashes s.toList := by
  simp [dropEndSlashes, dropSlashes]

theorem clean_eq (cs : List Char) :
    clean cs = (Text.trimBy (·.toNat ≤ 0x20) cs).filter counts :=
  rfl

theorem allControl_endBlanks (cs : List Char) : AllControl (endBlanks cs) := by
  intro c hc
  have := List.mem_takeWhile_imp (List.mem_reverse.mp (List.mem_filter.mp hc).1)
  simpa using this

/-! ## The text of an address -/

theorem dropSlashes_append {cs slashes : List Char} (hslashes : ∀ c ∈ slashes, c = '/')
    (hcs : cs.getLast? ≠ some '/') : dropSlashes (cs ++ slashes) = cs := by
  have hall : ∀ c ∈ slashes.reverse, (c == '/') = true := fun c hc =>
    beq_iff_eq.mpr (hslashes c (List.mem_reverse.mp hc))
  rw [dropSlashes, List.reverse_append, List.dropWhile_append_of_pos hall]
  rcases List.eq_nil_or_concat cs with rfl | ⟨front, c, rfl⟩
  · rfl
  · have hc : (c == '/') = false := by simpa using hcs
    simp [hc]

theorem dropSlashes_of_getLast? {cs : List Char} (h : cs.getLast? ≠ some '/') :
    dropSlashes cs = cs := by
  simpa using dropSlashes_append (List.forall_mem_nil (· = '/')) h

theorem exists_slashes (cs : List Char) :
    ∃ front slashes, cs = front ++ slashes ∧ (∀ c ∈ slashes, c = '/') ∧
      front.getLast? ≠ some '/' := by
  refine ⟨(cs.reverse.dropWhile (· == '/')).reverse, (cs.reverse.takeWhile (· == '/')).reverse,
    ?_, ?_, ?_⟩
  · rw [← List.reverse_append, List.takeWhile_append_dropWhile, List.reverse_reverse]
  · intro c hc
    have := List.mem_takeWhile_imp (List.mem_reverse.mp hc)
    simpa using this
  · intro hlast
    have := Text.head?_dropWhile (· == '/') cs.reverse
    rw [List.getLast?_reverse] at hlast
    simp [hlast] at this

theorem clean_append {front cs path : List Char} (hfront : ∀ c ∈ front, c.toNat ≤ 0x20)
    (hcs : cs.head?.all fun c => !decide (c.toNat ≤ 0x20)) (hpath : path.head? = some '/') :
    clean (front ++ cs ++ path) = cs.filter counts ++ clean path := by
  obtain ⟨rest, rfl⟩ : ∃ rest, path = '/' :: rest := by
    cases path <;> simp_all
  rw [clean_eq, Text.trimBy_append_of_head (by simpa using hfront) hcs (by simp) (by simp),
    List.filter_append, clean_eq]

/-- A base, read on its own and read with a path behind it: what they share, the slashes that are
dropped, and the blanks that are kept. -/
theorem clean_extended {cs path : List Char} (hcs : clean cs ≠ [])
    (hpath : path.head? = some '/') :
    ∃ shared slashes, clean cs = shared ++ slashes ∧
      clean (dropSlashes cs ++ path) = shared ++ (endBlanks cs ++ clean path) ∧
      (∀ c ∈ slashes, c = '/') ∧ (slashes = [] ∨ endBlanks cs = []) := by
  have hne : Text.trimBy (·.toNat ≤ 0x20) cs ≠ [] := by
    rintro hnil
    exact hcs (by rw [clean_eq, hnil]; rfl)
  obtain ⟨front, hsplit, hfront, hhead⟩ := Text.exists_trimBy hne
  have hfront' : ∀ c ∈ front, c.toNat ≤ 0x20 := by simpa using hfront
  rw [clean_eq, endBlanks]
  generalize Text.trimBy (·.toNat ≤ 0x20) cs = kept at hsplit hhead hne ⊢
  have hblank : AllControl (cs.reverse.takeWhile (·.toNat ≤ 0x20)).reverse := by
    intro c hc
    simpa using List.mem_takeWhile_imp (List.mem_reverse.mp hc)
  generalize (cs.reverse.takeWhile (·.toNat ≤ 0x20)).reverse = blanks at hsplit hblank ⊢
  by_cases hnone : blanks = []
  · -- the slashes stand at the very end, and are dropped
    obtain ⟨init, slashes, rfl, hslashes, hinit⟩ := exists_slashes kept
    refine ⟨init.filter counts, slashes.filter counts, List.filter_append _ _, ?_, ?_, .inr ?_⟩
    · have hlast' : (front ++ init).getLast? ≠ some '/' := by
        rw [List.getLast?_append]
        intro h
        cases hl : init.getLast? with
        | some c => simp_all
        | none =>
          rw [hl, Option.none_or] at h
          exact absurd (hfront' _ (List.mem_of_getLast? h)) (by decide)
      have hhead' : init.head?.all fun c => !decide (c.toNat ≤ 0x20) := by
        cases init with
        | nil => rfl
        | cons c rest => simpa using hhead
      rw [hsplit, hnone, List.append_nil, ← List.append_assoc, dropSlashes_append hslashes hlast',
        clean_append hfront' hhead' hpath]
      rfl
    · exact fun c hc => hslashes c (List.mem_filter.mp hc).1
    · rw [hnone]
      rfl
  · -- blanks stand behind the slashes, if there are any
    refine ⟨kept.filter counts, [], (List.append_nil _).symm, ?_, by simp, .inl rfl⟩
    obtain ⟨c, rest, hcons⟩ := List.exists_cons_of_ne_nil hne
    have hhead' : (kept ++ blanks).head?.all fun c => !decide (c.toNat ≤ 0x20) := by
      rw [hcons] at hhead ⊢
      exact hhead
    have hlast' : (front ++ (kept ++ blanks)).getLast? ≠ some '/' := by
      obtain ⟨init, d, rfl, hd⟩ := hblank.exists_last hnone
      intro h
      have hd' : d = '/' := by simpa [List.getLast?_append] using h
      exact absurd (hd' ▸ hd) (by decide)
    rw [hsplit, dropSlashes_of_getLast? hlast', clean_append hfront' hhead' hpath,
      List.filter_append, List.append_assoc]

end Wayfare.Url
