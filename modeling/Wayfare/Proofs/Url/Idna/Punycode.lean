import Mathlib.Data.List.TakeWhile
import Mathlib.Tactic.Ring
import Wayfare.Url.Idna.Punycode

/-!
Coded labels read back. The reader keeps pace with the writer: what it has put together is the part of
the text that the writer has passed, and both agree on the gap to the next character.
-/
namespace Wayfare.Url.Idna.Punycode

/-! ## Gaps -/

theorem digitValue?_digit {d : Nat} (h : d < 36) : digitValue? (digit d) = some d := by
  have hall : ∀ d < 36, digitValue? (digit d) = some d := by decide
  exact hall d h

theorem digit_ne_hyphen {d : Nat} (h : d < 36) : digit d ≠ '-' := by
  have hall : ∀ d < 36, digit d ≠ '-' := by decide
  exact hall d h

theorem threshold_pos (k bias : Nat) : 1 ≤ threshold k bias := by
  unfold threshold
  split
  · exact Nat.le_refl 1
  · split <;> omega

theorem threshold_le (k bias : Nat) : threshold k bias ≤ 26 := by
  unfold threshold
  split
  · omega
  · split <;> omega

/-- The first digit of a gap that has another one behind it. -/
theorem first_digit_lt {q t : Nat} (ht : 1 ≤ t) (ht' : t ≤ 26) : t + (q - t) % (36 - t) < 36 := by
  have := Nat.mod_lt (q - t) (show 36 - t > 0 by omega)
  omega

theorem readGap_gapDigits (q k bias w i : Nat) (more : List Char) :
    readGap bias k w i (gapDigits q k bias ++ more) = some (i + q * w, more) := by
  fun_induction gapDigits q k bias generalizing w i with
  | case1 q k t h =>
    have hdigit : q < 36 := Nat.lt_trans h (Nat.lt_of_le_of_lt (threshold_le k bias) (by omega))
    rw [List.singleton_append, readGap, digitValue?_digit hdigit]
    exact if_pos h
  | case2 q k t h ht ih =>
    have ht' : t ≤ 26 := threshold_le k bias
    have hvalue : t + (q - t) % (36 - t) + (q - t) / (36 - t) * (36 - t) = q := by
      have := Nat.mod_add_div' (q - t) (36 - t)
      omega
    rw [List.cons_append, readGap, digitValue?_digit (first_digit_lt ht.2 ht')]
    simp only
    rw [if_neg (by omega), ih]
    congr 2
    calc i + (t + (q - t) % (36 - t)) * w + (q - t) / (36 - t) * (w * (36 - t))
        = i + (t + (q - t) % (36 - t) + (q - t) / (36 - t) * (36 - t)) * w := by ring
      _ = i + q * w := by rw [hvalue]
  | case3 q k t h ht =>
    have := threshold_pos k bias
    have := threshold_le k bias
    omega

theorem gapDigits_eq_cons (q k bias : Nat) : ∃ c more, gapDigits q k bias = c :: more := by
  fun_cases gapDigits q k bias with
  | case1 t h => exact ⟨_, _, rfl⟩
  | case2 t h ht => exact ⟨_, _, rfl⟩
  | case3 t h ht =>
    have hpos : 1 ≤ t := threshold_pos k bias
    have hle : t ≤ 26 := threshold_le k bias
    omega

theorem exists_digit_of_gapDigits {q k bias : Nat} {c : Char} (h : c ∈ gapDigits q k bias) :
    ∃ d < 36, c = digit d := by
  fun_induction gapDigits q k bias with
  | case1 q k t hlt =>
    have ht : t ≤ 26 := threshold_le k bias
    exact ⟨q, by omega, List.mem_singleton.mp h⟩
  | case2 q k t hlt ht ih =>
    rcases List.mem_cons.mp h with rfl | hmore
    · exact ⟨_, first_digit_lt ht.2 (threshold_le k bias), rfl⟩
    · exact ih hmore
  | case3 q k t hlt ht => cases h

/-! ## Points -/

theorem mem_insertPoint {n m : Nat} {points : List Nat} :
    m ∈ insertPoint n points ↔ m = n ∨ m ∈ points := by
  induction points with
  | nil => simp [insertPoint]
  | cons p rest ih =>
    unfold insertPoint
    split
    · simp
    · split
      · next h => simp [h]
      · simp only [List.mem_cons, ih]
        tauto

theorem pairwise_insertPoint {n : Nat} {points : List Nat} (h : points.Pairwise (· < ·)) :
    (insertPoint n points).Pairwise (· < ·) := by
  induction points with
  | nil => simp [insertPoint]
  | cons p rest ih =>
    obtain ⟨hp, hrest⟩ := List.pairwise_cons.mp h
    unfold insertPoint
    split
    · next hlt =>
      refine List.pairwise_cons.mpr ⟨fun m hm => ?_, h⟩
      rcases List.mem_cons.mp hm with rfl | hm
      · exact hlt
      · exact Nat.lt_trans hlt (hp m hm)
    · split
      · exact h
      · refine List.pairwise_cons.mpr ⟨fun m hm => ?_, ih hrest⟩
        rcases mem_insertPoint.mp hm with rfl | hm
        · omega
        · exact hp m hm

theorem mem_foldr_insertPoint {m : Nat} {text : List Nat} :
    m ∈ text.foldr insertPoint [] ↔ m ∈ text := by
  induction text with
  | nil => simp
  | cons n text ih => simp [mem_insertPoint, ih]

theorem pairwise_foldr_insertPoint (text : List Nat) :
    (text.foldr insertPoint []).Pairwise (· < ·) := by
  induction text with
  | nil => simp
  | cons n text ih => exact pairwise_insertPoint ih

/-! ## Reader and writer -/

/-- The reader stands at `n` and `i`, and its text `out` is what the writer has passed at the code point
`m`. The gap that the writer holds leads the reader to the place in its text where the next such
character belongs. -/
structure Tracks (basics m place : Nat) (s : State) (n i : Nat) (out : List Char) : Prop where
  le : n ≤ m
  written : s.written = out.length
  gap : i + s.delta = (m - n) * (out.length + 1) + place
  started : basics ≤ s.written
  first : (i == 0) = (s.written == basics)

theorem readPoints_gap {basics m place : Nat} {s : State} {n i steps : Nat} {out : List Char}
    {c : Char} (hc : c.toNat = m) (hplace : place ≤ out.length)
    (h : Tracks basics m place s n i out) (more : List Char) :
    readPoints (steps + 1) n i s.bias out (gapDigits s.delta 36 s.bias ++ more) =
      readPoints steps m (place + 1) (adapt s.delta (s.written + 1) (s.written == basics))
        (out.insertIdx place c) more := by
  obtain ⟨d, digits, hdigits⟩ := gapDigits_eq_cons s.delta 36 s.bias
  have hread := readGap_gapDigits s.delta 36 s.bias 1 i more
  have hdiv : (i + s.delta) / (out.length + 1) = m - n := by
    rw [h.gap, Nat.mul_comm, Nat.mul_add_div (by omega), Nat.div_eq_of_lt (by omega), Nat.add_zero]
  have hmod : (i + s.delta) % (out.length + 1) = place := by
    rw [h.gap, Nat.mul_comm, Nat.mul_add_mod, Nat.mod_eq_of_lt (by omega)]
  have hpoint : n + (m - n) = m := Nat.add_sub_cancel' h.le
  have hvalid : m.isValidChar := hc ▸ c.valid
  rw [hdigits, List.cons_append, Nat.mul_one] at hread
  rw [hdigits, List.cons_append, readPoints, hread]
  simp only [hdiv, hmod, hpoint, if_pos hvalid, Nat.add_sub_cancel_left, h.first, h.written]
  rw [← hc, Char.ofNat_toNat]

/-- Behind the whole text the writer goes on to the next code point. -/
theorem Tracks.next {basics m : Nat} {s : State} {n i : Nat} {out : List Char}
    (h : Tracks basics m out.length s n i out) :
    Tracks basics (m + 1) 0 { s with delta := s.delta + 1 } n i out := by
  refine ⟨Nat.le_add_right_of_le h.le, h.written, ?_, h.started, h.first⟩
  have hsplit : m + 1 - n = m - n + 1 := Nat.sub_add_comm h.le
  rw [hsplit, Nat.add_mul, Nat.one_mul]
  exact congrArg (· + 1) h.gap

/-- On the way to a later code point the writer adds the places that it leaves out to the gap. -/
theorem Tracks.reach {basics next m : Nat} {s : State} {n i : Nat} {out : List Char}
    (h : Tracks basics next 0 s n i out) (hle : next ≤ m) :
    Tracks basics m 0 { s with delta := s.delta + (m - next) * (s.written + 1) } n i out := by
  refine ⟨Nat.le_trans h.le hle, h.written, ?_, h.started, h.first⟩
  have hsplit : m - n = next - n + (m - next) := by
    have := h.le
    omega
  calc i + (s.delta + (m - next) * (s.written + 1))
      = i + s.delta + (m - next) * (s.written + 1) := (Nat.add_assoc _ _ _).symm
    _ = (next - n) * (out.length + 1) + (m - next) * (out.length + 1) := by
      rw [h.gap, h.written, Nat.add_zero]
    _ = (m - n) * (out.length + 1) + 0 := by simp [hsplit, Nat.add_mul]

/-- How many characters up to the code point `m` a text holds. -/
def countTo (m : Nat) (front : List Char) : Nat :=
  (front.filter (·.toNat ≤ m)).length

/-- What is written of a text when the writer looks for the code point `m` and stands between `front`
and `rest`: in `front` it has passed that code point already. -/
def passed (m : Nat) (front rest : List Char) : List Char :=
  front.filter (·.toNat ≤ m) ++ rest.filter (·.toNat < m)

theorem countTo_le (m : Nat) (front rest : List Char) :
    countTo m front ≤ (passed m front rest).length := by
  simp [countTo, passed]

theorem countTo_append (m : Nat) (front : List Char) (c : Char) :
    countTo m (front ++ [c]) = countTo m front + if c.toNat ≤ m then 1 else 0 := by
  by_cases h : c.toNat ≤ m <;> simp [countTo, h]

theorem passed_of_ne {m : Nat} {c : Char} (h : c.toNat ≠ m) (front rest : List Char) :
    passed m (front ++ [c]) rest = passed m front (c :: rest) := by
  rcases Nat.lt_or_gt_of_ne h with hlt | hgt
  · simp [passed, hlt, Nat.le_of_lt hlt]
  · simp [passed, Nat.not_le_of_gt hgt, Nat.not_lt_of_gt hgt]

theorem insertIdx_length (front rest : List Char) (c : Char) :
    (front ++ rest).insertIdx front.length c = front ++ c :: rest := by
  induction front with
  | nil => simp
  | cons d front ih => simpa using ih

theorem passed_of_eq {m : Nat} {c : Char} (h : c.toNat = m) (front rest : List Char) :
    passed m (front ++ [c]) rest = (passed m front (c :: rest)).insertIdx (countTo m front) c := by
  rw [passed, passed, countTo, List.filter_cons_of_neg (by simp [h]), insertIdx_length]
  simp [h]

section

variable {basics m : Nat} {c : Char} {s : State} {n i : Nat} {front rest : List Char}

/-- The place moves behind a character that is written already. -/
theorem Tracks.pass_lower (hlt : c.toNat < m)
    (h : Tracks basics m (countTo m front) s n i (passed m front (c :: rest))) :
    Tracks basics m (countTo m (front ++ [c])) { s with delta := s.delta + 1 } n i
      (passed m (front ++ [c]) rest) := by
  rw [passed_of_ne (Nat.ne_of_lt hlt)]
  refine ⟨h.le, h.written, ?_, h.started, h.first⟩
  rw [countTo_append, if_pos (Nat.le_of_lt hlt)]
  exact congrArg (· + 1) h.gap

/-- A character that comes later leaves the place where it is. -/
theorem Tracks.pass_higher (hgt : m < c.toNat)
    (h : Tracks basics m (countTo m front) s n i (passed m front (c :: rest))) :
    Tracks basics m (countTo m (front ++ [c])) s n i (passed m (front ++ [c]) rest) := by
  rw [passed_of_ne (Nat.ne_of_gt hgt), countTo_append, if_neg (Nat.not_le_of_gt hgt)]
  exact h

/-- Behind a gap the reader has the character, and stands behind it. -/
theorem Tracks.put (heq : c.toNat = m) (bias : Nat)
    (h : Tracks basics m (countTo m front) s n i (passed m front (c :: rest))) :
    Tracks basics m (countTo m (front ++ [c])) ⟨0, s.written + 1, bias⟩ m (countTo m front + 1)
      (passed m (front ++ [c]) rest) := by
  have hstarted := h.started
  refine ⟨Nat.le_refl m, ?_, ?_, Nat.le_add_right_of_le hstarted, ?_⟩
  · rw [passed_of_eq heq, List.length_insertIdx, if_pos (countTo_le m front _), h.written]
  · simp [countTo_append, heq]
  · rw [Bool.eq_iff_iff]
    simp only [beq_iff_eq]
    omega

theorem writePoint_lower {p : Nat} (hlt : p < m) (text : List Nat) :
    writePoint m basics (p :: text) s =
      writePoint m basics text { s with delta := s.delta + 1 } := by
  rw [writePoint, if_pos hlt]

theorem writePoint_higher {p : Nat} (hgt : m < p) (text : List Nat) :
    writePoint m basics (p :: text) s = writePoint m basics text s := by
  simp [writePoint, Nat.not_lt_of_gt hgt, Nat.ne_of_gt hgt]

theorem writePoint_self (text : List Nat) :
    writePoint m basics (m :: text) s =
      let bias := adapt s.delta (s.written + 1) (s.written == basics)
      let (chars, last) := writePoint m basics text ⟨0, s.written + 1, bias⟩
      (gapDigits s.delta 36 s.bias ++ chars, last) := by
  simp [writePoint]

end

theorem readPoints_writePoint {basics m : Nat} (front rest : List Char) {s : State}
    {n i steps : Nat} {more : List Char}
    (h : Tracks basics m (countTo m front) s n i (passed m front rest))
    (hsteps : ((writePoint m basics (rest.map Char.toNat) s).1 ++ more).length < steps) :
    let (chars, last) := writePoint m basics (rest.map Char.toNat) s
    ∃ n' i' steps', more.length < steps' ∧
      Tracks basics m (countTo m (front ++ rest)) last n' i' (passed m (front ++ rest) []) ∧
      readPoints steps n i s.bias (passed m front rest) (chars ++ more) =
        readPoints steps' n' i' last.bias (passed m (front ++ rest) []) more := by
  induction rest generalizing front s n i steps with
  | nil =>
    refine ⟨n, i, steps, ?_, ?_, ?_⟩
    · simpa [writePoint] using hsteps
    · simpa [writePoint] using h
    · simp
  | cons c rest ih =>
    rw [show front ++ c :: rest = front ++ [c] ++ rest by simp]
    rw [List.map_cons] at hsteps ⊢
    rcases Nat.lt_trichotomy c.toNat m with hlt | heq | hgt
    · rw [writePoint_lower hlt] at hsteps ⊢
      rw [← passed_of_ne (Nat.ne_of_lt hlt)]
      exact ih (front ++ [c]) (h.pass_lower hlt) hsteps
    · -- the writer writes the gap, and the reader puts the character in its place
      obtain ⟨d, digits, hdigits⟩ := gapDigits_eq_cons s.delta 36 s.bias
      rw [heq, writePoint_self] at hsteps ⊢
      obtain ⟨steps, rfl⟩ : ∃ k, steps = k + 1 := Nat.exists_eq_add_one.mpr (by omega)
      let bias := adapt s.delta (s.written + 1) (s.written == basics)
      have hlength : ((writePoint m basics (rest.map Char.toNat) ⟨0, s.written + 1, bias⟩).1 ++
          more).length < steps := by
        simp only [hdigits, List.length_append, List.length_cons, bias] at hsteps ⊢
        omega
      obtain ⟨n', i', steps', hmore, hlast, hread⟩ := ih (front ++ [c]) (h.put heq bias) hlength
      refine ⟨n', i', steps', hmore, hlast, ?_⟩
      rw [List.append_assoc, readPoints_gap heq (countTo_le m front _) h, ← passed_of_eq heq]
      exact hread
    · rw [writePoint_higher hgt] at hsteps ⊢
      rw [← passed_of_ne (Nat.ne_of_gt hgt)]
      exact ih (front ++ [c]) (h.pass_higher hgt) hsteps

/-- The code points of a text from `next` on, ascending. -/
structure Ahead (cs : List Char) (next : Nat) (points : List Nat) : Prop where
  sorted : points.Pairwise (· < ·)
  mem_iff : ∀ m, m ∈ points ↔ next ≤ m ∧ ∃ c ∈ cs, c.toNat = m

namespace Ahead

variable {cs : List Char} {next m : Nat} {points : List Nat}

theorem filter_nil (h : Ahead cs next []) : cs.filter (·.toNat < next) = cs := by
  rw [List.filter_eq_self]
  intro c hc
  have hnone := (h.mem_iff c.toNat).not.mp List.not_mem_nil
  rw [decide_eq_true_eq]
  exact Nat.lt_of_not_le fun hle => hnone ⟨hle, c, hc, rfl⟩

theorem le_head (h : Ahead cs next (m :: points)) : next ≤ m :=
  ((h.mem_iff m).mp List.mem_cons_self).1

/-- No character of the text has a code point between `next` and the first one ahead. -/
theorem filter_cons (h : Ahead cs next (m :: points)) :
    cs.filter (·.toNat < m) = cs.filter (·.toNat < next) := by
  have hle := h.le_head
  refine List.filter_congr fun c hc => ?_
  have hfirst : next ≤ c.toNat → m ≤ c.toNat := by
    intro hnext
    rcases List.mem_cons.mp ((h.mem_iff c.toNat).mpr ⟨hnext, c, hc, rfl⟩) with heq | hin
    · exact Nat.le_of_eq heq.symm
    · exact Nat.le_of_lt ((List.pairwise_cons.mp h.sorted).1 _ hin)
  rw [decide_eq_decide]
  omega

theorem tail (h : Ahead cs next (m :: points)) : Ahead cs (m + 1) points := by
  obtain ⟨hm, hsorted⟩ := List.pairwise_cons.mp h.sorted
  refine ⟨hsorted, fun m' => ⟨fun hin => ?_, ?_⟩⟩
  · exact ⟨hm m' hin, ((h.mem_iff m').mp (List.mem_cons_of_mem m hin)).2⟩
  · rintro ⟨hlt, hin⟩
    have hcons := (h.mem_iff m').mpr ⟨Nat.le_trans h.le_head (Nat.le_of_succ_le hlt), hin⟩
    exact (List.mem_cons.mp hcons).resolve_left (Nat.ne_of_gt hlt)

end Ahead

theorem readPoints_writePoints {cs : List Char} {basics next : Nat} {points : List Nat} {s : State}
    {n i steps : Nat} (hpoints : Ahead cs next points)
    (h : Tracks basics next 0 s n i (cs.filter (·.toNat < next)))
    (hsteps : (writePoints (cs.map Char.toNat) basics next points s).length < steps) :
    readPoints steps n i s.bias (cs.filter (·.toNat < next))
      (writePoints (cs.map Char.toNat) basics next points s) = some cs := by
  induction points generalizing next s n i steps with
  | nil =>
    obtain ⟨steps, rfl⟩ : ∃ k, steps = k + 1 := Nat.exists_eq_add_one.mpr (by omega)
    rw [writePoints, readPoints, hpoints.filter_nil]
  | cons m rest ih =>
    have hupto : passed m ([] ++ cs) [] = cs.filter (·.toNat < m + 1) := by
      simp only [passed, List.nil_append, List.filter_nil, List.append_nil, Nat.lt_add_one_iff]
    have hcount : countTo m ([] ++ cs) = (cs.filter (·.toNat < m + 1)).length := by
      simp only [countTo, List.nil_append, Nat.lt_add_one_iff]
    have hstart := h.reach hpoints.le_head
    rw [← hpoints.filter_cons] at hstart ⊢
    rw [writePoints] at hsteps ⊢
    obtain ⟨n', i', steps', hmore, hlast, hread⟩ := readPoints_writePoint [] cs hstart hsteps
    rw [hupto] at hlast hread
    rw [hcount] at hlast
    exact hread.trans (ih hpoints.tail hlast.next hmore)

theorem exists_digit_of_writePoint {m basics : Nat} {text : List Nat} {s : State} {c : Char}
    (h : c ∈ (writePoint m basics text s).1) : ∃ d < 36, c = digit d := by
  induction text generalizing s with
  | nil => cases h
  | cons p text ih =>
    rw [writePoint] at h
    split at h
    · exact ih h
    · split at h
      · rcases List.mem_append.mp h with hgap | hmore
        · exact exists_digit_of_gapDigits hgap
        · exact ih hmore
      · exact ih h

theorem exists_digit_of_writePoints {text : List Nat} {basics n : Nat} {points : List Nat}
    {s : State} {c : Char} (h : c ∈ writePoints text basics n points s) : ∃ d < 36, c = digit d := by
  induction points generalizing n s with
  | nil => cases h
  | cons m rest ih =>
    rw [writePoints] at h
    rcases List.mem_append.mp h with hpoint | hmore
    · exact exists_digit_of_writePoint hpoint
    · exact ih hmore

/-- A coded text holds the ASCII characters of the text, digits, and a hyphen between them. -/
theorem mem_encode {cs : List Char} {c : Char} (h : c ∈ encode cs) :
    c ∈ cs ∧ c.toNat < 0x80 ∨ c = '-' ∨ ∃ d < 36, c = digit d := by
  rw [encode] at h
  rcases List.mem_append.mp h with hfront | hpoints
  · split at hfront
    · cases hfront
    · rcases List.mem_append.mp hfront with hbasic | hhyphen
      · exact .inl (by simpa using hbasic)
      · exact .inr (.inl (List.mem_singleton.mp hhyphen))
  · exact .inr (.inr (exists_digit_of_writePoints hpoints))

/-- The part in front of the last hyphen, if there is one, and the part behind it. -/
theorem decode_append {front tail : List Char} (h : '-' ∉ tail) :
    let cs := (if front.isEmpty then [] else front ++ ['-']) ++ tail
    decode cs = readPoints (cs.length + 1) 0x80 0 72 front tail := by
  have hall : ∀ c ∈ tail.reverse, (c != '-') = true := by
    intro c hc
    have hne : c ≠ '-' := by
      rintro rfl
      exact h (List.mem_reverse.mp hc)
    simpa using hne
  cases hfront : front with
  | nil =>
    have htail : tail.reverse.takeWhile (· != '-') = tail.reverse :=
      List.takeWhile_eq_self_iff.mpr hall
    simp [decode, htail]
  | cons c rest =>
    have hhyphen : ('-' != '-') = false := by decide
    have htail : ((c :: rest ++ ['-'] ++ tail).reverse.takeWhile (· != '-')).reverse = tail := by
      rw [List.reverse_append, List.takeWhile_append_of_pos hall]
      simp
    have htake : (c :: rest ++ ['-'] ++ tail).take
        ((c :: rest ++ ['-'] ++ tail).length - tail.length - 1) = c :: rest := by
      have hlength : (c :: rest ++ ['-'] ++ tail).length - tail.length - 1 = (c :: rest).length := by
        simp only [List.length_append, List.length_singleton]
        omega
      rw [hlength, List.append_assoc, List.take_left]
    simp only [decode, List.isEmpty_cons, Bool.false_eq_true, if_false, htail, htake]

theorem decode_encode (cs : List Char) : decode (encode cs) = some cs := by
  let basics := cs.filter (·.toNat < 0x80)
  have hpoints : Ahead cs 0x80 (((cs.map Char.toNat).filter (0x80 ≤ ·)).foldr insertPoint []) := by
    refine ⟨pairwise_foldr_insertPoint _, fun m => ?_⟩
    rw [mem_foldr_insertPoint, List.mem_filter, List.mem_map, decide_eq_true_eq]
    exact and_comm
  have hstart : Tracks basics.length 0x80 0 ⟨0, basics.length, 72⟩ 0x80 0 basics :=
    ⟨Nat.le_refl _, rfl, by simp, Nat.le_refl _, by simp⟩
  rw [encode, decode_append fun h => ?_]
  · apply readPoints_writePoints hpoints hstart
    rw [List.length_append]
    exact Nat.lt_add_one_of_le (Nat.le_add_left _ _)
  · obtain ⟨d, hd, hdigit⟩ := exists_digit_of_writePoints h
    exact digit_ne_hyphen hd hdigit.symm

end Wayfare.Url.Idna.Punycode
