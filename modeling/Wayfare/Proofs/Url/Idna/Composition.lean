import Wayfare.Proofs.Text.Cut
import Wayfare.Proofs.Url.Host
import Wayfare.Proofs.Url.Idna.Parts

/-!
Composed texts stay as they are when they are composed again. Taking a composed text apart gives the
same characters as taking the text itself apart, with their marks in the same order.
-/
namespace Wayfare.Url.Idna

/-! ## The order of marks -/

/-- Texts that are the same, once their marks are in order, whatever stands around them. -/
def Alike (cs ds : List Char) : Prop :=
  ∀ marks rest, orderMarks marks (cs ++ rest) = orderMarks marks (ds ++ rest)

namespace Alike

variable {cs ds es : List Char}

theorem refl (cs : List Char) : Alike cs cs :=
  fun _ _ => rfl

theorem trans (h : Alike cs ds) (h' : Alike ds es) : Alike cs es :=
  fun marks rest => (h marks rest).trans (h' marks rest)

theorem append_right (h : Alike cs ds) (more : List Char) : Alike (cs ++ more) (ds ++ more) := by
  intro marks rest
  rw [List.append_assoc, List.append_assoc]
  exact h marks (more ++ rest)

theorem cons (c : Char) (h : Alike cs ds) : Alike (c :: cs) (c :: ds) := by
  intro marks rest
  simp only [List.cons_append, orderMarks]
  rw [h, h]

theorem append_left (front : List Char) (h : Alike cs ds) : Alike (front ++ cs) (front ++ ds) := by
  induction front with
  | nil => exact h
  | cons c front ih => exact ih.cons c

theorem orderMarks_eq (h : Alike cs ds) : orderMarks [] cs = orderMarks [] ds := by
  simpa using h [] []

end Alike

theorem insertMark_comm {j k : Nat} (h : j ≠ k) (c d : Char) (marks : List (Char × Nat)) :
    insertMark c j (insertMark d k marks) = insertMark d k (insertMark c j marks) := by
  induction marks with
  | nil =>
    simp only [insertMark]
    split <;> split <;> first | rfl | omega
  | cons mark marks ih =>
    obtain ⟨e, l⟩ := mark
    by_cases hj : j < l
    · by_cases hk : k < l
      · simp only [insertMark, hj, hk, if_true]
        split <;> split <;> simp_all <;> omega
      · have hjk : j < k := by omega
        simp only [insertMark, hj, hk, if_true, if_false]
        rw [if_neg (by omega)]
    · by_cases hk : k < l
      · simp only [insertMark, hj, hk, if_true, if_false]
        rw [if_neg (by omega)]
      · simp only [insertMark, hj, hk, if_false, ih]

/-- Two marks of different classes may change places. -/
theorem alike_swap {c d : Char} (hd : markClass d ≠ 0) (hlt : markClass d < markClass c) :
    Alike [c, d] [d, c] := by
  intro marks rest
  have hc : markClass c ≠ 0 := Nat.ne_zero_of_lt hlt
  simp only [List.cons_append, List.nil_append, orderMarks, beq_iff_eq, hc, hd, if_false]
  rw [insertMark_comm (Nat.ne_of_lt hlt)]

/-- A mark may go before marks of lower classes. -/
theorem alike_move {c : Char} {marks : List Char}
    (h : ∀ d ∈ marks, markClass d ≠ 0 ∧ markClass d < markClass c) :
    Alike (c :: marks) (marks ++ [c]) := by
  induction marks with
  | nil => exact Alike.refl [c]
  | cons d marks ih =>
    obtain ⟨hd, hlt⟩ := h d List.mem_cons_self
    have hswap : Alike (c :: d :: marks) (d :: c :: marks) := (alike_swap hd hlt).append_right marks
    exact hswap.trans ((ih fun e he => h e (List.mem_cons_of_mem _ he)).cons d)

/-! ## Texts in order -/

/-- Each character stands with its class. -/
def Labelled (s : List (Char × Nat)) : Prop :=
  ∀ x ∈ s, x.2 = markClass x.1

/-- Between two other characters the classes of the marks do not fall. -/
def Rising (s : List (Char × Nat)) : Prop :=
  s.IsChain fun x y => y.2 = 0 ∨ x.2 ≤ y.2

/-- Marks in their order. -/
structure Marks (marks : List (Char × Nat)) : Prop where
  labelled : Labelled marks
  nonzero : ∀ x ∈ marks, x.2 ≠ 0
  sorted : marks.Pairwise fun x y => x.2 ≤ y.2

theorem Marks.nil : Marks [] :=
  ⟨by simp [Labelled], by simp, List.Pairwise.nil⟩

theorem Marks.rising {marks : List (Char × Nat)} (h : Marks marks) : Rising marks :=
  h.sorted.isChain.imp fun _ _ hle => .inr hle

section

variable {c : Char} {k : Nat} {marks s : List (Char × Nat)}

theorem mem_insertMark {x : Char × Nat} :
    x ∈ insertMark c k marks ↔ x = (c, k) ∨ x ∈ marks := by
  induction marks with
  | nil => simp [insertMark]
  | cons mark marks ih =>
    rw [insertMark]
    split
    · simp
    · rw [List.mem_cons, List.mem_cons, ih, or_left_comm]

theorem pairwise_insertMark (h : marks.Pairwise fun x y => x.2 ≤ y.2) :
    (insertMark c k marks).Pairwise fun x y => x.2 ≤ y.2 := by
  induction marks with
  | nil => simp [insertMark]
  | cons mark marks ih =>
    obtain ⟨hmark, hmarks⟩ := List.pairwise_cons.mp h
    rw [insertMark]
    split
    · next hlt =>
      refine List.pairwise_cons.mpr ⟨?_, h⟩
      intro x hx
      rcases List.mem_cons.mp hx with rfl | hin
      · exact Nat.le_of_lt hlt
      · exact Nat.le_trans (Nat.le_of_lt hlt) (hmark x hin)
    · next hge =>
      refine List.pairwise_cons.mpr ⟨?_, ih hmarks⟩
      intro x hx
      rcases mem_insertMark.mp hx with rfl | hin
      · exact Nat.not_lt.mp hge
      · exact hmark x hin

theorem Marks.insertMark (h : Marks marks) (hk : k = markClass c) (hzero : k ≠ 0) :
    Marks (insertMark c k marks) := by
  refine ⟨?_, ?_, pairwise_insertMark h.sorted⟩
  · intro x hx
    rcases mem_insertMark.mp hx with rfl | hin
    · exact hk
    · exact h.labelled x hin
  · intro x hx
    rcases mem_insertMark.mp hx with rfl | hin
    · exact hzero
    · exact h.nonzero x hin

theorem insertMark_of_le (h : ∀ x ∈ marks, x.2 ≤ k) :
    insertMark c k marks = marks ++ [(c, k)] := by
  induction marks with
  | nil => rfl
  | cons mark marks ih =>
    have hle : ¬ k < mark.2 := Nat.not_lt.mpr (h mark List.mem_cons_self)
    rw [insertMark, if_neg hle, ih fun x hx => h x (List.mem_cons_of_mem _ hx)]
    rfl

/-- Marks before another mark are of its class or of lower classes. -/
theorem Rising.le_of_mem (h : Rising (marks ++ (c, k) :: s)) (hmarks : ∀ x ∈ marks, x.2 ≠ 0)
    (hzero : k ≠ 0) : ∀ x ∈ marks, x.2 ≤ k := by
  induction marks with
  | nil => simp
  | cons mark marks ih =>
    have hrest : ∀ x ∈ marks, x.2 ≤ k :=
      ih h.tail fun x hx => hmarks x (List.mem_cons_of_mem _ hx)
    have hmark : mark.2 ≤ k := by
      cases marks with
      | nil =>
        exact (List.isChain_cons_cons.mp h).1.resolve_left hzero
      | cons next marks =>
        have hnext : next.2 ≠ 0 := hmarks next (by simp)
        exact Nat.le_trans ((List.isChain_cons_cons.mp h).1.resolve_left hnext)
          (hrest next List.mem_cons_self)
    intro x hx
    rcases List.mem_cons.mp hx with rfl | hin
    · exact hmark
    · exact hrest x hin

/-- A mark of a higher class than those before it may be taken out. -/
theorem Rising.erase (h : Rising (marks ++ (c, k) :: s)) (hlt : ∀ x ∈ marks, x.2 < k) :
    Rising (marks ++ s) := by
  obtain ⟨hmarks, hs, hjoint⟩ := List.isChain_append.mp h
  refine List.isChain_append.mpr ⟨hmarks, hs.tail, ?_⟩
  intro x hx y hy
  cases s with
  | nil => cases hy
  | cons y' s =>
    obtain rfl : y' = y := Option.some.inj hy
    rcases (List.isChain_cons_cons.mp hs).1 with hzero | hle
    · exact .inl hzero
    · exact .inr (Nat.le_trans (Nat.le_of_lt (hlt x (List.mem_of_getLast? hx))) hle)

/-- What is in order comes into no other order. -/
theorem orderMarks_of_rising (hs : Labelled s) (h : Rising (marks ++ s))
    (hmarks : ∀ x ∈ marks, x.2 ≠ 0) : orderMarks marks (s.map (·.1)) = marks ++ s := by
  induction s generalizing marks with
  | nil => simp [orderMarks]
  | cons x s ih =>
    obtain ⟨c, k⟩ := x
    obtain rfl : k = markClass c := hs _ List.mem_cons_self
    have hs' : Labelled s := fun x hx => hs x (List.mem_cons_of_mem _ hx)
    simp only [List.map_cons, orderMarks]
    split
    · next hzero =>
      rw [beq_iff_eq] at hzero
      have hrest : Rising ([] ++ s) := (List.isChain_append.mp h).2.1.tail
      rw [ih hs' hrest (by simp), hzero]
      rfl
    · next hzero =>
      rw [beq_iff_eq] at hzero
      rw [insertMark_of_le (h.le_of_mem hmarks hzero), ih hs' (by simpa using h), List.append_assoc]
      · rfl
      · intro x hx
        rcases List.mem_append.mp hx with hin | hlast
        · exact hmarks x hin
        · rw [List.mem_singleton.mp hlast]
          exact hzero

theorem mem_orderMarks {cs : List Char} {x : Char × Nat} (h : x ∈ orderMarks marks cs) :
    x ∈ marks ∨ x.1 ∈ cs := by
  induction cs generalizing marks with
  | nil => exact .inl h
  | cons c cs ih =>
    simp only [orderMarks] at h
    split at h
    · rcases List.mem_append.mp h with hin | hin
      · exact .inl hin
      · rcases List.mem_cons.mp hin with rfl | hrest
        · exact .inr List.mem_cons_self
        · rcases ih hrest with hnone | hin
          · cases hnone
          · exact .inr (List.mem_cons_of_mem _ hin)
    · rcases ih h with hin | hin
      · rcases mem_insertMark.mp hin with rfl | hin
        · exact .inr List.mem_cons_self
        · exact .inl hin
      · exact .inr (List.mem_cons_of_mem _ hin)

theorem orderMarks_spec (cs : List Char) (hmarks : Marks marks) :
    Labelled (orderMarks marks cs) ∧ Rising (orderMarks marks cs) := by
  induction cs generalizing marks with
  | nil => exact ⟨hmarks.labelled, hmarks.rising⟩
  | cons c cs ih =>
    simp only [orderMarks]
    split
    · next hzero =>
      obtain ⟨hlabelled, hrising⟩ := ih Marks.nil
      constructor
      · refine List.forall_mem_append.mpr ⟨hmarks.labelled, List.forall_mem_cons.mpr ⟨?_, hlabelled⟩⟩
        exact (beq_iff_eq.mp hzero).symm
      · refine List.isChain_append.mpr ⟨hmarks.rising, ?_, ?_⟩
        · exact hrising.cons fun y hy => .inr (Nat.zero_le _)
        · intro x hx y hy
          exact .inl (by rw [← Option.some.inj hy])
    · next hzero =>
      exact ih (hmarks.insertMark rfl (by simpa using hzero))

end

/-! ## Putting characters together -/

theorem flatMap_parts {cs : List Char} (h : ∀ c ∈ cs, Whole c) : cs.flatMap parts = cs := by
  induction cs with
  | nil => rfl
  | cons c cs ih =>
    rw [List.flatMap_cons, parts_whole (h c List.mem_cons_self),
      ih fun d hd => h d (List.mem_cons_of_mem _ hd)]
    rfl

/-- What is put together: marks that stayed behind, and a text in order. -/
structure Pending (kept s : List (Char × Nat)) : Prop where
  marks : Marks kept.reverse
  labelled : Labelled s
  rising : Rising (kept.reverse ++ s)
  whole : ∀ c ∈ (kept.reverse ++ s).map (·.1), Whole c

namespace Pending

variable {c : Char} {k : Nat} {kept rest : List (Char × Nat)}

theorem whole_head (h : Pending kept ((c, k) :: rest)) : Whole c :=
  h.whole c (by simp)

theorem whole_kept {s : List (Char × Nat)} (h : Pending kept s) :
    ∀ c ∈ kept.reverse.map (·.1), Whole c := by
  intro c hc
  refine h.whole c ?_
  rw [List.map_append]
  exact List.mem_append_left _ hc

/-- A character that is no mark begins anew. -/
theorem next (h : Pending kept ((c, k) :: rest)) : Pending [] rest := by
  refine ⟨Marks.nil, fun x hx => h.labelled x (List.mem_cons_of_mem _ hx), ?_, ?_⟩
  · exact (List.isChain_append.mp h.rising).2.1.tail
  · intro d hd
    refine h.whole d ?_
    rw [List.map_append, List.map_cons]
    exact List.mem_append_right _ (List.mem_cons_of_mem _ hd)

theorem keep (h : Pending kept ((c, k) :: rest)) (hzero : k ≠ 0) :
    Pending ((c, k) :: kept) rest := by
  have hmove : ((c, k) :: kept).reverse ++ rest = kept.reverse ++ (c, k) :: rest := by simp
  refine ⟨?_, fun x hx => h.labelled x (List.mem_cons_of_mem _ hx), ?_, ?_⟩
  · rw [List.reverse_cons]
    refine ⟨?_, ?_, ?_⟩
    · exact List.forall_mem_append.mpr ⟨h.marks.labelled,
        List.forall_mem_singleton.mpr (h.labelled _ List.mem_cons_self)⟩
    · exact List.forall_mem_append.mpr ⟨h.marks.nonzero, List.forall_mem_singleton.mpr hzero⟩
    · refine List.pairwise_append.mpr ⟨h.marks.sorted, List.pairwise_singleton _ _, ?_⟩
      intro x hx y hy
      rw [List.mem_singleton.mp hy]
      exact h.rising.le_of_mem h.marks.nonzero hzero x hx
  · rw [hmove]
    exact h.rising
  · rw [hmove]
    exact h.whole

theorem join (h : Pending kept ((c, k) :: rest)) (hlt : ∀ x ∈ kept, x.2 < k) :
    Pending kept rest := by
  refine ⟨h.marks, fun x hx => h.labelled x (List.mem_cons_of_mem _ hx), ?_, ?_⟩
  · exact h.rising.erase fun x hx => hlt x (List.mem_reverse.mp hx)
  · intro d hd
    refine h.whole d ?_
    rw [List.map_append, List.mem_append] at hd
    rw [List.map_append, List.map_cons, List.mem_append]
    exact hd.imp_right (List.mem_cons_of_mem _)

/-- Where the last mark does not block a character, all marks are of lower classes. -/
theorem lt_of_not_blocked (hblocked : (match kept with
      | [] => false
      | (_, j) :: _ => j == 0 || decide (k ≤ j)) = false)
    (h : Pending kept ((c, k) :: rest)) : ∀ x ∈ kept, x.2 < k := by
  cases kept with
  | nil => simp
  | cons mark kept =>
    simp only [Bool.or_eq_false_iff, decide_eq_false_iff_not, Nat.not_le] at hblocked
    have hsorted := h.marks.sorted
    rw [List.reverse_cons, List.pairwise_append] at hsorted
    intro x hx
    rcases List.mem_cons.mp hx with rfl | hin
    · exact hblocked.2
    · have hle : x.2 ≤ mark.2 :=
        hsorted.2.2 x (List.mem_reverse.mpr hin) mark (List.mem_singleton_self mark)
      exact Nat.lt_of_le_of_lt hle hblocked.2

/-- Such a character may stand before the marks. -/
theorem alike (h : Pending kept ((c, k) :: rest)) (hlt : ∀ x ∈ kept, x.2 < k) :
    Alike (c :: (kept.reverse ++ rest).map (·.1)) ((kept.reverse ++ (c, k) :: rest).map (·.1)) := by
  have hk : k = markClass c := h.labelled _ List.mem_cons_self
  have hmove : Alike (c :: kept.reverse.map (·.1)) (kept.reverse.map (·.1) ++ [c]) := by
    apply alike_move
    intro d hd
    obtain ⟨x, hx, rfl⟩ := List.mem_map.mp hd
    rw [← h.marks.labelled x hx, ← hk]
    exact ⟨h.marks.nonzero x hx, hlt x (List.mem_reverse.mp hx)⟩
  simpa using hmove.append_right (rest.map (·.1))

end Pending

/-- A text of whole characters, put together and taken apart again, has its marks in the same order. -/
theorem alike_compose (base : Option Char) (kept s : List (Char × Nat)) (h : Pending kept s) :
    Alike ((compose base kept s).flatMap parts)
      (base.toList.flatMap parts ++ (kept.reverse ++ s).map (·.1)) := by
  fun_induction compose base kept s with
  | case1 base kept =>
    rw [List.append_nil, List.flatMap_append, ← List.map_reverse, flatMap_parts h.whole_kept]
    exact Alike.refl _
  | case2 kept c k rest hk ih =>
    rw [List.flatMap_append, ← List.map_reverse, flatMap_parts h.whole_kept]
    have hnext := (ih h.next).append_left (kept.reverse.map (·.1))
    simpa [parts_whole h.whole_head] using hnext
  | case3 kept c k rest hk ih =>
    simpa using ih (h.keep (by simpa using hk))
  | case4 base kept c k rest blocked joined hjoined ih =>
    obtain ⟨hblocked, hpair⟩ := Option.ite_none_left_eq_some.mp hjoined
    have hlt := h.lt_of_not_blocked (Bool.eq_false_iff.mpr hblocked)
    have hjoin := ih (h.join hlt)
    have hmove := (h.alike hlt).append_left (parts base)
    rw [Option.toList_some, List.flatMap_singleton, parts_composePair hpair, List.append_assoc] at hjoin
    rw [Option.toList_some, List.flatMap_singleton]
    exact hjoin.trans hmove
  | case5 base kept c k rest blocked hjoined hk ih =>
    rw [List.flatMap_cons, List.flatMap_append, ← List.map_reverse, flatMap_parts h.whole_kept]
    have hnext := (ih h.next).append_left (parts base ++ kept.reverse.map (·.1))
    simpa [parts_whole h.whole_head] using hnext
  | case6 base kept c k rest blocked hjoined hk ih =>
    simpa using ih (h.keep (by simpa using hk))

theorem composed_eq (cs : List Char) :
    composed cs = compose none [] (orderMarks [] (cs.flatMap parts)) := rfl

theorem mem_parts_of_mem_orderMarks {cs : List Char} {d : Char}
    (h : d ∈ (orderMarks [] (cs.flatMap parts)).map (·.1)) : ∃ c ∈ cs, d ∈ parts c := by
  obtain ⟨x, hx, rfl⟩ := List.mem_map.mp h
  rcases mem_orderMarks hx with hnone | hin
  · cases hnone
  · exact List.mem_flatMap.mp hin

theorem pending_of_parts (cs : List Char) : Pending [] (orderMarks [] (cs.flatMap parts)) := by
  obtain ⟨hlabelled, hrising⟩ := orderMarks_spec (cs.flatMap parts) Marks.nil
  refine ⟨Marks.nil, hlabelled, hrising, fun d hd => ?_⟩
  obtain ⟨c, -, hc⟩ := mem_parts_of_mem_orderMarks hd
  exact whole_of_mem_parts hc

/-- A composed text is its own composed form. -/
theorem composed_composed (cs : List Char) : composed (composed cs) = composed cs := by
  let s := orderMarks [] (cs.flatMap parts)
  have hpending : Pending [] s := pending_of_parts cs
  have hsame : orderMarks [] ((composed cs).flatMap parts) = s :=
    calc orderMarks [] ((composed cs).flatMap parts)
        = orderMarks [] (s.map (·.1)) := (alike_compose none [] s hpending).orderMarks_eq
      _ = s := orderMarks_of_rising hpending.labelled hpending.rising (by simp)
  rw [composed_eq (composed cs), hsame]
  rfl

/-! ## What a composed text is made of -/

variable {base : Option Char} {kept s : List (Char × Nat)}

theorem forall_mem_compose {p : Char → Prop} (hpair : ∀ a b c, composePair a b = some c → p c)
    (hbase : ∀ d ∈ base, p d) (hkept : ∀ x ∈ kept, p x.1) (hs : ∀ x ∈ s, p x.1) :
    ∀ d ∈ compose base kept s, p d := by
  fun_induction compose base kept s with
  | case1 base kept =>
    intro d hd
    simp only [List.mem_append, Option.mem_toList, List.mem_reverse, List.mem_map] at hd
    rcases hd with hin | ⟨x, hx, rfl⟩
    · exact hbase d hin
    · exact hkept x hx
  | case2 kept c k rest hk ih =>
    obtain ⟨hc, hrest⟩ := List.forall_mem_cons.mp hs
    intro d hd
    simp only [List.mem_append, List.mem_reverse, List.mem_map] at hd
    rcases hd with ⟨x, hx, rfl⟩ | hin
    · exact hkept x hx
    · exact ih (by simpa using hc) (by simp) hrest d hin
  | case3 kept c k rest hk ih =>
    obtain ⟨hc, hrest⟩ := List.forall_mem_cons.mp hs
    exact ih hbase (List.forall_mem_cons.mpr ⟨hc, hkept⟩) hrest
  | case4 base kept c k rest blocked joined hjoined ih =>
    have hin : p joined := hpair base c joined (Option.ite_none_left_eq_some.mp hjoined).2
    exact ih (by simpa using hin) hkept (List.forall_mem_cons.mp hs).2
  | case5 base kept c k rest blocked hjoined hk ih =>
    obtain ⟨hc, hrest⟩ := List.forall_mem_cons.mp hs
    intro d hd
    simp only [List.mem_cons, List.mem_append, List.mem_reverse, List.mem_map] at hd
    rcases hd with rfl | ⟨x, hx, rfl⟩ | hin
    · exact hbase d rfl
    · exact hkept x hx
    · exact ih (by simpa using hc) (by simp) hrest d hin
  | case6 base kept c k rest blocked hjoined hk ih =>
    obtain ⟨hc, hrest⟩ := List.forall_mem_cons.mp hs
    exact ih hbase (List.forall_mem_cons.mpr ⟨hc, hkept⟩) hrest

/-- The characters of a composed text are its own, or gained. -/
theorem mem_composed {cs : List Char} {d : Char} (h : d ∈ composed cs) :
    composedSet.testBit d.toNat = true ∨ d ∈ cs := by
  refine forall_mem_compose (p := fun d => composedSet.testBit d.toNat = true ∨ d ∈ cs)
    (fun a b c hc => .inl (composed_of_composePair hc)) (by simp) (by simp) (fun x hx => ?_) d h
  obtain ⟨c, hc, hin⟩ := mem_parts_of_mem_orderMarks (List.mem_map_of_mem hx)
  rcases mem_decompose hin with hgained | heq
  · exact .inl hgained
  · exact .inr (heq ▸ hc)

/-! ## Points -/

/-- Behind a point a text is put together as if nothing were in front. -/
theorem compose_point : compose (some '.') kept s = '.' :: compose none kept s := by
  induction s generalizing kept with
  | nil => rfl
  | cons x s ih =>
    obtain ⟨c, k⟩ := x
    simp only [compose, composePair_point, ite_self]
    split
    · rfl
    · exact ih

/-- Around a point, texts are composed by themselves. -/
theorem composed_append_point (cs ds : List Char) :
    composed (cs ++ '.' :: ds) = composed cs ++ '.' :: composed ds := by
  have hpoint : '.'.toNat < 0x80 := by decide
  rw [composed, List.flatMap_append, List.flatMap_cons, decompose_ascii hpoint, List.singleton_append,
    orderMarks_append hpoint, compose_append hpoint, compose_point]
  rfl

theorem composed_intercalate (labels : List (List Char)) :
    composed (['.'].intercalate labels) = ['.'].intercalate (labels.map composed) := by
  induction labels with
  | nil => rfl
  | cons label rest ih =>
    cases rest with
    | nil => simp
    | cons next rest =>
      rw [List.intercalate_cons_cons, List.append_assoc, List.singleton_append,
        composed_append_point, ih, List.map_cons, List.map_cons, List.map_cons,
        List.intercalate_cons_cons, List.append_assoc, List.singleton_append]

/-- The labels of a composed text are composed. -/
theorem composed_of_mem_cut {cs label : List Char} (hcs : composed cs = cs)
    (h : label ∈ Text.cut '.' cs) : composed label = label := by
  have hlabels : (Text.cut '.' cs).map composed = Text.cut '.' cs := by
    have hpoints : ∀ piece ∈ (Text.cut '.' cs).map composed, '.' ∉ piece := by
      intro piece hpiece hpoint
      obtain ⟨label, hlabel, rfl⟩ := List.mem_map.mp hpiece
      rcases mem_composed hpoint with hgained | hin
      · exact absurd (hgained.symm.trans point_not_composed) (by decide)
      · exact Text.not_mem_of_mem_cut hlabel hin
    have hne : (Text.cut '.' cs).map composed ≠ [] := by
      rw [Ne, List.map_eq_nil_iff]
      exact Text.cutBy_ne_nil _ cs
    rw [← Text.cut_intercalate hpoints hne, ← composed_intercalate, Text.intercalate_cut, hcs]
  exact List.map_inj_left.mp (hlabels.trans (List.map_id _).symm) label h

end Wayfare.Url.Idna
