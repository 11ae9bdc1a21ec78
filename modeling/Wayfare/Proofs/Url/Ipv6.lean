import Wayfare.Proofs.Text.Span
import Wayfare.Proofs.Url.Ipv4

/-!
Addresses of sixteen bytes, which are read again as they are written.
-/
namespace Wayfare.Url

/-- Numbers of two bytes. -/
def ArePieces (pieces : List Nat) : Prop :=
  ∀ p ∈ pieces, p < 2 ^ 16

/-! ## What is read -/

theorem hexValue?_lt {c : Char} {d : Nat} (h : Text.hexValue? c = some d) : d < 16 := by
  rw [Text.hexValue?] at h
  have hle : ∀ {a : Char}, decide (c ≤ a) = true → c.toNat ≤ a.toNat :=
    fun h => UInt32.le_iff_toNat_le.mp (of_decide_eq_true h)
  split at h
  · next hdigit =>
    have := hle (Bool.and_eq_true_iff.mp hdigit).2
    rw [← Option.some.inj h]
    simp at this ⊢
    omega
  · split at h
    · next hsmall =>
      have := hle (Bool.and_eq_true_iff.mp hsmall).2
      rw [← Option.some.inj h]
      simp at this ⊢
      omega
    · split at h
      · next hcapital =>
        have := hle (Bool.and_eq_true_iff.mp hcapital).2
        rw [← Option.some.inj h]
        simp at this ⊢
        omega
      · cases h

theorem digitsValue_lt (cs : List Char) : digitsValue 16 cs < 16 ^ cs.length := by
  induction cs using List.reverseRecOn with
  | nil => decide
  | append_singleton cs c ih =>
    have hdigit : (Text.hexValue? c).getD 0 < 16 := by
      cases h : Text.hexValue? c with
      | none => decide
      | some d => exact hexValue?_lt h
    rw [digitsValue_append, List.length_append, List.length_singleton, Nat.pow_succ]
    omega

theorem ipv6Byte?_le {cs : List Char} {n : Nat} (h : ipv6Byte? cs = some n) : n ≤ 255 := by
  rw [ipv6Byte?.eq_def] at h
  split at h
  · rw [← Option.some.inj h]
    decide
  · obtain ⟨hsmall, heq⟩ := Option.ite_none_right_eq_some.mp h
    rw [← Option.some.inj heq]
    exact of_decide_eq_true (Bool.and_eq_true_iff.mp hsmall).2
  · cases h

theorem ipv6Tail?_eq_some {cs : List Char} {tail : List Nat} (h : ipv6Tail? cs = some tail) :
    tail.length = 2 ∧ ArePieces tail := by
  rw [ipv6Tail?] at h
  split at h
  · next a b c d hbytes =>
    have hle : ∀ n ∈ [a, b, c, d], n ≤ 255 := by
      intro n hn
      obtain ⟨piece, -, hpiece⟩ := exists_of_mem_mapM hbytes hn
      exact ipv6Byte?_le hpiece
    simp only [List.mem_cons, List.not_mem_nil, or_false, forall_eq_or_imp, forall_eq] at hle
    obtain rfl := Option.some.inj h
    refine ⟨rfl, ?_⟩
    simp only [ArePieces, List.mem_cons, List.not_mem_nil, or_false, forall_eq_or_imp, forall_eq]
    omega
  · cases h

/-- Pieces of an address that may be read. -/
structure Fitting (pieces : List Nat) : Prop where
  length : pieces.length ≤ 8
  pieces : ArePieces pieces

theorem Fitting.cons {p : Nat} {front : List Nat} (h : Fitting front)
    (hfull : ¬ (front.length == 8) = true) (hp : p < 2 ^ 16) : Fitting (p :: front) := by
  refine ⟨?_, List.forall_mem_cons.mpr ⟨hp, h.pieces⟩⟩
  have hne : front.length ≠ 8 := by simpa using hfull
  have := h.length
  rw [List.length_cons]
  omega

theorem Fitting.reverse {front : List Nat} (h : Fitting front) : Fitting front.reverse :=
  ⟨by simpa using h.length, fun p hp => h.pieces p (List.mem_reverse.mp hp)⟩

theorem digitsValue_takeWhile_lt (p : Char → Bool) (cs : List Char) :
    digitsValue 16 ((cs.take 4).takeWhile p) < 2 ^ 16 := by
  have hlength : ((cs.take 4).takeWhile p).length ≤ 4 :=
    Nat.le_trans (List.takeWhile_prefix p).length_le (List.length_take_le 4 cs)
  calc digitsValue 16 ((cs.take 4).takeWhile p)
      < 16 ^ ((cs.take 4).takeWhile p).length := digitsValue_lt _
    _ ≤ 16 ^ 4 := Nat.pow_le_pow_right (by decide) hlength

/-- At most eight pieces are read. -/
theorem fitting_ipv6Pieces {steps : Nat} {front : List Nat} {gap gap' : Option Nat}
    {cs : List Char} {pieces : List Nat} (hfront : Fitting front)
    (h : ipv6Pieces steps front gap cs = some (pieces, gap')) : Fitting pieces := by
  fun_induction ipv6Pieces steps front gap cs with
  | case1 => cases h
  | case2 =>
    obtain ⟨rfl, -⟩ := Prod.mk.inj (Option.some.inj h)
    exact hfront.reverse
  | case3 => cases h
  | case4 => cases h
  | case5 _ _ _ _ _ hfull _ _ ih => exact ih (hfront.cons hfull (by decide)) h
  | case6 _ _ _ _ _ hfull _ _ _ ih =>
    exact ih (hfront.cons hfull (digitsValue_takeWhile_lt _ _)) h
  | case7 _ _ _ _ _ _ _ _ _ _ _ hpoint =>
    obtain ⟨tail, htail, heq⟩ := Option.map_eq_some_iff.mp h
    obtain ⟨rfl, -⟩ := Prod.mk.inj heq
    obtain ⟨hlength, hpieces⟩ := ipv6Tail?_eq_some htail
    have hsix := of_decide_eq_true (Bool.and_eq_true_iff.mp hpoint).2
    refine ⟨?_, List.forall_mem_append.mpr ⟨hfront.reverse.pieces, hpieces⟩⟩
    rw [List.length_append, List.length_reverse, hlength]
    omega
  | case8 _ _ _ _ _ hfull _ _ _ _ _ _ _ ih =>
    exact ih (hfront.cons hfull (digitsValue_takeWhile_lt _ _)) h
  | case9 => cases h

theorem fillGap_eq_some {pieces filled : List Nat} {gap : Option Nat} (hpieces : Fitting pieces)
    (h : fillGap pieces gap = some filled) : filled.length = 8 ∧ ArePieces filled := by
  cases gap with
  | none =>
    obtain ⟨hlength, heq⟩ := Option.ite_none_right_eq_some.mp h
    obtain rfl := Option.some.inj heq
    exact ⟨beq_iff_eq.mp hlength, hpieces.pieces⟩
  | some gap =>
    obtain rfl := Option.some.inj h
    constructor
    · have := hpieces.length
      simp only [List.length_append, List.length_take, List.length_replicate, List.length_drop]
      omega
    · intro p hp
      rw [List.mem_append, List.mem_append, List.mem_replicate] at hp
      rcases hp with (hin | ⟨-, rfl⟩) | hin
      · exact hpieces.pieces p (List.mem_of_mem_take hin)
      · decide
      · exact hpieces.pieces p (List.mem_of_mem_drop hin)

/-- An address has eight pieces of two bytes. -/
theorem parseIpv6_eq_ok {cs : List Char} {pieces : List Nat} (h : parseIpv6 cs = .ok pieces) :
    pieces.length = 8 ∧ ArePieces pieces := by
  unfold parseIpv6 at h
  dsimp only at h
  split at h
  · next filled hread =>
    obtain rfl := Except.ok.inj h
    obtain ⟨⟨front, gap⟩, hpieces, hfill⟩ := Option.bind_eq_some_iff.mp hread
    refine fillGap_eq_some ?_ hfill
    split at hpieces
    · exact fitting_ipv6Pieces ⟨by decide, by simp [ArePieces]⟩ hpieces
    · cases hpieces
    · cases hpieces
    · cases hpieces
    · exact fitting_ipv6Pieces ⟨by decide, by simp [ArePieces]⟩ hpieces
  · cases h

/-! ## What is written -/

/-- What ends a written piece: nothing, or a colon with more behind it. -/
inductive Ends : (tail more : List Char) → Prop where
  | whole : Ends [] []
  | colon {more : List Char} (h : more ≠ []) : Ends (':' :: more) more

section

variable {steps p : Nat} {front : List Nat} {gap : Option Nat} {tail more : List Char}

theorem isSome_hexValue?_of_mem {c : Char} (h : c ∈ Nat.toDigits 16 p) :
    (Text.hexValue? c).isSome = true := by
  obtain ⟨d, hd, rfl⟩ := digit_of_mem_toDigits (by decide) p h
  rw [hexValue?_digitChar d hd]
  rfl

theorem colon_not_mem_toDigits : ':' ∉ Nat.toDigits 16 p := by
  intro h
  exact absurd (isSome_hexValue?_of_mem h) (by decide)

theorem Ends.takeWhile_take (h : Ends tail more) (n : Nat) :
    (tail.take n).takeWhile (fun c => (Text.hexValue? c).isSome) = [] := by
  cases h with
  | whole => simp
  | colon =>
    have hcolon : (Text.hexValue? ':').isSome = false := by decide
    cases n <;> simp [hcolon]

/-- One written piece is read. -/
theorem ipv6Pieces_piece (steps : Nat) (gap : Option Nat) (hp : p < 2 ^ 16)
    (hfront : front.length < 8) (h : Ends tail more) :
    ipv6Pieces (steps + 1) front gap (Nat.toDigits 16 p ++ tail) =
      ipv6Pieces steps (p :: front) gap more := by
  have hlength : (Nat.toDigits 16 p).length ≤ 4 :=
    (Nat.length_toDigits_le_iff (by decide) (by decide)).mpr hp
  have hdigits : ((Nat.toDigits 16 p ++ tail).take 4).takeWhile
      (fun c => (Text.hexValue? c).isSome) = Nat.toDigits 16 p := by
    rw [List.take_append, List.take_of_length_le hlength,
      List.takeWhile_append_of_pos fun c hc => isSome_hexValue?_of_mem hc, h.takeWhile_take,
      List.append_nil]
  have hdrop : (Nat.toDigits 16 p ++ tail).drop (Nat.toDigits 16 p).length = tail :=
    List.drop_left
  have hvalue : digitsValue 16 (Nat.toDigits 16 p) = p :=
    digitsValue_toDigits (by decide) (by decide) p
  obtain ⟨c, cs, hcs⟩ := List.exists_cons_of_ne_nil (Nat.toDigits_ne_nil (n := p) (b := 16))
  have hcolon : (c == ':') = false := by
    rw [beq_eq_false_iff_ne]
    rintro rfl
    exact colon_not_mem_toDigits (hcs ▸ List.mem_cons_self)
  have hfull : (front.length == 8) = false := by
    rw [beq_eq_false_iff_ne]
    omega
  rw [hcs, List.cons_append] at hdigits hdrop ⊢
  rw [ipv6Pieces, hfull, hcolon]
  simp only [hdigits, hdrop, Bool.false_eq_true, if_false]
  rw [← hcs, hvalue]
  cases h with
  | whole => rfl
  | colon hmore =>
    have hpoint : (':' == '.') = false := by decide
    simp [hpoint, hmore]

theorem writePieces_cons (p : Nat) (rest : List Nat) :
    writePieces (p :: rest) =
      Nat.toDigits 16 p ++ rest.flatMap fun q => ':' :: Nat.toDigits 16 q := by
  induction rest generalizing p with
  | nil => simp [writePieces]
  | cons q rest ih =>
    have hrest := ih q
    rw [writePieces, List.map_cons] at hrest ⊢
    rw [List.map_cons, List.intercalate_cons_cons, hrest]
    simp

/-- Written pieces are read one by one. -/
theorem ipv6Pieces_pieces (steps : Nat) (gap : Option Nat) {rest : List Nat}
    (hpieces : ArePieces (p :: rest)) (hlength : front.length + rest.length < 8)
    (h : Ends tail more) :
    ipv6Pieces (steps + rest.length + 1) front gap (writePieces (p :: rest) ++ tail) =
      ipv6Pieces steps ((p :: rest).reverse ++ front) gap more := by
  obtain ⟨hp, hrest⟩ := List.forall_mem_cons.mp hpieces
  induction rest generalizing p front with
  | nil =>
    have hone := ipv6Pieces_piece steps gap hp (by simpa using hlength) h
    simpa [writePieces] using hone
  | cons q rest ih =>
    have hlength' : (p :: front).length + rest.length < 8 := by
      simp only [List.length_cons] at hlength ⊢
      omega
    have htail : writePieces (p :: q :: rest) ++ tail =
        Nat.toDigits 16 p ++ ':' :: (writePieces (q :: rest) ++ tail) := by
      simp [writePieces_cons]
    have hmore : writePieces (q :: rest) ++ tail ≠ [] := by
      simp [writePieces_cons, Nat.toDigits_ne_nil]
    rw [htail, ipv6Pieces_piece _ gap hp (by omega) (Ends.colon hmore), List.length_cons,
      ← Nat.add_assoc, ih hrest hlength' (List.forall_mem_cons.mp hrest).1
        (List.forall_mem_cons.mp hrest).2]
    simp

theorem ipv6Pieces_end {back : List Nat} (hback : ArePieces back)
    (hlength : front.length + back.length ≤ 8) (hsteps : back.length < steps) :
    ipv6Pieces steps front gap (writePieces back) = some (front.reverse ++ back, gap) := by
  cases back with
  | nil =>
    obtain ⟨steps, rfl⟩ := Nat.exists_eq_add_of_lt hsteps
    simp [writePieces, ipv6Pieces]
  | cons p rest =>
    obtain ⟨steps, rfl⟩ := Nat.exists_eq_add_of_lt hsteps
    have hlength' : front.length + rest.length < 8 := by
      simp only [List.length_cons] at hlength
      omega
    have hread := ipv6Pieces_pieces (steps + 1) gap hback hlength' Ends.whole
    have hsteps : (p :: rest).length + steps + 1 = steps + 1 + rest.length + 1 := by
      simp only [List.length_cons]
      omega
    rw [List.append_nil] at hread
    rw [hsteps, hread, ipv6Pieces]
    simp

end

theorem longestZeros_le (i : Nat) (pieces : List Nat) :
    (longestZeros i pieces).1 + (longestZeros i pieces).2 ≤ i + pieces.length := by
  induction pieces generalizing i with
  | nil => simp [longestZeros]
  | cons p rest ih =>
    simp only [longestZeros]
    split
    · have := (List.takeWhile_prefix (· == 0) (l := p :: rest)).length_le
      omega
    · have := ih (i + 1)
      rw [List.length_cons]
      omega

theorem length_writePieces (p : Nat) (rest : List Nat) :
    2 * rest.length + 1 ≤ (writePieces (p :: rest)).length := by
  have hpos : ∀ q, 1 ≤ (Nat.toDigits 16 q).length := fun q => Nat.length_toDigits_pos
  rw [writePieces_cons]
  induction rest with
  | nil => simpa using hpos p
  | cons q rest ih =>
    have := hpos q
    simp only [List.length_append, List.flatMap_cons, List.length_cons] at ih ⊢
    omega

theorem head?_writePieces (p : Nat) (rest : List Nat) :
    ∃ c cs, writePieces (p :: rest) = c :: cs ∧ c ≠ ':' := by
  obtain ⟨c, cs, hcs⟩ := List.exists_cons_of_ne_nil (Nat.toDigits_ne_nil (n := p) (b := 16))
  refine ⟨c, _, by rw [writePieces_cons, hcs, List.cons_append], ?_⟩
  rintro rfl
  exact colon_not_mem_toDigits (hcs ▸ List.mem_cons_self)

theorem length_le_writePieces (pieces : List Nat) :
    pieces.length ≤ (writePieces pieces).length := by
  cases pieces with
  | nil => exact Nat.zero_le _
  | cons p rest =>
    have := length_writePieces p rest
    rw [List.length_cons]
    omega

theorem ipv6Pieces_gap {steps : Nat} {front : List Nat} (hfront : front.length < 8)
    (rest : List Char) :
    ipv6Pieces (steps + 1) front none (':' :: rest) =
      ipv6Pieces steps (0 :: front) (some (front.length + 1)) rest := by
  have hfull : (front.length == 8) = false := by
    rw [beq_eq_false_iff_ne]
    omega
  rw [ipv6Pieces, hfull]
  rfl

/-- An address that does not begin with a colon is read from its first piece on. -/
theorem parseIpv6_of_pieces (p : Nat) (ps : List Nat) (tail : List Char) {pieces filled : List Nat}
    {gap : Option Nat} (hlong : 2 ≤ (writePieces (p :: ps) ++ tail).length)
    (hread : ipv6Pieces ((writePieces (p :: ps) ++ tail).length + 1) [] none
      (writePieces (p :: ps) ++ tail) = some (pieces, gap))
    (hfill : fillGap pieces gap = some filled) :
    parseIpv6 (writePieces (p :: ps) ++ tail) = .ok filled := by
  obtain ⟨c, cs, hcs, hc⟩ := head?_writePieces p ps
  rw [hcs, List.cons_append] at hlong hread ⊢
  cases htext : cs ++ tail with
  | nil =>
    rw [htext] at hlong
    exact absurd hlong (by simp)
  | cons d text =>
    rw [htext] at hread
    rw [parseIpv6]
    · rw [hread, Option.bind_some]
      dsimp only
      rw [hfill]
    · rintro rest ⟨⟩
      exact hc rfl
    · rintro rest ⟨⟩
      exact hc rfl
    · simp
    · simp

theorem parseIpv6_writePieces {p : Nat} {ps : List Nat} (hpieces : ArePieces (p :: ps))
    (hlength : ps.length = 7) : parseIpv6 (writePieces (p :: ps)) = .ok (p :: ps) := by
  have hlong := length_writePieces p ps
  have hread : ipv6Pieces ((writePieces (p :: ps)).length + 1) [] none (writePieces (p :: ps)) =
      some (p :: ps, none) :=
    ipv6Pieces_end hpieces (by simp [hlength]) (by simp only [List.length_cons]; omega)
  have hfill : fillGap (p :: ps) none = some (p :: ps) := by simp [fillGap, hlength]
  rw [← List.append_nil (writePieces (p :: ps))] at hread ⊢
  exact parseIpv6_of_pieces p ps [] (by rw [List.append_nil]; omega) hread hfill

/-- Where pieces are left out, they are filled in. -/
theorem parseIpv6_gap {front back : List Nat} (hfront : ArePieces front) (hback : ArePieces back)
    (hlength : front.length + back.length ≤ 7) :
    ∃ filled, parseIpv6 (writePieces front ++ ':' :: ':' :: writePieces back) = .ok filled := by
  have hlong := length_le_writePieces back
  cases front with
  | nil =>
    have hread : ipv6Pieces ((':' :: ':' :: writePieces back).length + 1) [0] (some 1)
        (writePieces back) = some ([0].reverse ++ back, some 1) :=
      ipv6Pieces_end hback (by simp at hlength ⊢; omega) (by simp only [List.length_cons]; omega)
    rw [writePieces, List.map_nil, List.intercalate_nil, List.nil_append, parseIpv6, hread]
    exact ⟨_, rfl⟩
  | cons p ps =>
    have hlong' := length_writePieces p ps
    have hlength' : (writePieces (p :: ps) ++ ':' :: ':' :: writePieces back).length =
        (writePieces (p :: ps)).length + (writePieces back).length + 2 := by
      simp only [List.length_append, List.length_cons]
      omega
    obtain ⟨steps, hsteps⟩ : ∃ steps, (writePieces (p :: ps) ++ ':' :: ':' :: writePieces back).length
        + 1 = steps + 1 + ps.length + 1 :=
      ⟨(writePieces (p :: ps)).length + (writePieces back).length - ps.length + 1, by omega⟩
    have hshort : ([] : List Nat).length + ps.length < 8 := by
      simp only [List.length_cons, List.length_nil] at hlength ⊢
      omega
    have hfirst := ipv6Pieces_pieces (steps + 1) none hfront hshort
      (Ends.colon (List.cons_ne_nil ':' (writePieces back)))
    rw [← hsteps, ipv6Pieces_gap (by simp at hlength ⊢; omega),
      ipv6Pieces_end hback (by simp at hlength ⊢; omega) (by omega)] at hfirst
    exact ⟨_, parseIpv6_of_pieces p ps _ (by omega) hfirst rfl⟩

/-- An address is read again as it is written. -/
theorem parseIpv6_writeIpv6 {pieces : List Nat} (hlength : pieces.length = 8)
    (hpieces : ArePieces pieces) : ∃ filled, parseIpv6 (writeIpv6 pieces) = .ok filled := by
  have hzeros := longestZeros_le 0 pieces
  unfold writeIpv6
  dsimp only
  split
  · cases pieces with
    | nil => cases hlength
    | cons p ps => exact ⟨_, parseIpv6_writePieces hpieces (by simpa using hlength)⟩
  · refine parseIpv6_gap (fun p hp => hpieces p (List.mem_of_mem_take hp))
      (fun p hp => hpieces p (List.mem_of_mem_drop hp)) ?_
    rw [List.length_take, List.length_drop]
    omega

end Wayfare.Url
