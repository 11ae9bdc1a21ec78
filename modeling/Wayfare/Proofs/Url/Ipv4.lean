import Mathlib.Data.Nat.Digits.Lemmas
import Wayfare.Proofs.Option
import Wayfare.Proofs.Text.Cut
import Wayfare.Url.Host

/-!
Numbers in hosts, and addresses of four bytes, which are read again as they are written.
-/
namespace Wayfare.Url

/-! ## Digits -/

theorem hexValue?_digitChar : ∀ d < 16, Text.hexValue? d.digitChar = some d := by
  decide

section

variable {base n : Nat}

/-- A number is written by the digits of a smaller number and its last digit. -/
theorem digits_induction (hbase : 1 < base) {motive : Nat → List Char → Prop}
    (one : ∀ d < base, motive d [d.digitChar])
    (more : ∀ n d, 0 < n → d < base → motive n (base.toDigits n) →
      motive (base * n + d) (base.toDigits n ++ [d.digitChar]))
    (n : Nat) : motive n (base.toDigits n) := by
  induction n using Nat.strong_induction_on with
  | _ n ih =>
    rw [Nat.toDigits_eq_if hbase]
    split
    · next hlt => exact one n hlt
    · next hge =>
      have hpos : 0 < n / base := Nat.div_pos (Nat.not_lt.mp hge) (Nat.zero_lt_of_lt hbase)
      have hlt : n / base < n := Nat.div_lt_self (by omega) hbase
      have hstep := more _ _ hpos (Nat.mod_lt n (Nat.zero_lt_of_lt hbase)) (ih _ hlt)
      rwa [Nat.div_add_mod] at hstep

theorem digitsValue_append (base : Nat) (cs : List Char) (c : Char) :
    digitsValue base (cs ++ [c]) = base * digitsValue base cs + (Text.hexValue? c).getD 0 := by
  rw [digitsValue, List.foldl_append]
  rfl

theorem digitsValue_toDigits (hbase : 1 < base) (hhex : base ≤ 16) (n : Nat) :
    digitsValue base (base.toDigits n) = n := by
  refine digits_induction hbase (motive := fun n cs => digitsValue base cs = n) ?_ ?_ n
  · intro d hd
    rw [← List.nil_append [d.digitChar], digitsValue_append, hexValue?_digitChar d (by omega)]
    simp [digitsValue]
  · intro n d _ hd ih
    rw [digitsValue_append, ih, hexValue?_digitChar d (by omega)]
    rfl

theorem digit_of_mem_toDigits (hbase : 1 < base) {c : Char} :
    ∀ n, c ∈ base.toDigits n → ∃ d < base, c = d.digitChar := by
  refine digits_induction hbase (motive := fun _ cs => c ∈ cs → ∃ d < base, c = d.digitChar) ?_ ?_
  · intro d hd hc
    exact ⟨d, hd, List.mem_singleton.mp hc⟩
  · intro n d _ hd ih hc
    rcases List.mem_append.mp hc with hin | hlast
    · exact ih hin
    · exact ⟨d, hd, List.mem_singleton.mp hlast⟩

theorem areDigits_toDigits (hbase : 1 < base) (hhex : base ≤ 16) (n : Nat) :
    areDigits base (base.toDigits n) = true := by
  rw [areDigits, List.all_eq_true]
  intro c hc
  obtain ⟨d, hd, rfl⟩ := digit_of_mem_toDigits hbase n hc
  rw [hexValue?_digitChar d (by omega)]
  simpa using hd

/-- No number but zero is written with a zero in front. -/
theorem head?_toDigits (hbase : 1 < base) (hhex : base ≤ 16) :
    ∀ n, 0 < n → (base.toDigits n).head? ≠ some '0' := by
  refine digits_induction hbase (motive := fun n cs => 0 < n → cs.head? ≠ some '0') ?_ ?_
  · intro d hd hpos hzero
    have hvalue := hexValue?_digitChar d (by omega)
    rw [Option.some.inj hzero] at hvalue
    have : 0 = d := Option.some.inj hvalue
    omega
  · intro n d hpos _ ih _
    obtain ⟨c, cs, hcs⟩ := List.exists_cons_of_ne_nil (Nat.toDigits_ne_nil (n := n) (b := base))
    have hne := ih hpos
    rw [hcs] at hne ⊢
    exact hne

end

/-! ## Four bytes -/

/-- Without a zero in front a number is decimal. -/
theorem ipv4Number?_decimal {cs : List Char} (hne : cs ≠ []) (hhead : cs.head? ≠ some '0') :
    ipv4Number? cs = if areDigits 10 cs then some (digitsValue 10 cs) else none := by
  unfold ipv4Number?
  split
  · exact absurd rfl hne
  · exact absurd rfl hhead
  · exact absurd rfl hhead
  · rfl

theorem ipv4Number?_digits (n : Nat) : ipv4Number? (Text.digits n) = some n := by
  rcases Nat.eq_zero_or_pos n with rfl | hpos
  · rfl
  · have hhead : (Nat.toDigits 10 n).head? ≠ some '0' :=
      head?_toDigits (by decide) (by decide) n hpos
    rw [Text.digits, ipv4Number?_decimal Nat.toDigits_ne_nil hhead,
      areDigits_toDigits (by decide) (by decide), digitsValue_toDigits (by decide) (by decide)]
    rfl

theorem isDigit_of_mem_digits {n : Nat} {c : Char} (h : c ∈ Text.digits n) : c.isDigit = true :=
  Nat.isDigit_of_mem_toDigits (by decide) (by decide) h

theorem point_not_mem_digits (n : Nat) : '.' ∉ Text.digits n := by
  intro h
  exact absurd (isDigit_of_mem_digits h) (by decide)

/-- The four bytes of a number. -/
def bytesOf (n : Nat) : List Nat :=
  [Nat.pow 2 24, Nat.pow 2 16, Nat.pow 2 8, 1].map fun unit => n / unit % 256

theorem nameParts_writeIpv4 (n : Nat) : nameParts (writeIpv4 n) = (bytesOf n).map Text.digits := by
  have hcut : Text.cut '.' (writeIpv4 n) = (bytesOf n).map Text.digits := by
    refine Text.cut_intercalate ?_ (by simp)
    intro piece hpiece
    obtain ⟨unit, -, rfl⟩ := List.mem_map.mp hpiece
    exact point_not_mem_digits _
  have hlast : Text.digits (n / 1 % 256) ≠ [] := Nat.toDigits_ne_nil
  simp only [nameParts, hcut]
  rw [if_neg]
  simpa [bytesOf] using hlast

theorem endsInNumber_writeIpv4 (n : Nat) : endsInNumber (writeIpv4 n) = true := by
  have hall : (Text.digits (n / 1 % 256)).all Char.isDigit = true :=
    List.all_eq_true.mpr fun c hc => isDigit_of_mem_digits hc
  obtain ⟨c, cs, hcs⟩ := List.exists_cons_of_ne_nil (Nat.toDigits_ne_nil (n := n / 1 % 256) (b := 10))
  rw [Text.digits, hcs] at hall
  simp only [endsInNumber, nameParts_writeIpv4, bytesOf, List.map_cons, List.map_nil,
    List.getLast?_cons_cons, List.getLast?_singleton, Text.digits, hcs]
  rw [hall, Bool.true_or]

/-- Four bytes are read again as they are written. -/
theorem parseIpv4_writeIpv4 (n : Nat) : parseIpv4 (writeIpv4 n) = .ok (n % 2 ^ 32) := by
  have hnumbers : ((bytesOf n).map Text.digits).mapM ipv4Number? = some (bytesOf n) := by
    rw [mapM_eq_some_iff, List.forall₂_map_left_iff, List.forall₂_same]
    exact fun byte _ => ipv4Number?_digits byte
  have hfits : ¬ ((bytesOf n).map Text.digits).length > 4 := by simp [bytesOf]
  simp only [parseIpv4, nameParts_writeIpv4, hnumbers, if_neg hfits]
  simp only [bytesOf, List.map_cons, List.map_nil, List.dropLast_cons_cons, List.dropLast_singleton,
    List.getLast?_cons_cons, List.getLast?_singleton, Option.getD_some, List.length_cons,
    List.length_nil, List.foldl_cons, List.foldl_nil, Nat.pow_eq]
  rw [if_neg]
  · congr 1
    omega
  · simp
    omega

end Wayfare.Url
