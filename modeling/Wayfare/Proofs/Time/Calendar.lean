import Mathlib.Order.Monotone.Basic
import Mathlib.Tactic.IntervalCases
import Wayfare.Time.Calendar

/-!
The calendar, told by its rules: how long the months are, and that one day follows another from
1 January 1970 on and back. The dates that are computed from the number of a day are these.
-/
namespace Wayfare.Date

/-! ## Rules -/

/-- Every fourth year is a leap year, but of the full centuries only every fourth. -/
def IsLeap (year : Int) : Prop :=
  year % 4 = 0 ∧ (year % 100 ≠ 0 ∨ year % 400 = 0)

instance (year : Int) : Decidable (IsLeap year) :=
  inferInstanceAs (Decidable (_ ∧ _))

def monthDays (year : Int) : Nat → Nat
  | 2 => if IsLeap year then 29 else 28
  | 4 | 6 | 9 | 11 => 30
  | _ => 31

/-- The days that the calendar has. -/
structure Valid (d : Date) : Prop where
  month : 1 ≤ d.month ∧ d.month ≤ 12
  day : 1 ≤ d.day ∧ d.day ≤ monthDays d.year d.month

/-- The day after. -/
def next (d : Date) : Date :=
  if d.day < monthDays d.year d.month then ⟨d.year, d.month, d.day + 1⟩
  else if d.month < 12 then ⟨d.year, d.month + 1, 1⟩
  else ⟨d.year + 1, 1, 1⟩

/-- Which date a day falls on: day zero is 1 January 1970, and the dates follow each other. -/
inductive FallsOn : Int → Date → Prop where
  | epoch : FallsOn 0 ⟨1970, 1, 1⟩
  | after {n : Int} {d : Date} : FallsOn n d → FallsOn (n + 1) d.next
  | before {n : Int} {d : Date} (valid : d.Valid) : FallsOn n d.next → FallsOn (n - 1) d

theorem monthDays_mem (year : Int) (month : Nat) :
    1 ≤ monthDays year month ∧ monthDays year month ≤ 31 := by
  unfold monthDays
  split
  · split <;> decide
  all_goals decide

theorem valid_next {d : Date} (h : d.Valid) : d.next.Valid := by
  obtain ⟨⟨hfirst, hlast⟩, hday, -⟩ := h
  unfold next
  split
  · next hmore => exact ⟨⟨hfirst, hlast⟩, Nat.le_add_left 1 _, hmore⟩
  · split
    · next hmonth => exact ⟨⟨Nat.le_add_left 1 _, hmonth⟩, Nat.le_refl 1, (monthDays_mem _ _).1⟩
    · exact ⟨⟨Nat.le_refl 1, Nat.le_add_left 1 11⟩, Nat.le_refl 1, (monthDays_mem _ _).1⟩

/-! ## Years of a cycle -/

/-- The days of a cycle before one of its years, and before the next cycle. -/
def yearStart (year : Nat) : Nat :=
  daysBeforeYear year + year / 400

theorem yearStart_eq {y : Nat} (hy : y < 400) : yearStart y = daysBeforeYear y := by
  rw [yearStart, Nat.div_eq_of_lt hy, Nat.add_zero]

theorem yearStart_succ_mem (y : Nat) :
    yearStart y + 365 ≤ yearStart (y + 1) ∧ yearStart (y + 1) ≤ yearStart y + 366 := by
  simp only [yearStart, daysBeforeYear]
  omega

theorem yearStart_le_cycleDays {y : Nat} (hy : y ≤ 400) : yearStart y ≤ cycleDays := by
  simp only [yearStart, daysBeforeYear, cycleDays]
  omega

theorem yearOfCycle_mono {a b : Nat} (h : a ≤ b) (hb : b < cycleDays) :
    yearOfCycle a ≤ yearOfCycle b := by
  refine Nat.div_le_div_right ?_
  simp only [cycleDays] at hb
  omega

theorem yearOfCycle_ends :
    ∀ y < 400, yearOfCycle (yearStart y) = y ∧ yearOfCycle (yearStart (y + 1) - 1) = y := by
  decide +kernel

-- The year grows with the day, so it is enough to know it on the first and the last day of a year.
theorem yearOfCycle_eq {y day : Nat} (hy : y < 400) (hfrom : yearStart y ≤ day)
    (hto : day < yearStart (y + 1)) : yearOfCycle day = y := by
  obtain ⟨hfirst, hlast⟩ := yearOfCycle_ends y hy
  have hcycle := yearStart_le_cycleDays (y := y + 1) hy
  have hlow := yearOfCycle_mono hfrom (Nat.lt_of_lt_of_le hto hcycle)
  have hhigh := yearOfCycle_mono (Nat.le_sub_one_of_lt hto) (by omega)
  omega

theorem exists_year {day n : Nat} (h : day < yearStart n) :
    ∃ y < n, yearStart y ≤ day ∧ day < yearStart (y + 1) := by
  induction n with
  | zero => cases h
  | succ n ih =>
    by_cases hn : day < yearStart n
    · obtain ⟨y, hy, hbetween⟩ := ih hn
      exact ⟨y, Nat.lt_succ_of_lt hy, hbetween⟩
    · exact ⟨n, Nat.lt_succ_self n, Nat.le_of_not_lt hn, h⟩

/-! ## Months of a year from March on -/

theorem month_eq_iff {m inYear : Nat} :
    (5 * inYear + 2) / 153 = m ↔ daysBeforeMonth m ≤ inYear ∧ inYear < daysBeforeMonth (m + 1) := by
  simp only [daysBeforeMonth]
  omega

/-- The date at a place in a cycle, with years and months counted from March. -/
def ofMarch (cycle : Int) (y m k : Nat) : Date :=
  ⟨400 * cycle + y + (if m < 10 then 0 else 1), if m < 10 then m + 3 else m - 9, k + 1⟩

/-- The number of the day at a place in a cycle. -/
def daysOfMarch (cycle : Int) (y m k : Nat) : Int :=
  cycle * cycleDays + yearStart y + daysBeforeMonth m + k - epochShift

/-- Leap years repeat from cycle to cycle. -/
theorem isLeap_cycle (cycle year : Int) : IsLeap (400 * cycle + year) ↔ IsLeap year := by
  simp only [IsLeap]
  omega

theorem isLeap_march {cycle : Int} {y : Nat} (hy : y < 400) :
    IsLeap (400 * cycle + y + 1) ↔ yearStart (y + 1) = yearStart y + 366 := by
  have hfirst : ∀ y : Nat, y < 400 →
      (IsLeap (y + 1) ↔ yearStart (y + 1) = yearStart y + 366) := by
    decide +kernel
  rw [Int.add_assoc, isLeap_cycle]
  exact hfirst y hy

theorem yearStart_succ (cycle : Int) {y : Nat} (hy : y < 400) :
    yearStart (y + 1) = yearStart y + 337 + monthDays (400 * cycle + y + 1) 2 := by
  have hmem := yearStart_succ_mem y
  simp only [monthDays]
  split
  · next hleap => rw [(isLeap_march hy).mp hleap]
  · next hleap =>
    have hne := mt (isLeap_march hy).mpr hleap
    omega

/-- A month ends where the next begins, and February with its year. -/
theorem monthDays_ofMarch (cycle : Int) {y m : Nat} (k : Nat) (hy : y < 400) (hm : m < 12) :
    daysBeforeMonth m + monthDays (ofMarch cycle y m k).year (ofMarch cycle y m k).month =
      if m < 11 then daysBeforeMonth (m + 1) else yearStart (y + 1) - yearStart y := by
  have hlast := yearStart_succ cycle hy
  interval_cases m
  all_goals first | rfl | (simp [ofMarch, daysBeforeMonth]; omega)

theorem valid_ofMarch {cycle : Int} {y m k : Nat} (hm : m < 12) :
    (ofMarch cycle y m k).Valid ↔
      k < monthDays (ofMarch cycle y m k).year (ofMarch cycle y m k).month := by
  refine ⟨fun h => h.day.2, fun h => ⟨?_, Nat.le_add_left 1 k, h⟩⟩
  simp only [ofMarch]
  split <;> omega

section March

variable {cycle : Int} {y m k : Nat} (hy : y < 400) (hm : m < 12)
  (hvalid : (ofMarch cycle y m k).Valid)

include hy hm hvalid

theorem lt_of_march : daysBeforeMonth m + k < daysBeforeMonth (m + 1) ∧
    yearStart y + (daysBeforeMonth m + k) < yearStart (y + 1) := by
  have hk := (valid_ofMarch hm).mp hvalid
  have hends := monthDays_ofMarch cycle k hy hm
  have hyear := yearStart_succ_mem y
  split at hends
  · have hmonth : daysBeforeMonth (m + 1) ≤ 337 := by
      simp only [daysBeforeMonth]
      omega
    omega
  · have hmonth : daysBeforeMonth (m + 1) = 367 := by
      obtain rfl : m = 11 := by omega
      rfl
    omega

theorem ofDays_march : ofDays (daysOfMarch cycle y m k) = ofMarch cycle y m k := by
  obtain ⟨hbelow, hto⟩ := lt_of_march hy hm hvalid
  have hyear : yearOfCycle (yearStart y + (daysBeforeMonth m + k)) = y :=
    yearOfCycle_eq hy (Nat.le_add_right _ _) hto
  have hmonth : (5 * (daysBeforeMonth m + k) + 2) / 153 = m :=
    month_eq_iff.mpr ⟨Nat.le_add_right _ _, hbelow⟩
  have hplace : daysOfMarch cycle y m k + epochShift =
      cycle * cycleDays + (yearStart y + (daysBeforeMonth m + k) : Nat) := by
    simp only [daysOfMarch]
    omega
  have hcycle := yearStart_le_cycleDays (y := y + 1) hy
  have hquotient : (daysOfMarch cycle y m k + epochShift) / (cycleDays : Int) = cycle := by
    simp only [cycleDays] at *
    omega
  have hremainder : ((daysOfMarch cycle y m k + epochShift) % (cycleDays : Int)).toNat =
      yearStart y + (daysBeforeMonth m + k) := by
    simp only [cycleDays] at *
    omega
  simp only [ofDays, hquotient, hremainder, hyear, ← yearStart_eq hy, Nat.add_sub_cancel_left,
    hmonth, ofMarch]
  congr 1
  split <;> split <;> omega

end March

theorem toDays_ofMarch {cycle : Int} {y m k : Nat} (hy : y < 400) (hm : m < 12) :
    (ofMarch cycle y m k).toDays = daysOfMarch cycle y m k := by
  have hyear : (if (ofMarch cycle y m k).month ≤ 2 then (ofMarch cycle y m k).year - 1
      else (ofMarch cycle y m k).year) = 400 * cycle + y := by
    by_cases h : m < 10 <;> simp only [ofMarch, h, if_true, if_false] <;> split <;> omega
  have hmonth : (if 2 < (ofMarch cycle y m k).month then (ofMarch cycle y m k).month - 3
      else (ofMarch cycle y m k).month + 9) = m := by
    by_cases h : m < 10 <;> simp only [ofMarch, h, if_true, if_false] <;> split <;> omega
  have hquotient : (400 * cycle + y) / 400 = cycle := by omega
  have hremainder : ((400 * cycle + y) % 400).toNat = y := by omega
  simp only [toDays, hyear, hmonth, hquotient, hremainder, daysOfMarch, yearStart_eq hy]
  simp only [ofMarch]
  omega

/-- Every day is at some place in a cycle. -/
theorem exists_daysOfMarch (n : Int) :
    ∃ cycle y m k, y < 400 ∧ m < 12 ∧ (ofMarch cycle y m k).Valid ∧ daysOfMarch cycle y m k = n := by
  let cycle := (n + epochShift) / (cycleDays : Int)
  let inCycle := ((n + epochShift) % (cycleDays : Int)).toNat
  have hsplit : cycle * cycleDays + inCycle = n + epochShift ∧ inCycle < yearStart 400 := by
    simp only [cycle, inCycle, cycleDays, yearStart, daysBeforeYear]
    omega
  obtain ⟨y, hy, hfrom, hto⟩ := exists_year hsplit.2
  have hlength := yearStart_succ_mem y
  let inYear := inCycle - yearStart y
  let m := (5 * inYear + 2) / 153
  have hm : m < 12 := by omega
  obtain ⟨hmonth, hbelow⟩ : daysBeforeMonth m ≤ inYear ∧ inYear < daysBeforeMonth (m + 1) :=
    month_eq_iff.mp rfl
  have hends := monthDays_ofMarch cycle (inYear - daysBeforeMonth m) hy hm
  refine ⟨cycle, y, m, inYear - daysBeforeMonth m, hy, hm, (valid_ofMarch hm).mpr ?_, ?_⟩
  · split at hends <;> omega
  · simp only [daysOfMarch]
    omega

/-- Every date is at some place in a cycle. -/
theorem exists_ofMarch {d : Date} (h : d.Valid) :
    ∃ cycle y m k, y < 400 ∧ m < 12 ∧ ofMarch cycle y m k = d := by
  obtain ⟨year, month, day⟩ := d
  obtain ⟨⟨hfirst, hlast⟩, hday, -⟩ := h
  dsimp only at hfirst hlast hday
  by_cases hmonth : month ≤ 2
  · have hlate : ¬ month + 9 < 10 := by omega
    refine ⟨(year - 1) / 400, ((year - 1) % 400).toNat, month + 9, day - 1, by omega, by omega, ?_⟩
    simp only [ofMarch, hlate, if_false, Date.mk.injEq]
    omega
  · have hearly : month - 3 < 10 := by omega
    refine ⟨year / 400, (year % 400).toNat, month - 3, day - 1, by omega, by omega, ?_⟩
    simp only [ofMarch, hearly, if_true, Date.mk.injEq]
    omega

/-! ## Days and dates -/

theorem valid_ofDays (n : Int) : (ofDays n).Valid := by
  obtain ⟨cycle, y, m, k, hy, hm, hvalid, rfl⟩ := exists_daysOfMarch n
  rw [ofDays_march hy hm hvalid]
  exact hvalid

theorem toDays_ofDays (n : Int) : (ofDays n).toDays = n := by
  obtain ⟨cycle, y, m, k, hy, hm, hvalid, rfl⟩ := exists_daysOfMarch n
  rw [ofDays_march hy hm hvalid, toDays_ofMarch hy hm]

theorem ofDays_toDays {d : Date} (h : d.Valid) : ofDays d.toDays = d := by
  obtain ⟨cycle, y, m, k, hy, hm, rfl⟩ := exists_ofMarch h
  rw [toDays_ofMarch hy hm, ofDays_march hy hm h]

/-- From one 1 March to the next, the February between them included. -/
theorem daysBeforeYear_succ (year : Int) :
    (year - 1) / 400 * cycleDays + daysBeforeYear ((year - 1) % 400).toNat + 337 + monthDays year 2 =
      year / 400 * cycleDays + daysBeforeYear (year % 400).toNat := by
  by_cases hleap : IsLeap year <;> simp only [monthDays, hleap, if_true, if_false] <;>
    simp only [IsLeap] at hleap <;> simp only [daysBeforeYear, cycleDays] <;> omega

theorem toDays_next {d : Date} (h : d.Valid) : d.next.toDays = d.toDays + 1 := by
  obtain ⟨year, month, day⟩ := d
  obtain ⟨⟨hfirst, hlast⟩, hday, hdays⟩ := h
  dsimp only at hfirst hlast hday hdays
  have hmarch := daysBeforeYear_succ year
  unfold next
  split
  · simp only [toDays]
    omega
  · next hmore =>
    obtain rfl : day = monthDays year month := Nat.le_antisymm hdays (Nat.le_of_not_lt hmore)
    interval_cases month
    all_goals simp [toDays, monthDays, daysBeforeMonth] at *
    all_goals omega

theorem ofDays_add_one (n : Int) : ofDays (n + 1) = (ofDays n).next := by
  have hnext := toDays_next (valid_ofDays n)
  rw [toDays_ofDays] at hnext
  rw [← hnext, ofDays_toDays (valid_next (valid_ofDays n))]

theorem FallsOn.ofDays_eq {n : Int} {d : Date} (h : FallsOn n d) : ofDays n = d := by
  induction h with
  | epoch => decide
  | after _ ih => rw [ofDays_add_one, ih]
  | @before n d valid _ ih =>
    have hdays : n - 1 = d.toDays := by
      have hnext := toDays_next valid
      rw [← ih, toDays_ofDays] at hnext
      omega
    rw [hdays, ofDays_toDays valid]

theorem fallsOn_ofDays (n : Int) : FallsOn n (ofDays n) := by
  induction n with
  | zero => exact .epoch
  | succ n ih =>
    rw [ofDays_add_one]
    exact ih.after
  | pred n ih =>
    have hnext : ofDays (-n) = (ofDays (-n - 1)).next := by
      rw [← ofDays_add_one, Int.sub_add_cancel]
    exact .before (valid_ofDays _) (hnext ▸ ih)

/-- A day falls on the date that is computed for it, and on no other. -/
theorem fallsOn_iff {n : Int} {d : Date} : FallsOn n d ↔ ofDays n = d :=
  ⟨FallsOn.ofDays_eq, fun h => h ▸ fallsOn_ofDays n⟩

theorem FallsOn.day_unique {m n : Int} {d : Date} (hm : FallsOn m d) (hn : FallsOn n d) : m = n := by
  rw [← toDays_ofDays m, ← toDays_ofDays n, hm.ofDays_eq, hn.ofDays_eq]

/-! ## Years -/

/-- The number of the day on which a year begins. -/
def newYear (year : Int) : Int :=
  toDays ⟨year, 1, 1⟩

theorem newYear_lt_succ (year : Int) : newYear year < newYear (year + 1) := by
  have hmarch := daysBeforeYear_succ year
  simp only [newYear, toDays, Int.add_sub_cancel]
  simp only [show (1 : Nat) ≤ 2 by decide, show ¬ 2 < 1 by decide, if_true, if_false]
  omega

theorem newYear_lt_iff {a b : Int} : newYear a < newYear b ↔ a < b :=
  (strictMono_int_of_lt_succ newYear_lt_succ).lt_iff_lt

theorem newYear_le_iff {a b : Int} : newYear a ≤ newYear b ↔ a ≤ b := by
  rw [← Int.not_lt, newYear_lt_iff, Int.not_lt]

theorem toDays_mem_year {d : Date} (h : d.Valid) :
    newYear d.year ≤ d.toDays ∧ d.toDays < newYear (d.year + 1) := by
  obtain ⟨year, month, day⟩ := d
  obtain ⟨⟨hfirst, hlast⟩, hday, hdays⟩ := h
  dsimp only at hfirst hlast hday hdays
  have hmarch := daysBeforeYear_succ year
  have hlong := (monthDays_mem year month).2
  interval_cases month
  all_goals simp [newYear, toDays, monthDays, daysBeforeMonth] at *
  all_goals omega

theorem year_lt_iff {n : Int} {d : Date} (h : FallsOn n d) (year : Int) :
    d.year < year ↔ n < newYear year := by
  obtain rfl := h.ofDays_eq
  have hmem := toDays_mem_year (valid_ofDays n)
  rw [toDays_ofDays] at hmem
  constructor
  · intro hlt
    exact Int.lt_of_lt_of_le hmem.2 (newYear_le_iff.mpr hlt)
  · intro hlt
    exact newYear_lt_iff.mp (Int.lt_of_le_of_lt hmem.1 hlt)

end Wayfare.Date
