import Wayfare.Proofs.Time.Calendar
import Wayfare.Time.Instant

/-!
The stamp of an instant: date and time of its second in universal time, each number in as many decimal
places as it needs. It tells the second, whatever text stands in front of it.
-/
namespace Wayfare

namespace Text

/-! ## Decimal places -/

/-- The last decimal places of a number, the highest first. -/
def places : Nat → Nat → List Char
  | 0, _ => []
  | width + 1, n => places width (n / 10) ++ [(n % 10).digitChar]

@[simp] theorem length_places (width n : Nat) : (places width n).length = width := by
  induction width generalizing n with
  | zero => rfl
  | succ width ih => simp [places, ih]

theorem places_zero (width : Nat) : places width 0 = List.replicate width '0' := by
  induction width with
  | zero => rfl
  | succ width ih => rw [places, Nat.zero_div, ih, List.replicate_succ']; rfl

theorem toList_padded {width n : Nat} (hwidth : 0 < width) (hn : n < 10 ^ width) :
    (padded width n).toList = places width n := by
  induction width generalizing n with
  | zero => cases hwidth
  | succ width ih =>
    rcases Nat.lt_or_ge n 10 with hlow | hhigh
    · simp [padded, digits, Nat.toDigits_of_lt_base hlow, places, Nat.div_eq_of_lt hlow,
        places_zero, Nat.mod_eq_of_lt hlow]
    · have hrest : n / 10 < 10 ^ width := Nat.div_lt_of_lt_mul (by rwa [Nat.pow_succ'] at hn)
      have hpos : 0 < width := by
        rcases Nat.eq_zero_or_pos width with rfl | hpos
        · omega
        · exact hpos
      have hcut := ih hpos hrest
      simp only [padded, digits, String.toList_ofList] at hcut ⊢
      rw [places, ← hcut, Nat.toDigits_of_base_le (by decide) hhigh, List.length_append,
        List.length_singleton, Nat.add_sub_add_right, List.append_assoc]

theorem digitChar_inj : ∀ m < 10, ∀ n < 10, m.digitChar = n.digitChar → m = n := by
  decide

theorem places_inj {width m n : Nat} (hm : m < 10 ^ width) (hn : n < 10 ^ width)
    (h : places width m = places width n) : m = n := by
  induction width generalizing m n with
  | zero =>
    rw [Nat.pow_zero, Nat.lt_one_iff] at hm hn
    rw [hm, hn]
  | succ width ih =>
    obtain ⟨hrest, hlast⟩ := List.append_inj' h rfl
    have hquotient := ih (Nat.div_lt_of_lt_mul (by rwa [Nat.pow_succ'] at hm))
      (Nat.div_lt_of_lt_mul (by rwa [Nat.pow_succ'] at hn)) hrest
    have hremainder := digitChar_inj _ (Nat.mod_lt m (by decide)) _ (Nat.mod_lt n (by decide))
      (List.singleton_inj.mp hlast)
    omega

end Text

/-! ## Readings -/

/-- A date and a time of day. -/
structure Reading where
  date : Date
  hour : Nat
  minute : Nat
  second : Nat
  deriving DecidableEq

namespace Reading

/-- What calendar and clock show in universal time at a second from the begin of 1970. -/
structure ShownAt (r : Reading) (seconds : Int) : Prop where
  hour : r.hour < 24
  minute : r.minute < 60
  second : r.second < 60
  date : ∃ day, Date.FallsOn day r.date ∧
    seconds = 86400 * day + 3600 * r.hour + 60 * r.minute + r.second

/-- The sign of a year. -/
def sign (year : Int) : List Char :=
  if year < 0 then ['-'] else []

/-- The parts of a reading in their places: four of the year, and two of each other part. -/
def parts (r : Reading) : List Char :=
  Text.places 4 r.date.year.natAbs ++ '-' :: (Text.places 2 r.date.month ++
    '-' :: (Text.places 2 r.date.day ++ 'T' :: (Text.places 2 r.hour ++
      ':' :: (Text.places 2 r.minute ++ ':' :: (Text.places 2 r.second ++ "+00:00".toList)))))

/-- The form `YYYY-MM-DDTHH:MM:SS+00:00`, behind a sign if the year is negative. -/
def text (r : Reading) : List Char :=
  sign r.date.year ++ r.parts

/-- Whether a year has four places. -/
def InYears (r : Reading) : Prop :=
  -9999 ≤ r.date.year ∧ r.date.year ≤ 9999

variable {r r' : Reading} {seconds : Int}

theorem ShownAt.valid (h : r.ShownAt seconds) : r.date.Valid := by
  obtain ⟨day, hday, -⟩ := h.date
  exact hday.ofDays_eq ▸ Date.valid_ofDays day

theorem ShownAt.second_unique {other : Int} (h : r.ShownAt seconds) (h' : r.ShownAt other) :
    seconds = other := by
  obtain ⟨day, hday, hseconds⟩ := h.date
  obtain ⟨day', hday', hother⟩ := h'.date
  rw [hseconds, hother, hday.day_unique hday']

theorem ShownAt.unique (h : r.ShownAt seconds) (h' : r'.ShownAt seconds) : r = r' := by
  obtain ⟨hhour, hminute, hsecond, day, hday, hplace⟩ := h
  obtain ⟨hhour', hminute', hsecond', day', hday', hplace'⟩ := h'
  obtain rfl : day = day' := by omega
  obtain ⟨date, hour, minute, second⟩ := r
  obtain ⟨date', hour', minute', second'⟩ := r'
  obtain rfl : date = date' := hday.ofDays_eq.symm.trans hday'.ofDays_eq
  simp only [Reading.mk.injEq, true_and]
  dsimp only at *
  omega

/-- The years of four places begin and end with the calendar. -/
theorem ShownAt.inYears_iff (h : r.ShownAt seconds) :
    r.InYears ↔ firstSecond ≤ seconds ∧ seconds ≤ lastSecond := by
  obtain ⟨hhour, hminute, hsecond, day, hday, hplace⟩ := h
  have hfirst := Date.year_lt_iff hday (-9999)
  have hlast := Date.year_lt_iff hday 10000
  have hbegin : Date.newYear (-9999) = -4371587 := by decide
  have hend : Date.newYear 10000 = 2932897 := by decide
  rw [hbegin] at hfirst
  rw [hend] at hlast
  simp only [InYears, firstSecond, lastSecond]
  omega

/-- The numbers of a reading need no more than their places. -/
theorem ShownAt.fits (h : r.ShownAt seconds) (hyear : r.InYears) :
    r.date.year.natAbs < 10 ^ 4 ∧ r.date.month < 10 ^ 2 ∧ r.date.day < 10 ^ 2 ∧ r.hour < 10 ^ 2 ∧
      r.minute < 10 ^ 2 ∧ r.second < 10 ^ 2 := by
  have hmonth := h.valid.month.2
  have hday := h.valid.day.2
  have hlong := (Date.monthDays_mem r.date.year r.date.month).2
  obtain ⟨hhour, hminute, hsecond, -⟩ := h
  obtain ⟨hlow, hhigh⟩ := hyear
  omega

theorem toList_sign (year : Int) : (if year < 0 then "-" else "").toList = sign year := by
  unfold sign
  split <;> rfl

theorem length_parts (r : Reading) : r.parts.length = 25 := by
  simp [parts]

theorem parts_inj {other : Int} (h : r.ShownAt seconds) (h' : r'.ShownAt other)
    (hyear : r.InYears) (hyear' : r'.InYears) (heq : r.parts = r'.parts) :
    r.date.year.natAbs = r'.date.year.natAbs ∧ r.date.month = r'.date.month ∧
      r.date.day = r'.date.day ∧ r.hour = r'.hour ∧ r.minute = r'.minute ∧ r.second = r'.second := by
  obtain ⟨y, m, d, hr, mi, sec⟩ := h.fits hyear
  obtain ⟨y', m', d', hr', mi', sec'⟩ := h'.fits hyear'
  have hcut {width a b : Nat} {c : Char} {rest rest' : List Char}
      (h : Text.places width a ++ c :: rest = Text.places width b ++ c :: rest') :
      Text.places width a = Text.places width b ∧ rest = rest' := by
    obtain ⟨hplaces, hrest⟩ := List.append_inj h (by simp)
    exact ⟨hplaces, (List.cons.inj hrest).2⟩
  obtain ⟨hyears, heq⟩ := hcut heq
  obtain ⟨hmonths, heq⟩ := hcut heq
  obtain ⟨hdays, heq⟩ := hcut heq
  obtain ⟨hhours, heq⟩ := hcut heq
  obtain ⟨hminutes, heq⟩ := hcut heq
  obtain ⟨hseconds, -⟩ := List.append_inj heq (by simp)
  exact ⟨Text.places_inj y y' hyears, Text.places_inj m m' hmonths, Text.places_inj d d' hdays,
    Text.places_inj hr hr' hhours, Text.places_inj mi mi' hminutes,
    Text.places_inj sec sec' hseconds⟩

/-- Behind texts that end in no hyphen, a hyphen and a sign tell text and sign. -/
theorem sign_inj {front front' : List Char} (hfront : front.getLast? ≠ some '-')
    (hfront' : front'.getLast? ≠ some '-') {year year' : Int}
    (h : front ++ '-' :: sign year = front' ++ '-' :: sign year') :
    front = front' ∧ (year < 0 ↔ year' < 0) := by
  unfold sign at h
  split at h <;> split at h
  · next hneg hneg' => exact ⟨(List.append_inj' h rfl).1, iff_of_true hneg hneg'⟩
  · next hneg hpos =>
    have hrest : front ++ ['-'] = front' := by
      rw [List.append_cons] at h
      exact (List.append_inj' h rfl).1
    exact absurd (by rw [← hrest, List.getLast?_concat]) hfront'
  · next hpos hneg =>
    have hrest : front = front' ++ ['-'] := by
      rw [List.append_cons front'] at h
      exact (List.append_inj' h rfl).1
    exact absurd (by rw [hrest, List.getLast?_concat]) hfront
  · next hpos hpos' => exact ⟨(List.append_inj' h rfl).1, iff_of_false hpos hpos'⟩

/-- Behind texts that end in no hyphen, a hyphen and a reading tell text and reading. -/
theorem text_inj {front front' : List Char} (hfront : front.getLast? ≠ some '-')
    (hfront' : front'.getLast? ≠ some '-') {other : Int} (h : r.ShownAt seconds)
    (h' : r'.ShownAt other) (hyear : r.InYears) (hyear' : r'.InYears)
    (heq : front ++ '-' :: r.text = front' ++ '-' :: r'.text) : front = front' ∧ r = r' := by
  have hsplit : (front ++ '-' :: sign r.date.year) ++ r.parts =
      (front' ++ '-' :: sign r'.date.year) ++ r'.parts := by
    simpa only [text, List.append_assoc, List.cons_append] using heq
  obtain ⟨hsigned, hparts⟩ := List.append_inj' hsplit (by rw [length_parts, length_parts])
  obtain ⟨hfronts, hsign⟩ := sign_inj hfront hfront' hsigned
  obtain ⟨hyears, hmonth, hday, hhour, hminute, hsecond⟩ := parts_inj h h' hyear hyear' hparts
  refine ⟨hfronts, ?_⟩
  obtain ⟨⟨year, month, day⟩, hour, minute, second⟩ := r
  obtain ⟨⟨year', month', day'⟩, hour', minute', second'⟩ := r'
  simp only [Reading.mk.injEq, Date.mk.injEq]
  dsimp only at *
  omega

end Reading

namespace Instant

/-- What calendar and clock show at an instant in universal time. -/
def reading (t : Instant) : Reading :=
  ⟨Date.ofDays (t.seconds / 86400), (clock t.seconds).1, (clock t.seconds).2.1,
    (clock t.seconds).2.2⟩

theorem reading_shownAt (t : Instant) : t.reading.ShownAt t.seconds where
  hour := by
    simp only [reading, clock]
    omega
  minute := Nat.mod_lt _ (by decide)
  second := Nat.mod_lt _ (by decide)
  date := by
    refine ⟨t.seconds / 86400, Date.fallsOn_ofDays _, ?_⟩
    simp only [reading, clock]
    omega

theorem toList_stamp {t : Instant} (h : t.reading.InYears) : t.stamp.toList = t.reading.text := by
  obtain ⟨hyear, hmonth, hday, hhour, hminute, hsecond⟩ := t.reading_shownAt.fits h
  have hpair : 0 < 2 := by decide
  simp only [reading] at hyear hmonth hday hhour hminute hsecond
  simp only [stamp, Date.text, reading, Reading.text, Reading.parts, String.toList_append,
    Reading.toList_sign, Text.toList_padded (by decide : 0 < 4) hyear,
    Text.toList_padded hpair hmonth, Text.toList_padded hpair hday, Text.toList_padded hpair hhour,
    Text.toList_padded hpair hminute, Text.toList_padded hpair hsecond]
  simp

end Instant

end Wayfare
