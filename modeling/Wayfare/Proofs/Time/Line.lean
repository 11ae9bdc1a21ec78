import Wayfare.Time.Instant

/-!
The time line: an instant is its place there, in whole seconds and what is left of one, and its offset.
-/
namespace Wayfare.Instant

variable {t u : Instant} {time : Nanoseconds}

/-- Seconds and nanoseconds are the whole and the rest of the place on the time line. -/
theorem line_eq_iff {line : Nanoseconds} :
    t.line = line ↔ t.seconds = line / perSecond ∧ t.nanos = (line % perSecond).toNat := by
  have ht : t.nanos < 1000000000 := t.nanos_lt
  unfold Instant.line perSecond Nanoseconds
  omega

theorem make?_eq_some_iff {seconds offset : Int} {nanos : Nat} :
    make? seconds nanos offset = some t ↔
      t.seconds = seconds ∧ t.nanos = nanos ∧ t.offset = offset := by
  constructor
  · intro h
    unfold make? at h
    split at h
    · obtain rfl := Option.some.inj h
      exact ⟨rfl, rfl, rfl⟩
    · cases h
  · rintro ⟨rfl, rfl, rfl⟩
    exact dif_pos ⟨t.nanos_lt, t.offset_le, t.shown⟩

/-- The instant some time later is the one at that place of the time line and at the same offset; there
is none if no instant is there. -/
theorem later?_eq_some_iff :
    t.later? time = some u ↔ u.line = t.line + time ∧ u.offset = t.offset := by
  rw [later?, make?_eq_some_iff, line_eq_iff, and_assoc]

end Wayfare.Instant
