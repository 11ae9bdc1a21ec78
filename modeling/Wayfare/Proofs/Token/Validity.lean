import Wayfare.Proofs.Time.Line
import Wayfare.Token.Access

/-!
When a token is valid: up to a minute before the end of its lifetime, to the nanosecond and whatever
the offsets are at which it was issued and is looked at.
-/
namespace Wayfare.AccessToken

variable {value : String} {issuedAt : Instant} {lifetime : Nanoseconds} {token : AccessToken}

theorem issued?_eq_some_iff :
    issued? value issuedAt lifetime = some token ↔
      token.value = ⟨value⟩ ∧ token.issuedAt = issuedAt ∧
        token.expiresAt.line + safetyMargin = issuedAt.line + lifetime ∧
        token.expiresAt.offset = issuedAt.offset := by
  obtain ⟨shown, start, stop⟩ := token
  have hline : stop.line = issuedAt.line + (lifetime - safetyMargin) ↔
      stop.line + safetyMargin = issuedAt.line + lifetime := by
    rw [← Int.add_sub_assoc, eq_comm, Int.sub_eq_iff_eq_add, eq_comm]
  simp only [issued?, Option.map_eq_some_iff, Instant.later?_eq_some_iff, mk.injEq, ← hline]
  constructor
  · rintro ⟨_, hstop, rfl, rfl, rfl⟩
    exact ⟨rfl, rfl, hstop⟩
  · rintro ⟨rfl, rfl, hstop⟩
    exact ⟨stop, hstop, rfl, rfl, rfl⟩

theorem validAt_iff {now : Instant} :
    token.validAt now = true ↔ token.value.reveal ≠ "" ∧ now.line < token.expiresAt.line := by
  simp [validAt, Instant.before, Secret.isEmpty]

theorem validAt_of_le {t u : Instant} (h : t.line ≤ u.line) (hv : token.validAt u) :
    token.validAt t := by
  rw [validAt_iff] at hv ⊢
  exact ⟨hv.1, Int.lt_of_le_of_lt h hv.2⟩

/-- A token is valid exactly if it is not empty and its lifetime lasts for more than a minute from then,
in nanoseconds of the time line. So it was valid at all times before, and a token that is to live for a
minute at most is not valid at any time from its issue on. -/
theorem valid_until_last_minute (h : issued? value issuedAt lifetime = some token) :
    (∀ now : Instant, token.validAt now = true ↔
      value ≠ "" ∧ now.line + 60 * perSecond < issuedAt.line + lifetime) ∧
    (∀ earlier now : Instant, earlier.line ≤ now.line → token.validAt now = true →
      token.validAt earlier = true) ∧
    (lifetime ≤ 60 * perSecond → ∀ now : Instant, issuedAt.line ≤ now.line →
      token.validAt now = false) := by
  obtain ⟨hvalue, -, hexpiry, -⟩ := issued?_eq_some_iff.mp h
  have hvalid (now : Instant) : token.validAt now = true ↔
      value ≠ "" ∧ now.line + 60 * perSecond < issuedAt.line + lifetime := by
    rw [validAt_iff, hvalue, ← hexpiry, safetyMargin, Int.add_lt_add_iff_right]
  refine ⟨hvalid, fun _ _ hle hv => validAt_of_le hle hv, fun hshort now hissued => ?_⟩
  rw [Bool.eq_false_iff, Ne, hvalid]
  rintro ⟨-, hlate⟩
  have hend : issuedAt.line + lifetime ≤ now.line + 60 * perSecond := Int.add_le_add hissued hshort
  exact Int.not_le.mpr hlate hend

/-- A token that is issued a nanosecond before the full second, and is to live for a nanosecond less than
61 seconds: it is valid for one nanosecond less than a second, as seen at other offsets. -/
theorem valid_until_last_minute_across_second :
    ∃ token, issued? "abc" ⟨999, 999999999, 5400, by decide, by decide, by decide⟩
        (61 * perSecond - 1) = some token ∧
      token.validAt ⟨1000, 999999997, -3600, by decide, by decide, by decide⟩ = true ∧
      token.validAt ⟨1000, 999999998, 93599, by decide, by decide, by decide⟩ = false := by
  have h : issued? "abc" ⟨999, 999999999, 5400, by decide, by decide, by decide⟩
      (61 * perSecond - 1) = some ⟨⟨"abc"⟩, ⟨999, 999999999, 5400, by decide, by decide, by decide⟩,
        ⟨1000, 999999998, 5400, by decide, by decide, by decide⟩⟩ := by
    decide +kernel
  obtain ⟨hvalid, -, -⟩ := valid_until_last_minute h
  refine ⟨_, h, (hvalid _).mpr ⟨by decide, by decide⟩, ?_⟩
  rw [Bool.eq_false_iff, Ne, hvalid]
  decide

end Wayfare.AccessToken
