import Wayfare.Proofs.Desk.Play
import Wayfare.Token.Exchange

/-!
How far a lifetime may reach. An exchange has no outcome exactly if it brings a usable token whose
expiry, a minute before the end of its lifetime, lies outside the calendar.
-/
namespace Wayfare

namespace Instant

/-- Whether the local date some seconds from an instant lies in the calendar. -/
def Reaches (t : Instant) (seconds : Int) : Prop :=
  firstSecond ≤ t.seconds + seconds + t.offset ∧ t.seconds + seconds + t.offset ≤ lastSecond

theorem later?_seconds (t : Instant) (n : Int) :
    t.later? (n * perSecond) = make? (t.seconds + n) t.nanos t.offset := by
  have hnanos : t.nanos < 1000000000 := t.nanos_lt
  have hquotient : (t.seconds * 1000000000 + t.nanos + n * 1000000000) / 1000000000 =
      t.seconds + n := by omega
  have hremainder : ((t.seconds * 1000000000 + t.nanos + n * 1000000000) % 1000000000).toNat =
      t.nanos := by omega
  simp only [later?, line, perSecond, Int.cast_ofNat_Int, hquotient, hremainder]

theorem later?_seconds_eq_none_iff (t : Instant) (n : Int) :
    t.later? (n * perSecond) = none ↔ ¬ t.Reaches n := by
  rw [later?_seconds, make?]
  by_cases h : t.Reaches n
  · have hrange : t.nanos < perSecond ∧ t.offset.natAbs ≤ maxOffset.natAbs ∧
        firstSecond ≤ t.seconds + n + t.offset ∧ t.seconds + n + t.offset ≤ lastSecond :=
      ⟨t.nanos_lt, t.offset_le, h⟩
    simp [hrange, h]
  · simp [t.nanos_lt, t.offset_le, h, show ¬ (_ ∧ _) from h]

end Instant

theorem AccessToken.issued?_eq_none_iff (value : String) (now : Instant) (seconds : Nat) :
    issued? value now (seconds * perSecond) = none ↔ ¬ now.Reaches (seconds - 60) := by
  have hmargin : (seconds : Int) * perSecond - safetyMargin = (seconds - 60) * perSecond := by
    simp only [safetyMargin, perSecond]
    omega
  rw [issued?, hmargin, Option.map_eq_none_iff, Instant.later?_seconds_eq_none_iff]

namespace Exchange

/-- A document that grants a token for some seconds. -/
structure Grants (j : Json) (seconds : Nat) : Prop where
  lifetime : lifetime? j = some seconds
  positive : 0 < seconds
  small : seconds < Nat.pow 2 63
  value : textOf j "access_token" ≠ ""

theorem grantOfToken_eq_none_iff {now : Instant} {j : Json} :
    grantOfToken now j = none ↔ ∃ seconds, Grants j seconds ∧ ¬ now.Reaches (seconds - 60) := by
  constructor
  · intro h
    simp only [grantOfToken] at h
    cases hlife : lifetime? j with
    | none => simp [hlife] at h
    | some seconds =>
      simp only [hlife] at h
      split at h
      · cases h
      · rename_i hsmall
        split at h
        · cases h
        · rename_i hpositive
          split at h
          · cases h
          · rename_i hvalue
            rw [Option.map_eq_none_iff, AccessToken.issued?_eq_none_iff] at h
            exact ⟨seconds, ⟨hlife, by omega, Nat.not_le.mp hsmall, by simpa using hvalue⟩, h⟩
  · rintro ⟨seconds, hgrants, hout⟩
    have hsmall : ¬ Nat.pow 2 63 ≤ seconds := Nat.not_le.mpr hgrants.small
    have hpositive : seconds ≠ 0 := Nat.ne_of_gt hgrants.positive
    simp [grantOfToken, hgrants.lifetime, hsmall, hpositive, hgrants.value,
      (AccessToken.issued?_eq_none_iff _ now seconds).mpr hout]

/-- A complete answer that grants a token, with an expiry outside the calendar. -/
structure OutOfReach (now : Instant) (a : Answer) : Prop where
  status : a.status = 200
  frame : frameFault? a = none
  grants : ∃ j seconds, tokenShape.readFirst a.body = .ok j ∧ Grants j seconds ∧
    ¬ now.Reaches (seconds - 60)

theorem grantOfAnswer_eq_none_iff {now : Instant} {a : Answer} :
    grantOfAnswer now a = none ↔ OutOfReach now a := by
  constructor
  · intro h
    unfold grantOfAnswer at h
    split at h
    · cases h
    · rename_i hstatus
      cases hframe : frameFault? a with
      | some message => simp [hframe] at h
      | none =>
        cases hread : tokenShape.readFirst a.body with
        | error f => simp [hframe, hread] at h
        | ok j =>
          simp only [hframe, hread] at h
          obtain ⟨seconds, hgrants, hout⟩ := grantOfToken_eq_none_iff.mp h
          exact ⟨Decidable.not_not.mp hstatus, hframe, j, seconds, hread, hgrants, hout⟩
  · rintro ⟨hstatus, hframe, j, seconds, hread, hgrants, hout⟩
    have hnone : grantOfToken now j = none :=
      grantOfToken_eq_none_iff.mpr ⟨seconds, hgrants, hout⟩
    simp [grantOfAnswer, hstatus, hframe, hread, hnone]

/-- An exchange has no outcome, neither token nor error, exactly if its request is sent and answered
in full, and the answer grants a token for a lifetime whose end, less a minute, is outside the
calendar at the instant of the answer. -/
theorem run_eq_none_iff (network : Network σ) (settings : Settings) (url : Url) (s : σ) :
    (run network settings url s).1 = none ↔
      url.wireFault? = none ∧ url.isReachable = true ∧
        ∃ a s', network.send (request settings url) s = (.ok a, s') ∧
          OutOfReach (network.clock s').1 a := by
  unfold run
  cases hwire : url.wireFault? with
  | some f => simp
  | none =>
    cases hreach : url.isReachable with
    | false => simp
    | true =>
      cases hsend : network.send (request settings url) s with
      | mk answer s' =>
        cases answer with
        | error f => simp
        | ok a =>
          simp only [grantOfAnswer_eq_none_iff, Bool.not_true, Bool.false_eq_true, if_false]
          constructor
          · intro hout
            exact ⟨trivial, trivial, a, s', rfl, hout⟩
          · rintro ⟨-, -, a', s'', hanswer, hout⟩
            obtain ⟨rfl, rfl⟩ : a = a' ∧ s' = s'' := by simpa using hanswer
            exact hout

/-- A network on which every request gets this answer, at the begin of 1970. -/
def answering (a : Answer) : Network Unit where
  send _ _ := (.ok a, ())
  clock _ := (Desk.epoch, ())

/-- A token for a million million seconds, more than thirty thousand years. -/
def longLived : Answer :=
  ⟨200, [], Text.utf8
    "\x7b\"access_token\":\"T1\",\"token_type\":\"Bearer\",\"expires_in\":1000000000000\x7d"⟩

def sampleSettings : Settings :=
  ⟨⟨"https://api.test", "id", ⟨"secret"⟩⟩, "app", defaultTimeout⟩

/-- The lifetime passes every check of the answer, and still the exchange has no outcome. -/
theorem no_outcome_for_long_lifetime :
    ∃ url, sampleSettings.credentials.tokenUrl = .ok url ∧
      (run (answering longLived) sampleSettings url ()).1 = none := by
  have h : (sampleSettings.credentials.tokenUrl.toOption.map fun url =>
      (run (answering longLived) sampleSettings url ()).1.isNone) = some true := by
    decide +kernel
  cases hurl : sampleSettings.credentials.tokenUrl with
  | error e =>
    rw [hurl] at h
    cases h
  | ok url =>
    rw [hurl] at h
    exact ⟨url, rfl, Option.isNone_iff_eq_none.mp (Option.some.inj h)⟩

end Exchange

end Wayfare
