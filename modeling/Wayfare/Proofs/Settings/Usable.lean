import Wayfare.Client.Basic
import Wayfare.Proofs.Settings.Origin

/-!
Settings that pass their checks and still make no client. The base that was checked is not the text that
is used: with the path of the token endpoint behind it, a dangling base is no address any more.
-/
namespace Wayfare

namespace Settings

variable {d : Draft} {s : Settings}

theorem credentials_of_ofDraft (h : ofDraft d = .ok s) :
    Credentials.make (d.baseUrl.getD "") (d.clientId.getD "") (d.clientSecret.getD "") =
      .ok s.credentials := by
  simp only [ofDraft, bind, Except.bind] at h
  split at h
  · cases h
  next c hc =>
  split at h
  · cases h
  split at h
  · obtain rfl := Except.ok.inj h
    exact hc
  · cases h

theorem fetch_eq_ok {lookup : String → Option String} {name value : String}
    (h : fetch lookup name = .ok value) : lookup name = some value := by
  rw [fetch] at h
  split at h
  · next value' hvalue =>
    obtain rfl := Except.ok.inj h
    exact (Option.filter_eq_some_iff.mp hvalue).1
  · cases h

/-- The settings that variables hold are those of a draft with the base of its variable. -/
theorem exists_draft_of_ofLookup {lookup : String → Option String}
    (h : ofLookup lookup = .ok s) :
    ∃ d, ofDraft d = .ok s ∧ d.baseUrl = lookup baseUrlVariable := by
  simp only [ofLookup, bind, Except.bind] at h
  split at h
  · cases h
  next base hbase =>
  split at h
  · cases h
  split at h
  · cases h
  split at h
  · cases h
  exact ⟨_, h, (fetch_eq_ok hbase).symm⟩

/-- Settings of a base address, put together from a draft or from variables. -/
def MadeWith (base : String) (s : Settings) : Prop :=
  (∃ d, ofDraft d = .ok s ∧ d.baseUrl.getD "" = base) ∨
    ∃ lookup, ofLookup lookup = .ok s ∧ lookup baseUrlVariable = some base

theorem MadeWith.of_draft {base : String} (hs : ofDraft d = .ok s) (hbase : d.baseUrl = some base) :
    s.MadeWith base :=
  .inl ⟨d, hs, by rw [hbase, Option.getD_some]⟩

theorem MadeWith.exists_draft {base : String} (h : MadeWith base s) :
    ∃ d, ofDraft d = .ok s ∧ d.baseUrl.getD "" = base := by
  rcases h with hdraft | ⟨lookup, hs, hbase⟩
  · exact hdraft
  · obtain ⟨d, hd, hlookup⟩ := exists_draft_of_ofLookup hs
    exact ⟨d, hd, by rw [hlookup, hbase, Option.getD_some]⟩

end Settings

namespace Client

/-- A client of settings exists exactly where their base does not dangle; otherwise the address of the
token endpoint is at fault. -/
theorem usable_unless_dangling {base : String} {s : Settings} (h : s.MadeWith base) :
    (Url.isDangling base.toList = false → ∃ client, make s = .ok client ∧ client.settings = s) ∧
      (Url.isDangling base.toList = true → ∃ f, make s = .error (.badTokenEndpoint f)) := by
  obtain ⟨d, hd, rfl⟩ := h.exists_draft
  have hmake := Settings.credentials_of_ofDraft hd
  obtain ⟨u, hu⟩ := (Credentials.make_eq_ok hmake).2
  have hok := Url.isOk_extended hu
  rw [← Credentials.toList_endpoint hmake, ← Url.parse] at hok
  simp only [make, Credentials.tokenUrl]
  cases hparse : Url.parse (s.credentials.endpoint Credentials.tokenPath) with
  | error f =>
    have hdangling : Url.isDangling (d.baseUrl.getD "").toList = true := by
      simpa [hparse, Except.isOk, Except.toBool] using hok
    exact ⟨fun hsound => absurd (hsound.symm.trans hdangling) Bool.false_ne_true,
      fun _ => ⟨f, rfl⟩⟩
  | ok v =>
    have hsound : Url.isDangling (d.baseUrl.getD "").toList = false := by
      simpa [hparse, Except.isOk, Except.toBool] using hok
    exact ⟨fun _ => ⟨⟨s, v⟩, rfl, rfl⟩,
      fun hdangling => absurd (hsound.symm.trans hdangling) Bool.false_ne_true⟩

/-- A draft that is complete, with some base. -/
def sampleDraft (base : String) : Settings.Draft :=
  ⟨some base, some "id", some "secret", some "app", defaultTimeout⟩

/-- Blanks behind the path of a base do no harm. -/
theorem client_of_blank_behind_path :
    ∃ s client, s.MadeWith "https://api.test/base/ " ∧ make s = .ok client := by
  obtain ⟨s, hs⟩ : ∃ s, Settings.ofDraft (sampleDraft "https://api.test/base/ ") = .ok s :=
    ⟨⟨⟨"https://api.test/base/ ", "id", ⟨"secret"⟩⟩, "app", 60000⟩, by decide +kernel⟩
  have hsound : Url.isDangling "https://api.test/base/ ".toList = false := by decide +kernel
  have hmade := Settings.MadeWith.of_draft hs rfl
  obtain ⟨client, hclient, -⟩ := (usable_unless_dangling hmade).1 hsound
  exact ⟨s, client, hmade, hclient⟩

/-- A base of a host and a space passes every check, and no client can be made of it. -/
theorem no_client_of_blank_behind_host :
    ∃ s, s.MadeWith "http://h " ∧ make s = .error (.badTokenEndpoint .badDomain) := by
  have hs : Settings.ofDraft (sampleDraft "http://h ") =
      .ok ⟨⟨"http://h ", "id", ⟨"secret"⟩⟩, "app", 60000⟩ := by decide +kernel
  have hparse : Url.parse ("http://h " ++ Credentials.tokenPath) = .error .badDomain := by
    decide +kernel
  have hendpoint : Credentials.tokenUrl ⟨"http://h ", "id", ⟨"secret"⟩⟩ =
      .error (.badTokenEndpoint .badDomain) := congrArg (Except.mapError _) hparse
  exact ⟨_, .of_draft hs rfl, congrArg (Except.map _) hendpoint⟩

end Client

end Wayfare
