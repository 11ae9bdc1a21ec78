import Wayfare.Client.Catalogue
import Wayfare.Proofs.Url.Origin

/-!
Where secrets go. Every address that is made of credentials and a path has the scheme, the host and the
port of the base address, and so has every request that carries a token or the client secret.
-/
namespace Wayfare

/-- The scheme, the host and the port. -/
def Url.origin (u : Url) : List Char × Option (Url.Host × Option Nat) :=
  (u.scheme, u.authority.map fun a => (a.host, a.port))

namespace Credentials

variable {base id secret : String} {c : Credentials} {u v : Url}

theorem required_eq_ok {field value value' : String} (h : required field value = .ok value') :
    value' = value := by
  rw [required] at h
  split at h
  · cases h
  · exact (Except.ok.inj h).symm

theorem make_eq_ok (h : make base id secret = .ok c) :
    c.baseUrl = dropEndSlashes base ∧ ∃ u, Url.parse base = .ok u := by
  simp only [make, bind, Except.bind] at h
  split at h
  · cases h
  next base' hbase =>
  obtain rfl := required_eq_ok hbase
  split at h
  · cases h
  split at h
  · cases h
  split at h
  · cases h
  next u hu =>
  exact (Except.ok.inj h) ▸ ⟨rfl, u, hu⟩

theorem toList_endpoint (h : make base id secret = .ok c) (path : String) :
    (c.endpoint path).toList = Url.dropSlashes base.toList ++ path.toList := by
  rw [endpoint, String.toList_append, (make_eq_ok h).1, Url.toList_dropEndSlashes]

theorem origin_endpoint (hc : make base id secret = .ok c) (hu : Url.parse base = .ok u)
    (hweb : Url.familyOf u.scheme = .web) {path : String} (hpath : path.toList.head? = some '/')
    (hv : Url.parse (c.endpoint path) = .ok v) : v.origin = u.origin := by
  rw [Url.parse, toList_endpoint hc] at hv
  obtain ⟨hscheme, hauthority⟩ := Url.origin_extended hu hweb hpath hv
  rw [Url.origin, hscheme, hauthority, Url.origin]

end Credentials

/-! ## Paths -/

theorem CollectionOp.head?_path (op : CollectionOp) : op.path.toList.head? = some '/' := by
  cases op <;> decide

theorem ItemOp.head?_path {op : ItemOp} {id path : String} (h : op.path id = .ok path) :
    path.toList.head? = some '/' := by
  rw [ItemOp.path] at h
  split at h
  · cases h
  · obtain rfl := Except.ok.inj h
    cases op <;> simp [ItemOp.collection, flightOrdersPath, locationsPath]

/-! ## Requests -/

theorem Url.origin_onWire (u : Url) : u.onWire.origin = u.origin :=
  rfl

theorem Request.origin_of_to? {method : Method} {address : String} {timeout : Nat} {r : Request}
    (h : Request.to? method address timeout = some r) :
    ∃ v, Url.parse address = .ok v ∧ r.url.origin = v.origin := by
  simp only [Request.to?] at h
  split at h
  · cases h
  next v hv =>
  split at h
  · cases h
  refine ⟨v, hv, ?_⟩
  split at h
  · obtain rfl := Option.some.inj h
    simp only [Url.origin, Url.withoutUser, Option.map_map]
    rfl
  · obtain rfl := Option.some.inj h
    rfl

theorem Request.url_of_withHeader? {r r' : Request} {name value : String}
    (h : r.withHeader? name value = some r') : r'.url = r.url := by
  rw [Request.withHeader?] at h
  split at h
  · obtain rfl := Option.some.inj h
    rfl
  · cases h

theorem Client.Cargo.origin_load (cargo : Client.Cargo) (r : Request) :
    (cargo.load r).url.origin = r.url.origin := by
  cases cargo <;> rfl

theorem Client.origin_of_request? {settings : Settings} {verb : Verb} {path : String}
    {cargo : Client.Cargo} {token : Secret} {now : Instant} {r : Request}
    (h : request? settings verb path cargo token now = some r) :
    ∃ v, Url.parse (settings.credentials.endpoint path) = .ok v ∧ r.url.origin = v.origin := by
  simp only [request?, headers, List.foldlM_cons, List.foldlM_nil, Option.bind_eq_bind,
    Option.bind_eq_some_iff, Option.pure_def, Option.some.injEq] at h
  obtain ⟨bare, hbare, full, ⟨referred, hreferred, authorized, hauthorized, rfl⟩, h⟩ := h
  obtain ⟨-, hr⟩ := Option.ite_none_right_eq_some.mp h
  obtain rfl := Option.some.inj hr
  obtain ⟨v, hv, horigin⟩ := Request.origin_of_to? hbare
  refine ⟨v, hv, ?_⟩
  calc (cargo.load authorized).url.onWire.origin
      = (cargo.load authorized).url.origin := Url.origin_onWire _
    _ = authorized.url.origin := cargo.origin_load authorized
    _ = bare.url.origin := by
        rw [Request.url_of_withHeader? hauthorized, Request.url_of_withHeader? hreferred]
    _ = v.origin := horigin

/-! ## Credentials stay at the origin -/

namespace Credentials

variable {base id secret : String} {c : Credentials} {u : Url}

theorem origin_kept (hc : make base id secret = .ok c) (hu : Url.parse base = .ok u)
    (hscheme : u.scheme = "http".toList ∨ u.scheme = "https".toList) :
    (∀ (rest : String) (v : Url), Url.parse (c.endpoint ("/" ++ rest)) = .ok v →
      v.origin = u.origin) ∧
    (∀ v, c.tokenUrl = .ok v → v.origin = u.origin) ∧
    (∀ (op : CollectionOp) (v : Url), Url.parse (c.endpoint op.path) = .ok v →
      v.origin = u.origin) ∧
    (∀ (op : ItemOp) (item path : String) (v : Url), op.path item = .ok path →
      Url.parse (c.endpoint path) = .ok v → v.origin = u.origin) ∧
    (∀ (settings : Settings) (client : Client), settings.credentials = c →
      Client.make settings = .ok client →
      (Exchange.request settings client.tokenUrl).url.origin = u.origin) ∧
    (∀ (settings : Settings) (verb : Verb) (rest : String) (cargo : Client.Cargo) (token : Secret)
      (now : Instant) (r : Request), settings.credentials = c →
      Client.request? settings verb ("/" ++ rest) cargo token now = some r →
      r.url.origin = u.origin) := by
  have hweb : Url.familyOf u.scheme = .web := by
    rcases hscheme with h | h <;> rw [h] <;> decide
  have hslash : ∀ rest : String, ("/" ++ rest).toList.head? = some '/' := fun rest => by simp
  have htoken : ∀ v, c.tokenUrl = .ok v → v.origin = u.origin := by
    intro v hv
    rw [tokenUrl] at hv
    cases hparse : Url.parse (c.endpoint tokenPath) with
    | error f =>
      rw [hparse] at hv
      cases hv
    | ok v' =>
      rw [hparse] at hv
      obtain rfl := Except.ok.inj hv
      exact origin_endpoint hc hu hweb rfl hparse
  refine ⟨fun rest v hv => origin_endpoint hc hu hweb (hslash rest) hv, htoken,
    fun op v hv => origin_endpoint hc hu hweb op.head?_path hv,
    fun op item path v hpath hv => origin_endpoint hc hu hweb (ItemOp.head?_path hpath) hv, ?_, ?_⟩
  · rintro settings client rfl hclient
    rw [Client.make] at hclient
    cases hurl : settings.credentials.tokenUrl with
    | error e =>
      rw [hurl] at hclient
      cases hclient
    | ok v =>
      rw [hurl] at hclient
      obtain rfl := Except.ok.inj hclient
      exact htoken v hurl
  · rintro settings verb rest cargo token now r rfl hr
    obtain ⟨v, hv, horigin⟩ := Client.origin_of_request? hr
    exact horigin.trans (origin_endpoint hc hu hweb (hslash rest) hv)

/-- A user and a port in the base, and a path that looks like another host. -/
theorem origin_kept_for_odd_path :
    ∃ c v, make "https://user@api.test:8443//" "id" "secret" = .ok c ∧
      Url.parse (c.endpoint "/\\evil.test:80/@evil.test") = .ok v ∧
      v.origin = ("https".toList, some (.name "api.test".toList, some 8443)) := by
  have hmake : make "https://user@api.test:8443//" "id" "secret" =
      .ok ⟨"https://user@api.test:8443", "id", ⟨"secret"⟩⟩ := by decide +kernel
  obtain ⟨u, hu⟩ := (make_eq_ok hmake).2
  have horigin : (Url.parse "https://user@api.test:8443//").toOption.map Url.origin =
      some ("https".toList, some (.name "api.test".toList, some 8443)) := by decide +kernel
  have hu' : u.origin = ("https".toList, some (.name "api.test".toList, some 8443)) := by
    rw [hu] at horigin
    exact Option.some.inj horigin
  obtain ⟨v, hv⟩ := exists_of_isOk (show (Url.parse
      ("https://user@api.test:8443" ++ "/\\evil.test:80/@evil.test")).isOk = true by decide +kernel)
  have hkept := (origin_kept hmake hu (.inr (congrArg Prod.fst hu'))).1
  exact ⟨_, v, hmake, hv, (hkept "\\evil.test:80/@evil.test" v hv).trans hu'⟩

end Credentials

end Wayfare
