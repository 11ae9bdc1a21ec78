import Wayfare.Proofs.Client.Queries
import Wayfare.Proofs.Page.Links
import Wayfare.Proofs.Query.Offset
import Wayfare.Proofs.Url.Written

/-!
The offset on the wire. The address of a request for a page, taken as a link, asks for the offset of
that page.
-/
namespace Wayfare

/-- A link to an address that can be read asks for the first offset of its query. -/
theorem Page.offsetOfLink_text {u : Url} (h : u.Readable) {offset : String} {rest : List String}
    (hvalues : Query.valuesAt offsetKey u.pairs = offset :: rest) (hoffset : offset ≠ "") :
    offsetOfLink u.text = some offset := by
  obtain ⟨again, hagain, hquery⟩ := h.resolve_text linkBase
  have hpairs : again.pairs = u.pairs := by
    rw [Url.pairs, hquery, Url.pairs]
  rw [offsetOfLink, hagain]
  dsimp only
  rw [find?_offsetKey, hpairs, firstOffset, hvalues, List.head?_cons, Option.filter_some,
    if_pos (by simpa using hoffset)]

namespace Client

variable {σ α : Type} [Body α] {settings : Settings} {verb : Verb} {path : String} {token : Secret}
  {now : Instant} {r : Request}

/-- The address of a request with pairs can be read again, and asks for the pairs. -/
theorem readable_of_request? {pairs : List (String × String)}
    (hbase : Url.Plain settings.credentials.baseUrl) (hpath : Url.Plain path)
    (h : request? settings verb path (.query pairs) token now = some r) :
    r.url.Readable ∧ r.url.pairs = pairs := by
  obtain ⟨v, bare, hv, hbare, hreachable, hurl⟩ := url_of_request? h
  have hweb : Url.familyOf v.scheme = .web := by
    rcases hbare with rfl | rfl <;> exact Url.familyOf_of_isReachable hreachable
  constructor
  · rw [hurl]
    exact Url.readable_withPairs hv hbare hreachable (query_of_parse hbase hpath hv hweb) pairs
  · rw [Url.pairs, query_of_request? hbase hpath h]
    by_cases hnone : pairs = []
    · subst hnone
      rfl
    · rw [if_neg hnone, Option.getD_some, Url.Form.decode_encode]

/-- The address of what a call sends for a page, with a verb that uses the query, is a link to that
page, also where a parameter has the key of the offset as its own name. Neither the base nor the path
may begin a query of their own. -/
theorem sent_offset_reads_back (client : Client) (network : Network σ)
    (ask : Acquisition (σ × List Sent)) (kind : CallKind) {verb : Verb} {path : String}
    {params : Json} {offset : String} (session : Session (σ × List Sent))
    (hverb : verb.usesQuery = true) (hparams : params.WellFormed) (hoffset : offset ≠ "")
    (hbase : Url.Plain client.settings.credentials.baseUrl) (hpath : Url.Plain path) :
    let done : Done (σ × List Sent) (Response α) := client.dispatch network.recorded ask kind
      ⟨verb.method, path, Page.withOffset params offset⟩ session
    ∃ sent, done.session.record = (ask session).session.record ++ sent ∧ ∀ s ∈ sent,
      Page.offsetOfLink s.request.url.text = some offset := by
  intro done
  have conducted : Conducted client.settings ask
      ⟨verb.method, path, Page.withOffset params offset⟩ session done :=
    dispatch_conducted client network ask kind _ session
  obtain ⟨sent, pairs, hrecord, hpairs, hsent⟩ :=
    conducted.exists_query hverb (.inr ⟨_, rfl⟩)
  obtain ⟨pairs', hpairs', hvalues⟩ := Query.exists_encode_withOffset hparams offset
  obtain rfl : pairs = pairs' := Except.ok.inj (hpairs.symm.trans hpairs')
  refine ⟨sent, hrecord, fun s hs => ?_⟩
  obtain ⟨token, now, hrequest⟩ := hsent s hs
  obtain ⟨hreadable, hread⟩ := readable_of_request? hbase hpath hrequest
  rw [← hread] at hvalues
  exact Page.offsetOfLink_text hreadable hvalues hoffset

/-- Parameters with an offset of their own, and with its key as a name. -/
def pagedParams : Json :=
  .object [("page", .object [("limit", .ofNat 10), ("offset", .string "5")]),
    ("page[offset]", .string "0")]

theorem wellFormed_pagedParams : pagedParams.WellFormed := by
  simp only [pagedParams, Json.WellFormed, Json.allFieldsWellFormed, Fields.Ordered, Fields.names,
    Json.ofNat]
  decide

def pagedCall : Done (Nat × List Sent) (Response Json) :=
  sampleClient.dispatch linking.recorded sampleToken .page
    ⟨Verb.get.method, "/items", Page.withOffset pagedParams "é+&"⟩ ⟨{}, 0, []⟩

theorem paged_offset_reads_back :
    ∃ s : Sent, pagedCall.session.record = [s] ∧
      s.request.url.text = "https://api.test/items?page%5Blimit%5D=10" ++
        "&page%5Boffset%5D=%C3%A9%2B%26&page%5Boffset%5D=0" ∧
      Page.offsetOfLink s.request.url.text = some "é+&" := by
  obtain ⟨sent, hrecord, hsent⟩ := sent_offset_reads_back (α := Json) sampleClient linking
    sampleToken .page ⟨{}, 0, []⟩ (show Verb.get.usesQuery = true from rfl) wellFormed_pagedParams
    (show "é+&" ≠ "" by decide) ⟨by decide, by decide⟩
    (show Url.Plain "/items" from ⟨by decide, by decide⟩)
  have htexts : pagedCall.session.record.map (·.request.url.text) =
      ["https://api.test/items?page%5Blimit%5D=10" ++
        "&page%5Boffset%5D=%C3%A9%2B%26&page%5Boffset%5D=0"] := by
    decide +kernel
  obtain ⟨s, hone, htext⟩ := List.map_eq_singleton_iff.mp htexts
  obtain rfl : [s] = sent := hone.symm.trans (hrecord.trans (List.nil_append sent))
  exact ⟨s, hone, htext, hsent s (List.mem_singleton_self s)⟩

end Client

end Wayfare
