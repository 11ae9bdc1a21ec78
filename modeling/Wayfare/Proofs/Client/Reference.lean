import Wayfare.Client.Headers
import Wayfare.Proofs.Settings.Usable
import Wayfare.Proofs.Text.Utf8
import Wayfare.Proofs.Time.Line
import Wayfare.Proofs.Time.Stamp

/-!
The reference of a call. It can be sent as a header, and it tells the application and the second of the
call, also where the name of the application looks like a part of it.
-/
namespace Wayfare

/-! ## Instants in universal time -/

namespace Instant

variable {t : Instant}

/-- Whether the date in universal time lies in the years -9999 to 9999. -/
def InYears (t : Instant) : Prop :=
  ∃ r : Reading, r.ShownAt t.seconds ∧ r.InYears

theorem inYears_reading (h : t.InYears) : t.reading.InYears := by
  obtain ⟨r, hshown, hyears⟩ := h
  exact hshown.unique t.reading_shownAt ▸ hyears

theorem inYears_iff : t.InYears ↔ firstSecond ≤ t.seconds ∧ t.seconds ≤ lastSecond := by
  rw [← t.reading_shownAt.inYears_iff]
  exact ⟨inYears_reading, fun h => ⟨_, t.reading_shownAt, h⟩⟩

theorem inUtc?_eq_none_iff : t.inUtc? = none ↔ ¬ t.InYears := by
  simp [inUtc?, make?, inYears_iff, t.nanos_lt]

theorem seconds_of_inUtc? {u : Instant} (h : t.inUtc? = some u) : u.seconds = t.seconds :=
  (make?_eq_some_iff.mp h).1

end Instant

/-! ## Header texts -/

namespace Text

/-- The characters that print, of ASCII. -/
def isPlain (c : Char) : Bool :=
  0x20 ≤ c.toNat && c.toNat < 0x7F

theorem all_isHeaderByte_of_isPlain {c : Char} (h : isPlain c = true) :
    (String.utf8EncodeChar c).all isHeaderByte = true := by
  have hlow : c.toNat < 0x80 := by
    simp only [isPlain, Bool.and_eq_true, decide_eq_true_eq] at h
    omega
  exact ascii_forall (p := fun c => isPlain c = true →
    (String.utf8EncodeChar c).all isHeaderByte = true) (by decide) hlow h

theorem isHeaderText_of_isPlain {s : String} (h : s.toList.all isPlain = true) :
    isHeaderText s = true := by
  rw [List.all_eq_true] at h
  rw [isHeaderText, utf8, encodeUtf8, List.all_flatMap, List.all_eq_true]
  exact fun c hc => all_isHeaderByte_of_isPlain (h c hc)

theorem isHeaderText_append (s t : String) :
    isHeaderText (s ++ t) = (isHeaderText s && isHeaderText t) := by
  simp only [isHeaderText, utf8, String.toList_append, encodeUtf8_append, List.all_append]

theorem all_isPlain_places (width n : Nat) : (places width n).all isPlain = true := by
  have hdigit : ∀ d < 10, isPlain d.digitChar = true := by decide
  induction width generalizing n with
  | zero => rfl
  | succ width ih =>
    rw [places, List.all_append, ih, List.all_cons, hdigit _ (Nat.mod_lt n (by decide))]
    rfl

end Text

theorem Reading.all_isPlain_text (r : Reading) : r.text.all Text.isPlain = true := by
  have hsign : (sign r.date.year).all Text.isPlain = true := by
    unfold sign
    split <;> decide
  have hmarks : Text.isPlain '-' ∧ Text.isPlain 'T' ∧ Text.isPlain ':' ∧
      "+00:00".toList.all Text.isPlain = true := by
    decide
  simp only [text, parts, List.all_append, List.all_cons, hsign, hmarks, Text.all_isPlain_places,
    Bool.and_self]

theorem Settings.isHeaderText_of_ofDraft {d : Draft} {s : Settings} (h : ofDraft d = .ok s) :
    Text.isHeaderText s.applicationName = true := by
  simp only [ofDraft, bind, Except.bind] at h
  split at h
  · cases h
  split at h
  · cases h
  split at h
  · next hname =>
    obtain rfl := Except.ok.inj h
    exact hname
  · cases h

/-! ## References -/

namespace Client

variable {applicationName : String} {token : Secret} {now : Instant}

theorem headersAt?_isSome_iff : (headersAt? applicationName token now).isSome ↔ now.InYears := by
  rw [headersAt?, Option.isSome_map, Option.isSome_iff_ne_none, Ne, Instant.inUtc?_eq_none_iff,
    not_not]

/-- At an instant in universal time these are the headers that a call sends. -/
theorem headersAt?_of_utc (h : now.offset = 0) :
    headersAt? applicationName token now = some (headers applicationName token now) := by
  obtain ⟨seconds, nanos, offset, hnanos, hoffset, hshown⟩ := now
  obtain rfl : offset = 0 := h
  simp only [headersAt?, Instant.inUtc?, Instant.make?, hnanos, hoffset, hshown, and_self,
    dif_pos, Option.map_some]

/-- The reference among the headers of a call. -/
def referenceAt? (applicationName : String) (token : Secret) (now : Instant) : Option String :=
  (headersAt? applicationName token now).bind (·.lookup referenceHeader)

theorem referenceAt?_eq_some (applicationName : String) (token : Secret) (h : now.InYears) :
    ∃ reference, referenceAt? applicationName token now = some reference ∧
      reference.toList = applicationName.toList ++ "-PDT-".toList ++ now.reading.text := by
  have hsome : (headersAt? applicationName token now).isSome := headersAt?_isSome_iff.mpr h
  obtain ⟨sent, hsent⟩ := Option.isSome_iff_exists.mp hsome
  obtain ⟨u, hu, -⟩ := Option.map_eq_some_iff.mp hsent
  have hseconds := Instant.seconds_of_inUtc? hu
  have hreading : u.reading = now.reading := by
    simp only [Instant.reading, hseconds]
  refine ⟨reference applicationName u, ?_, ?_⟩
  · simp [referenceAt?, headersAt?, hu, headers]
  · have hyears : u.reading.InYears := hreading ▸ Instant.inYears_reading h
    rw [reference, String.toList_append, String.toList_append, Instant.toList_stamp hyears,
      hreading]

/-- A name and a reading, by the reference that is made of them. -/
theorem reference_inj {name name' : List Char} {r r' : Reading} {seconds other : Int}
    (h : r.ShownAt seconds) (h' : r'.ShownAt other) (hyears : r.InYears) (hyears' : r'.InYears)
    (heq : name ++ "-PDT-".toList ++ r.text = name' ++ "-PDT-".toList ++ r'.text) :
    name = name' ∧ r = r' := by
  have hmark : "-PDT-".toList = "-PDT".toList ++ ['-'] := rfl
  have hlast (name : List Char) : (name ++ "-PDT".toList).getLast? ≠ some '-' := by
    simp
  obtain ⟨hfront, hreading⟩ := Reading.text_inj (hlast name) (hlast name') h h' hyears hyears'
    (by simpa only [hmark, List.append_assoc, List.singleton_append] using heq)
  exact ⟨List.append_cancel_right hfront, hreading⟩

/-- A call that is placed at any offset, in the years -9999 to 9999 of universal time, has headers. Its
reference can be sent, and it is the name of the application and what calendar and clock show then in
universal time. Two calls, also under names that hold parts of a reference, have the same reference
exactly if the names are the same and the calls are placed in the same second. -/
theorem reference_tells_call {d : Settings.Draft} {s : Settings} (hs : Settings.ofDraft d = .ok s) :
    (∀ (token : Secret) (now : Instant), now.InYears → ∃ sent reference, ∃ r : Reading,
      headersAt? s.applicationName token now = some sent ∧
        sent.lookup referenceHeader = some reference ∧ Text.isHeaderText reference = true ∧
        r.ShownAt now.seconds ∧
        reference.toList = s.applicationName.toList ++ "-PDT-".toList ++ r.text) ∧
    (∀ (other : String) (token token' : Secret) (now now' : Instant), now.InYears → now'.InYears →
      (referenceAt? s.applicationName token now = referenceAt? other token' now' ↔
        s.applicationName = other ∧ now.seconds = now'.seconds)) := by
  constructor
  · intro token now hyears
    obtain ⟨reference, hreference, htext⟩ :=
      referenceAt?_eq_some s.applicationName token hyears
    obtain ⟨sent, hsent, hlookup⟩ := Option.bind_eq_some_iff.mp hreference
    refine ⟨sent, reference, now.reading, hsent, hlookup, ?_, now.reading_shownAt, htext⟩
    have hstring : reference =
        s.applicationName ++ "-PDT-" ++ String.ofList now.reading.text := by
      rw [← String.toList_inj, htext]
      simp only [String.toList_append, String.toList_ofList]
    have hplain : (String.ofList now.reading.text).toList.all Text.isPlain = true := by
      rw [String.toList_ofList]
      exact now.reading.all_isPlain_text
    rw [hstring, Text.isHeaderText_append, Text.isHeaderText_append,
      Settings.isHeaderText_of_ofDraft hs, Text.isHeaderText_of_isPlain hplain]
    decide
  · intro other token token' now now' hyears hyears'
    obtain ⟨reference, hreference, htext⟩ :=
      referenceAt?_eq_some s.applicationName token hyears
    obtain ⟨reference', hreference', htext'⟩ :=
      referenceAt?_eq_some other token' hyears'
    rw [hreference, hreference', Option.some_inj, ← String.toList_inj, htext, htext']
    constructor
    · intro heq
      obtain ⟨hname, hreading⟩ := reference_inj now.reading_shownAt now'.reading_shownAt
        (Instant.inYears_reading hyears) (Instant.inYears_reading hyears') heq
      exact ⟨String.toList_inj.mp hname,
        now.reading_shownAt.second_unique (hreading ▸ now'.reading_shownAt)⟩
    · rintro ⟨hname, hseconds⟩
      have hreading : now.reading = now'.reading :=
        now.reading_shownAt.unique (hseconds ▸ now'.reading_shownAt)
      rw [hname, hreading]

/-- In the second before the year 0, an hour ahead of universal time and far behind it, under a name that
itself looks like a reference. -/
theorem reference_tells_call_before_year_zero :
    ∃ s, Settings.ofDraft ⟨some "https://api.test", some "id", some "secret",
        some "app-PDT-0000-01-01T00:00:00+00:00", defaultTimeout⟩ = .ok s ∧
      referenceAt? s.applicationName ⟨"token"⟩
        ⟨-62167219201, 0, 3600, by decide, by decide, by decide⟩ =
          some "app-PDT-0000-01-01T00:00:00+00:00-PDT--0001-12-31T23:59:59+00:00" ∧
      referenceAt? s.applicationName ⟨"token"⟩
        ⟨-62167219201, 0, 3600, by decide, by decide, by decide⟩ =
          referenceAt? "app-PDT-0000-01-01T00:00:00+00:00" ⟨"other"⟩
            ⟨-62167219201, 999999999, -93599, by decide, by decide, by decide⟩ ∧
      ∃ sent reference, headersAt? s.applicationName ⟨"token"⟩
          ⟨-62167219201, 0, 3600, by decide, by decide, by decide⟩ = some sent ∧
        sent.lookup referenceHeader = some reference ∧ Text.isHeaderText reference = true := by
  have hs : Settings.ofDraft ⟨some "https://api.test", some "id", some "secret",
      some "app-PDT-0000-01-01T00:00:00+00:00", defaultTimeout⟩ =
        .ok ⟨⟨"https://api.test", "id", ⟨"secret"⟩⟩, "app-PDT-0000-01-01T00:00:00+00:00",
          defaultTimeout⟩ := by
    decide +kernel
  obtain ⟨hsent, hsame⟩ := reference_tells_call hs
  let ahead : Instant := ⟨-62167219201, 0, 3600, by decide, by decide, by decide⟩
  let behind : Instant := ⟨-62167219201, 999999999, -93599, by decide, by decide, by decide⟩
  have hahead : ahead.InYears := Instant.inYears_iff.mpr (by decide)
  have hbehind : behind.InYears := Instant.inYears_iff.mpr (by decide)
  obtain ⟨sent, reference, _, hheaders, hlookup, htext, -⟩ := hsent ⟨"token"⟩ ahead hahead
  exact ⟨_, hs, by decide +kernel,
    (hsame _ ⟨"token"⟩ ⟨"other"⟩ ahead behind hahead hbehind).mpr ⟨rfl, rfl⟩,
    sent, reference, hheaders, hlookup, htext⟩

end Client

end Wayfare
