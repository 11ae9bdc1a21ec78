import Wayfare.Network
import Wayfare.Proofs.Url.Form
import Wayfare.Proofs.Url.Origin

/-!
Addresses of the web: what stands in one that was read.
-/
namespace Wayfare.Url

variable {cs : List Char} {u : Url}

theorem familyOf_http {scheme : List Char}
    (h : scheme = "http".toList ∨ scheme = "https".toList) : familyOf scheme = .web := by
  rcases h with rfl | rfl <;> decide

theorem familyOf_of_isReachable (h : u.isReachable = true) : familyOf u.scheme = .web := by
  rw [isReachable, Bool.or_eq_true, beq_iff_eq, beq_iff_eq] at h
  exact familyOf_http h

theorem ofAuthority_eq_ok_iff {scheme text : List Char} {parts : Parts} :
    ofAuthority scheme parts text = .ok u ↔ ∃ authority begin,
      readAuthority (familyOf scheme) (defaultPort? scheme)
          ((text.dropWhile (!(familyOf scheme).isSlash ·)).isEmpty && !parts.hasTail)
          (text.takeWhile (!(familyOf scheme).isSlash ·)) = .ok (authority, begin) ∧
        u = ⟨scheme, some authority,
          .segments (pathOfText (familyOf scheme)
            (begin ++ text.dropWhile (!(familyOf scheme).isSlash ·))),
          parts.writtenQuery (familyOf scheme), parts.writtenFragment⟩ := by
  simp only [ofAuthority]
  split
  · next h => simp [h]
  · next authority begin h =>
    rw [h]
    constructor
    · intro hu
      exact ⟨authority, begin, rfl, (Except.ok.inj hu).symm⟩
    · rintro ⟨authority', begin', hread, rfl⟩
      obtain ⟨rfl, rfl⟩ := Prod.mk.inj (Except.ok.inj hread)
      rfl

/-- What an address of the web is read from: behind its scheme the text of an authority, a path, and
what follows the first question mark. -/
theorem web_eq_ok (hu : ofText none cs = .ok u) (hweb : familyOf u.scheme = .web) :
    ∃ whole front begin pathText authority,
      readAuthority .web (defaultPort? u.scheme) whole front = .ok (authority, begin) ∧
      u.authority = some authority ∧ u.path = .segments (pathOfText .web pathText) ∧
      u.query = (Parts.ofText (clean cs)).writtenQuery .web := by
  obtain ⟨rest, -, hscheme⟩ := ofText_eq_ok hu
  simp only [ofScheme, hweb, Option.filter_none] at hscheme
  obtain ⟨authority, begin, hread, hparts⟩ := ofAuthority_eq_ok_iff.mp hscheme
  rw [hweb] at hread hparts
  exact ⟨_, _, begin, _, authority, hread, by rw [hparts], by rw [hparts], by rw [hparts]⟩

theorem mem_of_mem_clean {c : Char} (h : c ∈ clean cs) : c ∈ cs := by
  have hrest := (List.dropWhile_suffix _).mem (List.mem_reverse.mp (List.mem_filter.mp h).1)
  exact (List.dropWhile_suffix _).mem (List.mem_reverse.mp hrest)

theorem query_ofText (h : '?' ∉ cs) : (Parts.ofText (clean cs)).query = none := by
  rw [← Option.not_isSome_iff_eq_none]
  simp only [Parts.ofText, isSome_cutAt_snd, cutAt_fst, List.any_eq_true, beq_iff_eq]
  rintro ⟨c, hc, rfl⟩
  exact h (mem_of_mem_clean ((List.takeWhile_prefix _).mem hc))

/-- Pairs make the query of an address without one. -/
theorem query_withPairs (h : u.query = none) (pairs : List (String × String)) :
    (u.withPairs pairs).onWire.query = if pairs = [] then none else some (Form.encode pairs) := by
  have hwritten : (u.withPairs pairs).onWire.query =
      if (Form.encode pairs).isEmpty then none else some (Form.encode pairs) := by
    rw [onWire, withPairs, h]
    rfl
  simp only [hwritten, List.isEmpty_iff, Form.encode_eq_nil_iff]

end Wayfare.Url
