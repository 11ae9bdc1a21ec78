import Wayfare.Proofs.Text.Cut
import Wayfare.Proofs.Url.Below
import Wayfare.Proofs.Url.Form
import Wayfare.Proofs.Url.Percent

/-!
Queries in an address. What a query cannot hold is escaped there, and what is escaped already stays; the
pairs that are read from it are those of the query as it was given.
-/
namespace Wayfare.Url

/-! ## Bytes with more of them escaped -/

/-- The byte that the two digits in front stand for. -/
def frontPair? : List UInt8 → Option UInt8
  | x :: y :: _ => hexPair? x y
  | _ => none

theorem unescape_of_frontPair? {bs : List UInt8} {b : UInt8} (h : frontPair? bs = some b) :
    unescape (0x25 :: bs) = b :: unescape (bs.drop 2) := by
  match bs, h with
  | x :: y :: more, h =>
    have hpair : hexPair? x y = some b := h
    simp [unescape, hpair]

theorem unescape_of_no_pair {bs : List UInt8} (h : frontPair? bs = none) :
    unescape (0x25 :: bs) = 0x25 :: unescape bs := by
  match bs, h with
  | [], _ => rfl
  | [x], _ => rfl
  | x :: y :: more, h =>
    have hpair : hexPair? x y = none := h
    rw [unescape.eq_def]
    simp [hpair]

/-- A byte that means itself wherever it stands: it is no percent sign, no digit that one could stand
before, and no sign for a space. -/
def isInert (b : UInt8) : Bool :=
  b != 0x25 && b != 0x2B && (Text.hexValue? (Char.ofNat b.toNat)).isNone

section

variable {b : UInt8}

theorem ne_sign_of_isInert (h : isInert b = true) : b ≠ 0x25 := by
  simp only [isInert, Bool.and_eq_true, bne_iff_ne] at h
  exact h.1.1

theorem hexValue?_of_isInert (h : isInert b = true) :
    Text.hexValue? (Char.ofNat b.toNat) = none := by
  simp only [isInert, Bool.and_eq_true, Option.isNone_iff_eq_none] at h
  exact h.2

end

/-- Bytes, and the same bytes with some of the inert ones written as escapes. -/
inductive Escaped : List UInt8 → List UInt8 → Prop
  | nil : Escaped [] []
  | kept (b : UInt8) {bs written : List UInt8} (h : Escaped bs written) :
      Escaped (b :: bs) (b :: written)
  | coded {b high low : UInt8} {bs written : List UInt8} (hinert : isInert b = true)
      (hpair : hexPair? high low = some b) (h : Escaped bs written) :
      Escaped (b :: bs) (0x25 :: high :: low :: written)

namespace Escaped

variable {bs written : List UInt8}

theorem refl (bs : List UInt8) : Escaped bs bs := by
  induction bs with
  | nil => exact .nil
  | cons b bs ih => exact .kept b ih

theorem append {more writtenMore : List UInt8} (h : Escaped bs written)
    (hmore : Escaped more writtenMore) : Escaped (bs ++ more) (written ++ writtenMore) := by
  induction h with
  | nil => exact hmore
  | kept b _ ih => exact .kept b ih
  | coded hinert hpair _ ih => exact .coded hinert hpair ih

/-- Two digits in front are still there when more is escaped, and no others come about: neither an inert
byte nor a percent sign is a digit. -/
theorem front (h : Escaped bs written) : frontPair? written = frontPair? bs ∧
    ∀ b, frontPair? bs = some b → Escaped (bs.drop 2) (written.drop 2) := by
  have hsign : Text.hexValue? (Char.ofNat (0x25 : UInt8).toNat) = none := by decide
  cases h with
  | nil => exact ⟨rfl, nofun⟩
  | kept a h =>
    cases h with
    | nil => exact ⟨rfl, nofun⟩
    | kept b h => exact ⟨rfl, fun _ _ => h⟩
    | @coded b high low bs written hinert _ _ =>
      have hbytes : frontPair? (a :: b :: bs) = none :=
        hexPair?_of_right (hexValue?_of_isInert hinert)
      have hwritten : frontPair? (a :: 0x25 :: high :: low :: written) = none :=
        hexPair?_of_right hsign
      rw [hbytes, hwritten]
      exact ⟨rfl, nofun⟩
  | @coded b high low bs written hinert _ _ =>
    have hbytes : frontPair? (b :: bs) = none := by
      cases bs with
      | nil => rfl
      | cons c bs => exact hexPair?_of_left (hexValue?_of_isInert hinert) c
    have hwritten : frontPair? (0x25 :: high :: low :: written) = none :=
      hexPair?_of_left hsign high
    rw [hbytes, hwritten]
    exact ⟨rfl, nofun⟩

theorem unescape_eq (h : Escaped bs written) : unescape written = unescape bs := by
  -- on the number of bytes: two digits behind a percent sign are read together with it
  induction hlength : bs.length using Nat.strong_induction_on generalizing bs written with
  | _ n ih =>
    cases h with
    | nil => rfl
    | @kept b bs written h =>
      rw [List.length_cons] at hlength
      by_cases hsign : b = 0x25
      · subst hsign
        obtain ⟨hfront, hbehind⟩ := h.front
        cases hpair : frontPair? bs with
        | none =>
          rw [unescape_of_no_pair (hfront.trans hpair), unescape_of_no_pair hpair,
            ih bs.length (by omega) h rfl]
        | some b =>
          have hshorter : (bs.drop 2).length < n := by
            rw [List.length_drop]
            omega
          rw [unescape_of_frontPair? (hfront.trans hpair), unescape_of_frontPair? hpair,
            ih _ hshorter (hbehind b hpair) rfl]
      · have hplain : (b == 0x25) = false := beq_eq_false_iff_ne.mpr hsign
        rw [unescape_cons hplain, unescape_cons hplain, ih bs.length (by omega) h rfl]
    | @coded b high low bs written hinert hpair h =>
      rw [List.length_cons] at hlength
      have hplain : (b == 0x25) = false := beq_eq_false_iff_ne.mpr (ne_sign_of_isInert hinert)
      have hread : unescape (0x25 :: high :: low :: written) = b :: unescape written :=
        unescape_of_frontPair? hpair
      rw [hread, unescape_cons hplain, ih bs.length (by omega) h rfl]

end Escaped

/-! ## Text with more of it escaped -/

namespace Form

/-- The bytes that a key or a value is read from. -/
def formBytes (cs : List Char) : List UInt8 :=
  (Text.encodeUtf8 cs).map plusAsSpace

theorem formBytes_append (cs more : List Char) :
    formBytes (cs ++ more) = formBytes cs ++ formBytes more := by
  rw [formBytes, Text.encodeUtf8_append, List.map_append, formBytes, formBytes]

theorem coded_escapeByte (b : UInt8) : isInert b = true → plusAsSpace b = b ∧
    formBytes (escapeByte b) = [0x25, digitByte (b.toNat / 16), digitByte (b.toNat % 16)] ∧
    hexPair? (digitByte (b.toNat / 16)) (digitByte (b.toNat % 16)) = some b := by
  revert b
  exact byte_forall (by decide +kernel)

theorem escaped_escapeBytes {bs : List UInt8} (h : ∀ b ∈ bs, isInert b = true) :
    Escaped (bs.map plusAsSpace) (formBytes (bs.flatMap escapeByte)) := by
  induction bs with
  | nil => exact .nil
  | cons b bs ih =>
    obtain ⟨hb, hbs⟩ := List.forall_mem_cons.mp h
    obtain ⟨hself, hwritten, hpair⟩ := coded_escapeByte b hb
    rw [List.map_cons, hself, List.flatMap_cons, formBytes_append, hwritten]
    exact .coded hb hpair (ih hbs)

/-- What is escaped in a query consists of inert bytes. -/
theorem isInert_of_escaped {c : Char} (h : ¬ (c.toNat < 0x80 && !webQuerySet c) = true) :
    ∀ b ∈ String.utf8EncodeChar c, isInert b = true := by
  by_cases hlow : c.toNat < 0x80
  · have hset : webQuerySet c = true := by simpa [hlow] using h
    have hascii := Text.ascii_forall
      (p := fun c => webQuerySet c = true → ∀ b ∈ String.utf8EncodeChar c, isInert b = true)
      (by decide +kernel) hlow
    exact hascii hset
  · have hhigh : ∀ b : UInt8, 0x80 ≤ b.toNat → isInert b = true :=
      byte_forall (by decide +kernel)
    intro b hb
    exact hhigh b (Text.le_of_mem_encodeChar (Nat.not_lt.mp hlow) b hb)

theorem escaped_escape (cs : List Char) :
    Escaped (formBytes cs) (formBytes (escape webQuerySet cs)) := by
  induction cs with
  | nil => exact .nil
  | cons c cs ih =>
    have hone : Escaped (formBytes [c]) (formBytes (escapeChar webQuerySet c)) := by
      rw [escapeChar]
      split
      · exact .refl _
      · next hescaped =>
        have hbytes : formBytes [c] = (String.utf8EncodeChar c).map plusAsSpace := by
          simp [formBytes, Text.encodeUtf8]
        rw [hbytes]
        exact escaped_escapeBytes (isInert_of_escaped hescaped)
    rw [← List.singleton_append, formBytes_append, List.singleton_append, escape, List.flatMap_cons,
      formBytes_append]
    exact hone.append ih

theorem decodeText_escape (cs : List Char) :
    decodeText (escape webQuerySet cs) = decodeText cs := by
  have hbytes : unescape (formBytes (escape webQuerySet cs)) = unescape (formBytes cs) :=
    (escaped_escape cs).unescape_eq
  rw [decodeText_eq, decodeText_eq]
  exact congrArg Text.lossyString hbytes

end Form

/-! ## Separators -/

section

variable {set : EscapeSet} {sep : Char}

/-- A character that is not escaped, and is part of no escape. -/
structure Separates (set : EscapeSet) (sep : Char) : Prop where
  ascii : sep.toNat < 0x80
  plain : set sep = false
  apart : isEscapeChar sep = false

namespace Separates

theorem escape_cons (h : Separates set sep) (cs : List Char) :
    escape set (sep :: cs) = sep :: escape set cs := by
  have hone : escapeChar set sep = [sep] := by
    simp [escapeChar, h.ascii, h.plain]
  rw [escape, List.flatMap_cons, hone]
  rfl

theorem not_mem (h : Separates set sep) {cs : List Char} (hcs : sep ∉ cs) :
    sep ∉ escape set cs := by
  intro hin
  obtain ⟨c, hc, hone⟩ := List.mem_flatMap.mp hin
  rw [escapeChar] at hone
  split at hone
  · rw [List.mem_singleton.mp hone] at hcs
    exact hcs hc
  · obtain ⟨b, -, hb⟩ := List.mem_flatMap.mp hone
    have hescape := isEscapeChar_escapeByte b sep hb
    rw [h.apart] at hescape
    cases hescape

theorem escape_intercalate (h : Separates set sep) (pieces : List (List Char)) :
    escape set ([sep].intercalate pieces) = [sep].intercalate (pieces.map (escape set)) := by
  induction pieces with
  | nil => rfl
  | cons piece rest ih =>
    cases rest with
    | nil => simp
    | cons next rest =>
      rw [List.map_cons] at ih ⊢
      rw [List.map_cons, List.intercalate_cons_cons, List.intercalate_cons_cons, ← ih,
        List.append_assoc, escape_append, List.singleton_append, h.escape_cons, List.append_assoc,
        List.singleton_append]

/-- Escaping goes piece by piece. -/
theorem cut_escape (h : Separates set sep) (cs : List Char) :
    Text.cut sep (escape set cs) = (Text.cut sep cs).map (escape set) := by
  have hpieces : ∀ piece ∈ (Text.cut sep cs).map (escape set), sep ∉ piece := by
    intro piece hpiece
    obtain ⟨plain, hplain, rfl⟩ := List.mem_map.mp hpiece
    exact h.not_mem (Text.not_mem_of_mem_cut hplain)
  have hne : (Text.cut sep cs).map (escape set) ≠ [] := by
    rw [ne_eq, List.map_eq_nil_iff]
    exact Text.cutBy_ne_nil (· == sep) cs
  calc
    Text.cut sep (escape set cs)
      = Text.cut sep (escape set ([sep].intercalate (Text.cut sep cs))) := by
        rw [Text.intercalate_cut]
    _ = Text.cut sep ([sep].intercalate ((Text.cut sep cs).map (escape set))) := by
        rw [h.escape_intercalate]
    _ = (Text.cut sep cs).map (escape set) := Text.cut_intercalate hpieces hne

end Separates

end

namespace Form

/-! ## Pairs -/

theorem decodePair_of_not_mem {piece : List Char} (h : '=' ∉ piece) :
    decodePair piece = (decodeText piece, decodeText []) := by
  have hall := Text.forall_bne_of_not_mem h
  rw [decodePair, List.takeWhile_eq_self_iff.mpr hall, List.dropWhile_eq_nil_iff.mpr hall,
    List.drop_nil]

theorem decodePair_escape (piece : List Char) :
    decodePair (escape webQuerySet piece) = decodePair piece := by
  have hsep : Separates webQuerySet '=' := ⟨by decide, by decide, by decide⟩
  by_cases hequals : '=' ∈ piece
  · obtain ⟨key, value, rfl, hkey⟩ := List.eq_append_cons_of_mem hequals
    rw [escape_append, hsep.escape_cons, decodePair_append (hsep.not_mem hkey),
      decodePair_append hkey, decodeText_escape, decodeText_escape]
  · rw [decodePair_of_not_mem (hsep.not_mem hequals), decodePair_of_not_mem hequals,
      decodeText_escape]

/-- The pairs of a query do not change when the query is escaped. -/
theorem decode_escape (query : List Char) : decode (escape webQuerySet query) = decode query := by
  have hsep : Separates webQuerySet '&' := ⟨by decide, by decide, by decide⟩
  have hempty : ((!·.isEmpty) ∘ escape webQuerySet : List Char → Bool) = (!·.isEmpty) := by
    funext piece
    have hiff : (escape webQuerySet piece).isEmpty = piece.isEmpty := by
      rw [Bool.eq_iff_iff, List.isEmpty_iff, List.isEmpty_iff, escape_eq_nil_iff]
    rw [Function.comp_apply, hiff]
  rw [decode, hsep.cut_escape, List.filter_map, hempty, List.map_map]
  exact List.map_congr_left fun piece _ => decodePair_escape piece

end Form

end Wayfare.Url
