import Wayfare.Proofs.Except
import Wayfare.Proofs.Url.Idna.Domain
import Wayfare.Proofs.Url.Ipv6

/-!
Hosts of web addresses are read again as they are written.
-/
namespace Wayfare.Url

open Idna (isNameChar)

/-! ## The characters of hosts -/

/-- The characters of a written host. -/
def isHostChar (c : Char) : Bool :=
  isNameChar c || c == ':' || c == '[' || c == ']'

theorem isHostChar_of_isNameChar {c : Char} (h : isNameChar c = true) : isHostChar c = true := by
  simp [isHostChar, h]

theorem isNameChar_digitChar : ∀ d < 16, isNameChar d.digitChar = true := by
  decide

theorem isNameChar_toDigits {base n : Nat} (hbase : 1 < base) (hhex : base ≤ 16) :
    ∀ c ∈ base.toDigits n, isNameChar c = true := by
  intro c hc
  obtain ⟨d, hd, rfl⟩ := digit_of_mem_toDigits hbase n hc
  exact isNameChar_digitChar d (by omega)

theorem isNameChar_writeIpv4 (n : Nat) : ∀ c ∈ writeIpv4 n, isNameChar c = true := by
  intro c hc
  rcases Text.mem_intercalate hc with rfl | ⟨piece, hpiece, hin⟩
  · decide
  · obtain ⟨unit, -, rfl⟩ := List.mem_map.mp hpiece
    exact isNameChar_toDigits (by decide) (by decide) c hin

theorem isHostChar_writePieces (pieces : List Nat) :
    ∀ c ∈ writePieces pieces, isHostChar c = true ∧ c ≠ '[' ∧ c ≠ ']' := by
  intro c hc
  rcases Text.mem_intercalate hc with rfl | ⟨piece, hpiece, hin⟩
  · decide
  · obtain ⟨p, -, rfl⟩ := List.mem_map.mp hpiece
    have hname := isNameChar_toDigits (by decide) (by decide) c hin
    refine ⟨isHostChar_of_isNameChar hname, ?_, ?_⟩
    · rintro rfl
      exact absurd hname (by decide)
    · rintro rfl
      exact absurd hname (by decide)

theorem isHostChar_writeIpv6 (pieces : List Nat) :
    ∀ c ∈ writeIpv6 pieces, isHostChar c = true ∧ c ≠ '[' ∧ c ≠ ']' := by
  intro c hc
  unfold writeIpv6 at hc
  dsimp only at hc
  split at hc
  · exact isHostChar_writePieces _ c hc
  · simp only [List.mem_append, List.mem_cons] at hc
    rcases hc with hfront | rfl | rfl | hback
    · exact isHostChar_writePieces _ c hfront
    · decide
    · decide
    · exact isHostChar_writePieces _ c hback

/-! ## Hosts that are read again -/

theorem encodeUtf8_ascii {cs : List Char} (h : ∀ c ∈ cs, Idna.isAscii c = true) :
    Text.encodeUtf8 cs = cs.map fun c => UInt8.ofNat c.toNat := by
  induction cs with
  | nil => rfl
  | cons c cs ih =>
    have hlow : c.toNat < 0x80 := by simpa [Idna.isAscii] using h c List.mem_cons_self
    have hchar : String.utf8EncodeChar c = [UInt8.ofNat c.toNat] := by
      rw [String.utf8EncodeChar, if_pos (show c.val.toNat ≤ 127 from Nat.le_of_lt_succ hlow)]
      rfl
    rw [Text.encodeUtf8, List.flatMap_cons, hchar, ← Text.encodeUtf8,
      ih fun d hd => h d (List.mem_cons_of_mem _ hd)]
    rfl

theorem unescape_of_not_mem {bs : List UInt8} (h : 0x25 ∉ bs) : unescape bs = bs := by
  induction bs with
  | nil => rfl
  | cons b bs ih =>
    have hb : (b == 0x25) = false := by
      rw [beq_eq_false_iff_ne]
      rintro rfl
      exact h List.mem_cons_self
    rw [unescape_cons hb, ih fun hin => h (List.mem_cons_of_mem _ hin)]

theorem unescape_name {name : List Char} (h : ∀ c ∈ name, isNameChar c = true) :
    unescape (Text.encodeUtf8 name) = Text.encodeUtf8 name := by
  have hascii : ∀ c ∈ name, Idna.isAscii c = true := fun c hc => Idna.isAscii_of_isNameChar (h c hc)
  apply unescape_of_not_mem
  rw [encodeUtf8_ascii hascii]
  intro hsign
  obtain ⟨c, hc, hbyte⟩ := List.mem_map.mp hsign
  have hlow : c.toNat < 0x80 := by simpa [Idna.isAscii] using hascii c hc
  have hcode : c.toNat = 0x25 := by
    rw [← Text.toNat_byte (show c.toNat < 256 by omega), hbyte]
    rfl
  obtain rfl : c = '%' := by
    rw [← Char.ofNat_toNat c, hcode]
  exact absurd (h _ hc) (by decide)

theorem head?_ne_bracket {name : List Char} (h : ∀ c ∈ name, isNameChar c = true) :
    (name.head? == some '[') = false := by
  rw [beq_eq_false_iff_ne]
  intro hhead
  exact absurd (h _ (List.mem_of_head? hhead)) (by decide)

/-- A name that is read as itself is a host, or the address that it ends in. -/
theorem parseWebHost_name {name : List Char} (hchars : ∀ c ∈ name, isNameChar c = true)
    (hread : Idna.toAscii (Text.encodeUtf8 name) = .ok name) (hne : name ≠ []) :
    parseWebHost name =
      if endsInNumber name then (parseIpv4 name).map .ipv4 else .ok (.name name) := by
  have hempty : name.isEmpty = false := by simpa using hne
  rw [parseWebHost, head?_ne_bracket hchars, unescape_name hchars, hread]
  simp [hempty]

theorem mem_writeIpv4 {n : Nat} {c : Char} (h : c ∈ writeIpv4 n) : c = '.' ∨ c.isDigit = true := by
  rcases Text.mem_intercalate h with rfl | ⟨piece, hpiece, hin⟩
  · exact .inl rfl
  · obtain ⟨unit, -, rfl⟩ := List.mem_map.mp hpiece
    exact .inr (isDigit_of_mem_digits hin)

theorem isPlain_writeIpv4 (n : Nat) : Idna.isPlain (writeIpv4 n) = true := by
  have hchars := isNameChar_writeIpv4 n
  have hascii : (writeIpv4 n).all Idna.isAscii = true :=
    List.all_eq_true.mpr fun c hc => Idna.isAscii_of_isNameChar (hchars c hc)
  rw [Idna.isPlain, Idna.map_toLower hchars, hascii, Bool.true_and, List.all_eq_true]
  intro piece hpiece
  rw [Bool.not_eq_true', Idna.isCoded, Bool.eq_false_iff]
  intro hcoded
  have hmark : 'x' ∈ piece :=
    (List.isPrefixOf_iff_prefix.mp hcoded).subset (by decide)
  rcases mem_writeIpv4 (Text.mem_of_mem_cut hmark hpiece) with hpoint | hdigit
  · exact absurd hpoint (by decide)
  · exact absurd hdigit (by decide)

theorem writeIpv4_ne_nil (n : Nat) : writeIpv4 n ≠ [] := by
  intro hnil
  have hends := endsInNumber_writeIpv4 n
  rw [hnil] at hends
  exact absurd hends (by decide)

theorem parseWebHost_writeIpv4 (n : Nat) :
    parseWebHost (writeIpv4 n) = .ok (.ipv4 (n % 2 ^ 32)) := by
  have hchars := isNameChar_writeIpv4 n
  rw [parseWebHost_name hchars (Idna.toAscii_plain hchars (isPlain_writeIpv4 n))
    (writeIpv4_ne_nil n), endsInNumber_writeIpv4, if_pos rfl, parseIpv4_writeIpv4]
  rfl

namespace Host

/-- A host that can be read: a name stands for itself and ends in no number, and an address has eight
pieces of two bytes. -/
def Readable : Host → Prop
  | .name cs => cs ≠ [] ∧ (∀ c ∈ cs, isNameChar c = true) ∧
      Idna.toAscii (Text.encodeUtf8 cs) = .ok cs ∧ endsInNumber cs = false
  | .ipv4 _ => True
  | .ipv6 pieces => pieces.length = 8 ∧ ArePieces pieces

theorem readable_of_parseBracketed {cs : List Char} {host : Host}
    (h : parseBracketed cs = .ok host) : host.Readable := by
  rw [parseBracketed] at h
  split at h
  · obtain ⟨pieces, hpieces, rfl⟩ := exists_of_map_eq_ok h
    exact parseIpv6_eq_ok hpieces
  · cases h

theorem readable_of_parseWebHost {cs : List Char} {host : Host} (h : parseWebHost cs = .ok host) :
    host.Readable := by
  rw [parseWebHost] at h
  split at h
  · exact readable_of_parseBracketed h
  split at h
  · cases h
  next name hname =>
  obtain ⟨hchars, hagain⟩ := Idna.toAscii_again hname
  split at h
  · cases h
  next hempty =>
  split at h
  · obtain ⟨n, -, rfl⟩ := exists_of_map_eq_ok h
    trivial
  next hends =>
  obtain rfl := Except.ok.inj h
  exact ⟨by simpa using hempty, hchars, hagain, Bool.eq_false_iff.mpr hends⟩

variable {host : Host}

theorem Readable.isHostChar (h : host.Readable) : ∀ c ∈ host.write, isHostChar c = true := by
  intro c hc
  cases host with
  | name cs => exact isHostChar_of_isNameChar (h.2.1 c hc)
  | ipv4 n => exact isHostChar_of_isNameChar (isNameChar_writeIpv4 n c hc)
  | ipv6 pieces =>
    simp only [write, List.mem_cons, List.mem_append, List.not_mem_nil, or_false] at hc
    rcases hc with rfl | hin | rfl
    · decide
    · exact (isHostChar_writeIpv6 pieces c hin).1
    · decide

theorem Readable.write_ne_nil (h : host.Readable) : host.write ≠ [] := by
  cases host with
  | name cs => exact h.1
  | ipv4 n => exact writeIpv4_ne_nil n
  | ipv6 pieces => exact List.cons_ne_nil _ _

/-- A host that was read is read again as it is written. -/
theorem Readable.parse_write (h : host.Readable) : ∃ again, parseWebHost host.write = .ok again := by
  cases host with
  | name cs =>
    obtain ⟨hne, hchars, hread, hends⟩ := h
    refine ⟨.name cs, ?_⟩
    rw [write, parseWebHost_name hchars hread hne, hends]
    rfl
  | ipv4 n => exact ⟨_, parseWebHost_writeIpv4 n⟩
  | ipv6 pieces =>
    obtain ⟨filled, hfilled⟩ := parseIpv6_writeIpv6 h.1 h.2
    refine ⟨.ipv6 filled, ?_⟩
    have hclose : ('[' :: (writeIpv6 pieces ++ [']'])).getLast? = some ']' := by
      rw [← List.cons_append, List.getLast?_append]
      rfl
    rw [write, parseWebHost, if_pos (by simp), parseBracketed, hclose, if_pos (by simp),
      List.drop_one, List.tail_cons, List.dropLast_concat, hfilled]
    rfl

end Host

end Wayfare.Url
