import Wayfare.Json.Scan
import Wayfare.Proofs.Text.Utf8

/-!
Strings in the text of a document, by the grammar of the JSON standard. What stands between the quotes
is a row of characters, each as it is or as an escape; a string is read up to its closing quote.
-/
namespace Wayfare.Json

open Scan

/-! ## Escapes -/

/-- The letters of one-letter escapes, with the characters they stand for. -/
def shortEscapes : List (UInt8 × Char) :=
  [(0x22, '"'), (0x5C, '\\'), (0x2F, '/'), (0x62, '\x08'), (0x66, '\x0C'), (0x6E, '\n'), (0x72, '\r'),
    (0x74, '\t')]

/-- Four hexadecimal digits, and the number they write. -/
inductive Quad : List UInt8 → Nat → Prop where
  | digits {a b c d : UInt8} {i j k l : Nat} (ha : hexByte? a = some i) (hb : hexByte? b = some j)
      (hc : hexByte? c = some k) (hd : hexByte? d = some l) :
      Quad [a, b, c, d] (((i * 16 + j) * 16 + k) * 16 + l)

/-- What stands behind a backslash, and the character it stands for. Half of a surrogate pair stands
for none. -/
inductive Escaped : List UInt8 → Char → Prop where
  | short {b : UInt8} {c : Char} (h : (b, c) ∈ shortEscapes) : Escaped [b] c
  | unit {q : List UInt8} {n : Nat} (hq : Quad q n) (hn : n < 0xD800 ∨ 0xDFFF < n) :
      Escaped (0x75 :: q) (Char.ofNat n)
  | pair {q r : List UInt8} {n m : Nat} (hq : Quad q n) (hn : 0xD800 ≤ n ∧ n ≤ 0xDBFF)
      (hr : Quad r m) (hm : 0xDC00 ≤ m ∧ m ≤ 0xDFFF) :
      Escaped (0x75 :: (q ++ 0x5C :: 0x75 :: r))
        (Char.ofNat ((n - 0xD800) * 0x400 + (m - 0xDC00) + 0x10000))

/-- The characters that stand for themselves. -/
def Plain (c : Char) : Prop :=
  0x20 ≤ c.toNat ∧ c ≠ '"' ∧ c ≠ '\\'

/-- A text between quotes, and the characters of its string. -/
inductive Chars : List UInt8 → List Char → Prop where
  | nil : Chars [] []
  | plain {c : Char} {text : List UInt8} {cs : List Char} (hc : Plain c) (hcs : Chars text cs) :
      Chars (String.utf8EncodeChar c ++ text) (c :: cs)
  | escape {t text : List UInt8} {c : Char} {cs : List Char} (hc : Escaped t c) (hcs : Chars text cs) :
      Chars (0x5C :: (t ++ text)) (c :: cs)

/-! ## Reading an escape -/

variable {b : UInt8} {bs rest : List UInt8} {n : Nat} {c : Char}

theorem shortEscape?_of_mem (h : (b, c) ∈ shortEscapes) :
    ∃ e, shortEscape? b = some e ∧ String.utf8EncodeChar c = [e] := by
  have hall : ∀ p ∈ shortEscapes,
      (shortEscape? p.1).map ([·]) = some (String.utf8EncodeChar p.2) := by decide
  obtain ⟨e, he, hpiece⟩ := Option.map_eq_some_iff.mp (hall (b, c) h)
  exact ⟨e, he, hpiece.symm⟩

theorem mem_shortEscapes {e : UInt8} (h : shortEscape? b = some e) :
    ∃ c, (b, c) ∈ shortEscapes ∧ String.utf8EncodeChar c = [e] := by
  have hb : b ∈ shortEscapes.map (·.1) := by
    simp only [shortEscapes, List.map_cons, List.map_nil, List.mem_cons]
    unfold shortEscape? at h
    grind
  obtain ⟨p, hp, rfl⟩ := List.mem_map.mp hb
  obtain ⟨e', he', hpiece⟩ := shortEscape?_of_mem hp
  obtain rfl : e = e' := Option.some.inj (h.symm.trans he')
  exact ⟨p.2, hp, hpiece⟩

theorem shortEscape?_eq_none_of_unicode : shortEscape? 0x75 = none := by decide

theorem Quad.read {q : List UInt8} (hq : Quad q n) (rest : List UInt8) :
    hexQuad (q ++ rest) = .ok (n, rest) := by
  obtain ⟨ha, hb, hc, hd⟩ := hq
  simp [hexQuad, ha, hb, hc, hd]

theorem quad_of_hexQuad (h : hexQuad bs = .ok (n, rest)) : ∃ q, bs = q ++ rest ∧ Quad q n := by
  unfold hexQuad at h
  split at h
  · split at h
    · next ha hb hc hd =>
      cases h
      exact ⟨_, rfl, .digits ha hb hc hd⟩
    · cases h
  · cases h

theorem lowSurrogate_append {q : List UInt8} (hq : Quad q n) (hn : 0xDC00 ≤ n ∧ n ≤ 0xDFFF)
    (rest : List UInt8) : lowSurrogate (0x5C :: 0x75 :: (q ++ rest)) = .ok (n, rest) := by
  simp [lowSurrogate, hq.read, hn]

theorem quad_of_lowSurrogate (h : lowSurrogate bs = .ok (n, rest)) :
    ∃ q, bs = 0x5C :: 0x75 :: (q ++ rest) ∧ Quad q n ∧ 0xDC00 ≤ n ∧ n ≤ 0xDFFF := by
  match bs with
  | [] => cases h
  | [b] =>
    rw [lowSurrogate] at h
    split at h <;> cases h
  | b :: c :: more =>
    rw [lowSurrogate] at h
    split at h
    · cases h
    next hb =>
    split at h
    · cases h
    next hc =>
    obtain rfl : b = 0x5C := by simpa using hb
    obtain rfl : c = 0x75 := by simpa using hc
    split at h
    · cases h
    next m more' hquad =>
    obtain ⟨q, rfl, hq⟩ := quad_of_hexQuad hquad
    split at h
    · next hm =>
      cases h
      exact ⟨q, rfl, hq, by simpa using hm⟩
    · cases h

theorem escape_unicode (bs : List UInt8) : escape (0x75 :: bs) = unicodeEscape bs := by
  simp [escape, shortEscape?_eq_none_of_unicode]

theorem Escaped.read {t : List UInt8} (h : Escaped t c) (rest : List UInt8) :
    escape (t ++ rest) = .ok (String.utf8EncodeChar c, rest) := by
  cases h with
  | @short b _ hb =>
    obtain ⟨e, he, hpiece⟩ := shortEscape?_of_mem hb
    simp [escape, he, hpiece]
  | @unit q n hq hn =>
    have hlow : ¬ (0xDC00 ≤ n ∧ n ≤ 0xDFFF) := by omega
    have hhigh : ¬ (0xD800 ≤ n ∧ n ≤ 0xDBFF) := by omega
    simp [escape_unicode, unicodeEscape, hq.read, hlow, hhigh]
  | @pair q r n m hq hn hr hm =>
    have hlow : ¬ (0xDC00 ≤ n ∧ n ≤ 0xDFFF) := by omega
    simp [escape_unicode, unicodeEscape, hq.read, hlow, hn, lowSurrogate_append hr hm]

theorem escaped_of_unicodeEscape {piece : List UInt8} (h : unicodeEscape bs = .ok (piece, rest)) :
    ∃ t c, bs = t ++ rest ∧ Escaped (0x75 :: t) c ∧ piece = String.utf8EncodeChar c := by
  rw [unicodeEscape] at h
  split at h
  · cases h
  next n more hquad =>
  obtain ⟨q, rfl, hq⟩ := quad_of_hexQuad hquad
  split at h
  · cases h
  next hlow =>
  simp only [Bool.and_eq_true, decide_eq_true_eq] at hlow h
  split at h
  · next hhigh =>
    split at h
    · cases h
    next m more' hsurrogate =>
    obtain ⟨r, rfl, hr, hm⟩ := quad_of_lowSurrogate hsurrogate
    obtain ⟨rfl, rfl⟩ := Prod.mk.inj (Except.ok.inj h)
    exact ⟨q ++ 0x5C :: 0x75 :: r, _, by simp, .pair hq hhigh hr hm, rfl⟩
  · next hhigh =>
    obtain ⟨rfl, rfl⟩ := Prod.mk.inj (Except.ok.inj h)
    exact ⟨q, _, rfl, .unit hq (by omega), rfl⟩

theorem escaped_of_escape {piece : List UInt8} (h : escape bs = .ok (piece, rest)) :
    ∃ t c, bs = t ++ rest ∧ Escaped t c ∧ piece = String.utf8EncodeChar c := by
  match bs with
  | [] => cases h
  | b :: more =>
    rw [escape] at h
    split at h
    · next e he =>
      cases h
      obtain ⟨c, hc, hpiece⟩ := mem_shortEscapes he
      exact ⟨[b], c, rfl, .short hc, hpiece.symm⟩
    · split at h
      · next hb =>
        obtain rfl := beq_iff_eq.mp hb
        obtain ⟨t, c, rfl, hc, hpiece⟩ := escaped_of_unicodeEscape h
        exact ⟨0x75 :: t, c, rfl, hc, hpiece⟩
      · cases h

/-! ## Characters in bytes -/

/-- The bytes that stand for themselves. -/
def isPlain (b : UInt8) : Bool :=
  b != 0x22 && b != 0x5C && 0x20 ≤ b

theorem isPlain_of_isTail (h : Text.isTail b = true) : isPlain b = true := by
  simp only [Text.isTail, isPlain, Bool.and_eq_true, decide_eq_true_eq, bne_iff_ne] at h ⊢
  grind

theorem isPlain_iff_toNat : isPlain b = true ↔ b.toNat ≠ 0x22 ∧ b.toNat ≠ 0x5C ∧ 0x20 ≤ b.toNat := by
  simp [isPlain, UInt8.le_iff_toNat_le, ← UInt8.toNat_inj, and_assoc]

theorem plain_iff_toNat : Plain c ↔ c.toNat ≠ 0x22 ∧ c.toNat ≠ 0x5C ∧ 0x20 ≤ c.toNat := by
  have hquote : c = '"' ↔ c.toNat = 0x22 := Char.toNat_inj.symm
  have hslash : c = '\\' ↔ c.toNat = 0x5C := Char.toNat_inj.symm
  rw [Plain, ne_eq, ne_eq, hquote, hslash]
  omega

/-- The first byte of a character tells whether it is plain; the others continue it. -/
theorem encodeChar_plain (c : Char) :
    ∃ b tails, String.utf8EncodeChar c = b :: tails ∧ Text.isTail b = false ∧
      (isPlain b = true ↔ Plain c) ∧ ∀ t ∈ tails, Text.isTail t = true := by
  obtain ⟨b, tails, hbytes, hhead, htails, hnat⟩ := Text.encodeChar_eq_cons c
  refine ⟨b, tails, hbytes, hhead, ?_, htails⟩
  rw [isPlain_iff_toNat, plain_iff_toNat]
  omega

theorem encodeChar_prefix_free {d : Char} {more more' : List UInt8}
    (h : String.utf8EncodeChar c ++ more = String.utf8EncodeChar d ++ more') : c = d ∧ more = more' := by
  have hchunks := congrArg Text.decodeChunks h
  rw [Text.decodeChunks_encodeChar, Text.decodeChunks_encodeChar] at hchunks
  obtain rfl : c = d := Option.some.inj (List.cons.inj hchunks).1
  exact ⟨rfl, List.append_cancel_left h⟩

/-! ## Reading up to the quote -/

/-- A text between quotes, and the bytes of its string. -/
inductive Spelled : List UInt8 → List UInt8 → Prop where
  | nil : Spelled [] []
  | plain {b : UInt8} {text bytes : List UInt8} (hb : isPlain b = true) (h : Spelled text bytes) :
      Spelled (b :: text) (b :: bytes)
  | escape {t text bytes : List UInt8} {c : Char} (hc : Escaped t c) (h : Spelled text bytes) :
      Spelled (0x5C :: (t ++ text)) (String.utf8EncodeChar c ++ bytes)

variable {text bytes : List UInt8} {steps : Nat}

theorem Spelled.read (h : Spelled text bytes) (hsteps : text.length < steps) (rest : List UInt8) :
    stringBytes steps (text ++ 0x22 :: rest) = .ok (bytes, rest) := by
  induction h generalizing steps with
  | nil =>
    obtain ⟨steps, rfl⟩ := Nat.exists_eq_add_one.mpr hsteps
    rfl
  | @plain b text bytes hb h ih =>
    obtain ⟨steps, rfl⟩ := Nat.exists_eq_add_one.mpr (Nat.zero_lt_of_lt hsteps)
    have hlength : text.length < steps := by simpa using hsteps
    simp only [isPlain, Bool.and_eq_true, bne_iff_ne, decide_eq_true_eq] at hb
    obtain ⟨⟨hquote, hslash⟩, hcontrol⟩ := hb
    simp [stringBytes, hquote, hslash, hcontrol, ih hlength]
  | @escape t text bytes c hc h ih =>
    obtain ⟨steps, rfl⟩ := Nat.exists_eq_add_one.mpr (Nat.zero_lt_of_lt hsteps)
    have hlength : text.length < steps := by
      simp only [List.length_cons, List.length_append] at hsteps
      omega
    simp [stringBytes, hc.read, ih hlength]

theorem spelled_of_stringBytes (h : stringBytes steps bs = .ok (bytes, rest)) :
    ∃ text, bs = text ++ 0x22 :: rest ∧ Spelled text bytes := by
  induction steps generalizing bs bytes with
  | zero => cases h
  | succ steps ih =>
    match bs with
    | [] => cases h
    | b :: more =>
      rw [stringBytes] at h
      split at h
      · next hb =>
        cases h
        exact ⟨[], by rw [beq_iff_eq.mp hb]; rfl, .nil⟩
      next hquote =>
      split at h
      · next hslash =>
        obtain rfl := beq_iff_eq.mp hslash
        split at h
        · cases h
        next piece behind hpiece =>
        obtain ⟨t, c, rfl, hc, rfl⟩ := escaped_of_escape hpiece
        split at h
        · cases h
        next bytes' rest' hbytes =>
        cases h
        obtain ⟨text, rfl, htext⟩ := ih hbytes
        exact ⟨0x5C :: (t ++ text), by simp, .escape hc htext⟩
      next hslash =>
      split at h
      · cases h
      next hcontrol =>
      split at h
      · cases h
      next bytes' rest' hbytes =>
      cases h
      obtain ⟨text, rfl, htext⟩ := ih hbytes
      have hb : isPlain b = true := by
        simp only [isPlain, Bool.and_eq_true, bne_iff_ne, decide_eq_true_eq]
        exact ⟨⟨by simpa using hquote, by simpa using hslash⟩, UInt8.not_lt.mp hcontrol⟩
      exact ⟨b :: text, rfl, .plain hb htext⟩

/-! ## Bytes and characters -/

theorem Spelled.append_plain {front : List UInt8} (hfront : ∀ b ∈ front, isPlain b = true)
    (h : Spelled text bytes) : Spelled (front ++ text) (front ++ bytes) := by
  induction front with
  | nil => exact h
  | cons b front ih =>
    exact .plain (hfront b List.mem_cons_self) (ih fun c hc => hfront c (List.mem_cons_of_mem _ hc))

/-- What continues a character is never written by an escape. -/
theorem Spelled.of_append_tails {tails : List UInt8} (htails : ∀ t ∈ tails, Text.isTail t = true)
    (h : Spelled text (tails ++ bytes)) : ∃ more, text = tails ++ more ∧ Spelled more bytes := by
  induction tails generalizing text with
  | nil => exact ⟨text, rfl, h⟩
  | cons t tails ih =>
    have ht : Text.isTail t = true := htails t List.mem_cons_self
    generalize hall : t :: tails ++ bytes = all at h
    cases h with
    | nil => cases hall
    | plain hb h =>
      cases hall
      obtain ⟨more, rfl, hmore⟩ := ih (fun c hc => htails c (List.mem_cons_of_mem _ hc)) h
      exact ⟨more, rfl, hmore⟩
    | @escape _ _ _ c hc h =>
      obtain ⟨b, tails', hbytes, hhead, -⟩ := encodeChar_plain c
      rw [hbytes] at hall
      obtain rfl : t = b := (List.cons.inj hall).1
      exact absurd ht (by simp [hhead])

theorem Chars.spelled {cs : List Char} (h : Chars text cs) : Spelled text (Text.encodeUtf8 cs) := by
  induction h with
  | nil => exact .nil
  | @plain c text cs hc hcs ih =>
    obtain ⟨b, tails, hbytes, -, hplain, htails⟩ := encodeChar_plain c
    refine ih.append_plain ?_
    rw [hbytes, List.forall_mem_cons]
    exact ⟨hplain.mpr hc, fun t ht => isPlain_of_isTail (htails t ht)⟩
  | escape hc hcs ih => exact .escape hc ih

theorem Spelled.chars {cs : List Char} (h : Spelled text (Text.encodeUtf8 cs)) : Chars text cs := by
  induction cs generalizing text with
  | nil =>
    generalize hnil : Text.encodeUtf8 [] = bytes at h
    cases h with
    | nil => exact .nil
    | plain hb h => cases hnil
    | @escape _ _ _ c hc h =>
      obtain ⟨b, tails, hbytes, -⟩ := encodeChar_plain c
      rw [hbytes] at hnil
      cases hnil
  | cons c cs ih =>
    obtain ⟨b, tails, hbytes, -, hplain, htails⟩ := encodeChar_plain c
    generalize hall : Text.encodeUtf8 (c :: cs) = bytes at h
    have hsplit : bytes = b :: (tails ++ Text.encodeUtf8 cs) := by
      rw [← hall, Text.encodeUtf8, List.flatMap_cons, hbytes, List.cons_append]
      rfl
    cases h with
    | nil => cases hsplit
    | plain hb h =>
      cases hsplit
      obtain ⟨more, rfl, hmore⟩ := h.of_append_tails htails
      have hchars := Chars.plain (hplain.mp hb) (ih hmore)
      rwa [hbytes] at hchars
    | @escape _ _ _ d hd h =>
      obtain ⟨rfl, rfl⟩ := encodeChar_prefix_free hall
      exact .escape hd (ih h)

theorem Chars.read {s : String} (h : Chars text s.toList) (rest : List UInt8) :
    stringAfterQuote (text ++ 0x22 :: rest) = .ok (s, rest) := by
  have hlength : text.length < (text ++ 0x22 :: rest).length + 1 := by
    rw [List.length_append]
    omega
  rw [stringAfterQuote, h.spelled.read hlength rest]
  simp [Text.decodeUtf8?_encodeUtf8]

/-- What is read as a string is a row of characters up to the closing quote. -/
theorem chars_of_read {s : String} (h : stringAfterQuote bs = .ok (s, rest)) :
    ∃ text, bs = text ++ 0x22 :: rest ∧ Chars text s.toList := by
  rw [stringAfterQuote] at h
  split at h
  · cases h
  next bytes more hbytes =>
  split at h
  · next cs hcs =>
    cases h
    obtain ⟨text, rfl, htext⟩ := spelled_of_stringBytes hbytes
    rw [← Text.decodeUtf8?_eq_some_iff.mp hcs] at htext
    exact ⟨text, rfl, by simpa using htext.chars⟩
  · cases h

end Wayfare.Json
