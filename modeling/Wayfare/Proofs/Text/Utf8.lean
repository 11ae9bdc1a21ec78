import Wayfare.Text.Utf8

/-!
Text and its bytes. Strict reading accepts exactly the bytes that writing produces, and gives back the
text that was written. Texts have the order of their bytes.
-/
namespace Wayfare.Text

/-! ## One character -/

theorem toNat_ofNat {n : Nat} (h : n.isValidChar) : (Char.ofNat n).toNat = n := by
  rw [Char.ofNat, dif_pos h]
  rfl

/-- What holds of each ASCII code holds of each ASCII character. -/
theorem ascii_forall {p : Char → Prop} (h : ∀ n < 0x80, p (Char.ofNat n)) {c : Char}
    (hc : c.toNat < 0x80) : p c := by
  have hp := h c.toNat hc
  rwa [Char.ofNat_toNat] at hp

theorem encodeChar_ascii {a : UInt8} (h : a < 0x80) :
    String.utf8EncodeChar (Char.ofNat a.toNat) = [a] := by
  have ha : a.toNat < 128 := by simpa [UInt8.lt_iff_toNat_lt] using h
  have hv : (Char.ofNat a.toNat).val.toNat = a.toNat := toNat_ofNat (.inl (by omega))
  rw [String.utf8EncodeChar, hv, if_pos (by omega), UInt8.ofNat_toNat]

theorem encodeChar_two {a b : UInt8} (ha : 0xC2 ≤ a) (ha' : a < 0xE0) (hb : 0x80 ≤ b)
    (hb' : b ≤ 0xBF) : String.utf8EncodeChar (charOfBytes [a, b]) = [a, b] := by
  simp only [UInt8.le_iff_toNat_le, UInt8.lt_iff_toNat_lt, UInt8.reduceToNat] at ha ha' hb hb'
  have hv : (charOfBytes [a, b]).val.toNat = (a.toNat % 32) * 64 + b.toNat % 64 :=
    toNat_ofNat (.inl (by omega))
  rw [String.utf8EncodeChar, hv, if_neg (by omega), if_pos (by omega)]
  congr 1
  · exact UInt8.toNat_inj.mp (by simp; omega)
  · exact congrArg (· :: []) (UInt8.toNat_inj.mp (by simp; omega))

theorem encodeChar_three {a b c : UInt8} (ha : 0xE0 ≤ a) (ha' : a < 0xF0) (hb : 0x80 ≤ b)
    (hb' : b ≤ 0xBF) (hlong : a = 0xE0 → 0xA0 ≤ b) (hscalar : a = 0xED → b ≤ 0x9F)
    (hc : isTail c = true) : String.utf8EncodeChar (charOfBytes [a, b, c]) = [a, b, c] := by
  simp only [isTail, Bool.and_eq_true, decide_eq_true_eq] at hc
  simp only [UInt8.le_iff_toNat_le, UInt8.lt_iff_toNat_lt, UInt8.reduceToNat, ← UInt8.toNat_inj]
    at ha ha' hb hb' hc hlong hscalar
  have hv : (charOfBytes [a, b, c]).val.toNat =
      ((a.toNat % 16) * 64 + b.toNat % 64) * 64 + c.toNat % 64 :=
    toNat_ofNat (by simp only [Nat.isValidChar]; omega)
  rw [String.utf8EncodeChar, hv, if_neg (by omega), if_neg (by omega), if_pos (by omega)]
  congr 1
  · exact UInt8.toNat_inj.mp (by simp; omega)
  · congr 1
    · exact UInt8.toNat_inj.mp (by simp; omega)
    · exact congrArg (· :: []) (UInt8.toNat_inj.mp (by simp; omega))

theorem encodeChar_four {a b c d : UInt8} (ha : 0xF0 ≤ a) (ha' : a ≤ 0xF4) (hb : 0x80 ≤ b)
    (hb' : b ≤ 0xBF) (hlong : a = 0xF0 → 0x90 ≤ b) (hscalar : a = 0xF4 → b ≤ 0x8F)
    (hc : isTail c = true) (hd : isTail d = true) :
    String.utf8EncodeChar (charOfBytes [a, b, c, d]) = [a, b, c, d] := by
  simp only [isTail, Bool.and_eq_true, decide_eq_true_eq] at hc hd
  simp only [UInt8.le_iff_toNat_le, UInt8.reduceToNat, ← UInt8.toNat_inj]
    at ha ha' hb hb' hc hd hlong hscalar
  have hv : (charOfBytes [a, b, c, d]).val.toNat =
      (((a.toNat % 8) * 64 + b.toNat % 64) * 64 + c.toNat % 64) * 64 + d.toNat % 64 :=
    toNat_ofNat (by simp only [Nat.isValidChar]; omega)
  rw [String.utf8EncodeChar, hv, if_neg (by omega), if_neg (by omega), if_neg (by omega)]
  congr 1
  · exact UInt8.toNat_inj.mp (by simp; omega)
  · congr 1
    · exact UInt8.toNat_inj.mp (by simp; omega)
    · congr 1
      · exact UInt8.toNat_inj.mp (by simp; omega)
      · exact congrArg (· :: []) (UInt8.toNat_inj.mp (by simp; omega))

/-- What a lead byte and the byte behind it have to be. -/
theorem secondRange_spec {a low high b : UInt8} (h : secondRange a = some (low, high))
    (hb : low ≤ b) (hb' : b ≤ high) :
    0xC2 ≤ a ∧ a ≤ 0xF4 ∧ 0x80 ≤ b ∧ b ≤ 0xBF ∧ (a = 0xE0 → 0xA0 ≤ b) ∧ (a = 0xED → b ≤ 0x9F) ∧
      (a = 0xF0 → 0x90 ≤ b) ∧ (a = 0xF4 → b ≤ 0x8F) := by
  unfold secondRange at h
  simp only [Bool.and_eq_true, decide_eq_true_eq, beq_iff_eq, UInt8.le_iff_toNat_le,
    ← UInt8.toNat_inj, UInt8.reduceToNat] at h hb hb' ⊢
  repeat' split at h
  all_goals cases h
  all_goals
    simp only [UInt8.reduceToNat] at hb hb'
    omega

/-! ## Reading -/

theorem mapM_id_some (c : Char) (chunks : List (Option Char)) :
    (some c :: chunks).mapM id = (chunks.mapM id).map (c :: ·) := by
  cases h : chunks.mapM id <;> simp [List.mapM_cons, h]

theorem encode_of_chunk {c : Char} {bytes rest : List UInt8} {cs : List Char}
    (hbytes : String.utf8EncodeChar c = bytes)
    (hrest : ∀ {cs}, (decodeChunks rest).mapM id = some cs → encodeUtf8 cs = rest)
    (h : (some c :: decodeChunks rest).mapM id = some cs) : encodeUtf8 cs = bytes ++ rest := by
  rw [mapM_id_some] at h
  obtain ⟨cs', hcs', rfl⟩ := Option.map_eq_some_iff.mp h
  rw [encodeUtf8, List.flatMap_cons, hbytes, ← encodeUtf8, hrest hcs']

theorem encode_of_decodeUtf8? {bs : List UInt8} {cs : List Char} (h : decodeUtf8? bs = some cs) :
    encodeUtf8 cs = bs := by
  unfold decodeUtf8? at h
  fun_induction decodeChunks bs generalizing cs with
  | case1 =>
    obtain rfl : cs = [] := by simpa using h.symm
    rfl
  | case2 a rest hascii ih => exact encode_of_chunk (encodeChar_ascii hascii) ih h
  | case6 a hascii low high hlead b rest hb hshort ih =>
    obtain ⟨hlow, hhigh⟩ : low ≤ b ∧ b ≤ high := by simpa using hb
    obtain ⟨ha, -, htail, htail', -⟩ := secondRange_spec hlead hlow hhigh
    exact encode_of_chunk (encodeChar_two ha hshort htail htail') ih h
  | case9 a hascii low high hlead b hb hshort c rest hc hmiddle ih =>
    obtain ⟨hlow, hhigh⟩ : low ≤ b ∧ b ≤ high := by simpa using hb
    obtain ⟨-, -, htail, htail', hlong, hscalar, -⟩ := secondRange_spec hlead hlow hhigh
    refine encode_of_chunk (encodeChar_three ?_ hmiddle htail htail' hlong hscalar ?_) ih h
    · exact UInt8.not_lt.mp hshort
    · simpa using hc
  | case12 a hascii low high hlead b hb hshort c hc hmiddle d rest hd ih =>
    obtain ⟨hlow, hhigh⟩ : low ≤ b ∧ b ≤ high := by simpa using hb
    obtain ⟨-, ha, htail, htail', -, -, hlong, hscalar⟩ := secondRange_spec hlead hlow hhigh
    refine encode_of_chunk (encodeChar_four ?_ ha htail htail' hlong hscalar ?_ ?_) ih h
    · exact UInt8.not_lt.mp hmiddle
    · simpa using hc
    · simpa using hd
  | _ => simp at h

theorem decodeChunks_two {a b : UInt8} (rest : List UInt8) (ha : 0xC2 ≤ a) (ha' : a < 0xE0)
    (hb : isTail b = true) :
    decodeChunks (a :: b :: rest) = some (charOfBytes [a, b]) :: decodeChunks rest := by
  have hlead : secondRange a = some (0x80, 0xBF) := by grind [secondRange]
  have hascii : ¬ a < 0x80 := by grind
  have hb : 0x80 ≤ b ∧ b ≤ 0xBF := by simpa [isTail] using hb
  simp [decodeChunks, hascii, hlead, hb, ha']

theorem decodeChunks_three {a b c : UInt8} (rest : List UInt8) (ha : 0xE0 ≤ a) (ha' : a < 0xF0)
    (hb : isTail b = true) (hlong : a = 0xE0 → 0xA0 ≤ b) (hscalar : a = 0xED → b ≤ 0x9F)
    (hc : isTail c = true) :
    decodeChunks (a :: b :: c :: rest) = some (charOfBytes [a, b, c]) :: decodeChunks rest := by
  obtain ⟨low, high, hlead, hlow, hhigh⟩ :
      ∃ low high, secondRange a = some (low, high) ∧ low ≤ b ∧ b ≤ high := by
    unfold secondRange
    grind [isTail]
  have hascii : ¬ a < 0x80 := by grind
  have hshort : ¬ a < 0xE0 := by grind
  simp [decodeChunks, hascii, hlead, hlow, hhigh, hshort, ha', hc]

theorem decodeChunks_four {a b c d : UInt8} (rest : List UInt8) (ha : 0xF0 ≤ a) (ha' : a ≤ 0xF4)
    (hb : isTail b = true) (hlong : a = 0xF0 → 0x90 ≤ b) (hscalar : a = 0xF4 → b ≤ 0x8F)
    (hc : isTail c = true) (hd : isTail d = true) :
    decodeChunks (a :: b :: c :: d :: rest) =
      some (charOfBytes [a, b, c, d]) :: decodeChunks rest := by
  obtain ⟨low, high, hlead, hlow, hhigh⟩ :
      ∃ low high, secondRange a = some (low, high) ∧ low ≤ b ∧ b ≤ high := by
    unfold secondRange
    grind [isTail]
  have hascii : ¬ a < 0x80 := by grind
  have hshort : ¬ a < 0xE0 := by grind
  have hmiddle : ¬ a < 0xF0 := by grind
  simp [decodeChunks, hascii, hlead, hlow, hhigh, hshort, hmiddle, hc, hd]

theorem decodeChunks_one {a : UInt8} (rest : List UInt8) (ha : a < 0x80) :
    decodeChunks (a :: rest) = some (Char.ofNat a.toNat) :: decodeChunks rest := by
  rw [decodeChunks.eq_def]
  simp [ha]

theorem toNat_byte {n : Nat} (h : n < 256) : (UInt8.ofNat n).toNat = n :=
  UInt8.toNat_ofNat_of_lt' h

theorem isTail_ofNat (n : Nat) : isTail (UInt8.ofNat (n % 64 + 0x80)) = true := by
  have hn := toNat_byte (n := n % 64 + 0x80) (by omega)
  simp only [isTail, Bool.and_eq_true, decide_eq_true_eq, UInt8.le_iff_toNat_le, hn,
    UInt8.reduceToNat]
  omega

theorem decodeChunks_encodeChar (c : Char) (rest : List UInt8) :
    decodeChunks (String.utf8EncodeChar c ++ rest) = some c :: decodeChunks rest := by
  have hvalid : c.toNat < 0xD800 ∨ 0xDFFF < c.toNat ∧ c.toNat < 0x110000 := c.valid
  have hv : c.val.toNat = c.toNat := rfl
  have hc : Char.ofNat c.toNat = c := Char.ofNat_toNat c
  simp only [String.utf8EncodeChar, hv]
  generalize c.toNat = n at hvalid hc
  subst hc
  split
  · have ha := toNat_byte (n := n) (by omega)
    rw [List.singleton_append, decodeChunks_one rest (by simp [UInt8.lt_iff_toNat_lt]; omega), ha]
  split
  · have ha := toNat_byte (n := n / 64 % 32 + 0xC0) (by omega)
    have hb := toNat_byte (n := n % 64 + 0x80) (by omega)
    rw [List.cons_append, List.singleton_append, decodeChunks_two rest ?_ ?_ (isTail_ofNat n)]
    · simp only [charOfBytes, ha, hb]
      congr 3
      omega
    · simp only [UInt8.le_iff_toNat_le, ha, UInt8.reduceToNat]
      omega
    · simp only [UInt8.lt_iff_toNat_lt, ha, UInt8.reduceToNat]
      omega
  split
  · have ha := toNat_byte (n := n / 4096 % 16 + 0xE0) (by omega)
    have hb := toNat_byte (n := n / 64 % 64 + 0x80) (by omega)
    have hc := toNat_byte (n := n % 64 + 0x80) (by omega)
    simp only [List.cons_append, List.nil_append]
    rw [decodeChunks_three rest ?_ ?_ (isTail_ofNat _) ?_ ?_ (isTail_ofNat n)]
    · simp only [charOfBytes, ha, hb, hc]
      congr 3
      omega
    all_goals
      simp only [UInt8.le_iff_toNat_le, UInt8.lt_iff_toNat_lt, ← UInt8.toNat_inj, ha, hb,
        UInt8.reduceToNat]
      omega
  · have ha := toNat_byte (n := n / 262144 % 8 + 0xF0) (by omega)
    have hb := toNat_byte (n := n / 4096 % 64 + 0x80) (by omega)
    have hc := toNat_byte (n := n / 64 % 64 + 0x80) (by omega)
    have hd := toNat_byte (n := n % 64 + 0x80) (by omega)
    simp only [List.cons_append, List.nil_append]
    rw [decodeChunks_four rest ?_ ?_ (isTail_ofNat _) ?_ ?_ (isTail_ofNat _) (isTail_ofNat n)]
    · simp only [charOfBytes, ha, hb, hc, hd]
      congr 3
      omega
    all_goals
      simp only [UInt8.le_iff_toNat_le, ← UInt8.toNat_inj, ha, hb, UInt8.reduceToNat]
      omega

/-- The first byte of a character and its number are the same below 128, and lie both above
otherwise; the bytes behind it continue it. -/
theorem encodeChar_eq_cons (c : Char) :
    ∃ b tails, String.utf8EncodeChar c = b :: tails ∧ isTail b = false ∧
      (∀ t ∈ tails, isTail t = true) ∧ (b.toNat = c.toNat ∨ 0x80 ≤ b.toNat ∧ 0x80 ≤ c.toNat) := by
  have hvalid : c.toNat < 0xD800 ∨ 0xDFFF < c.toNat ∧ c.toNat < 0x110000 := c.valid
  have hv : c.val.toNat = c.toNat := rfl
  have hlead : ∀ n : Nat, n < 256 → (n < 0x80 ∨ 0xC0 ≤ n) →
      isTail (UInt8.ofNat n) = false ∧ (UInt8.ofNat n).toNat = n := by
    intro n hn hrange
    have hbyte := toNat_byte hn
    simp only [isTail, Bool.and_eq_false_iff, decide_eq_false_iff_not, UInt8.le_iff_toNat_le, hbyte,
      UInt8.reduceToNat, and_true]
    omega
  simp only [String.utf8EncodeChar, hv]
  split
  · obtain ⟨hhead, hnat⟩ := hlead c.toNat (by omega) (by omega)
    exact ⟨_, [], rfl, hhead, by simp, .inl hnat⟩
  split
  · obtain ⟨hhead, hnat⟩ := hlead (c.toNat / 64 % 32 + 0xC0) (by omega) (by omega)
    exact ⟨_, _, rfl, hhead, by simp [isTail_ofNat, -UInt8.ofNat_add], .inr (by omega)⟩
  split
  · obtain ⟨hhead, hnat⟩ := hlead (c.toNat / 4096 % 16 + 0xE0) (by omega) (by omega)
    exact ⟨_, _, rfl, hhead, by simp [isTail_ofNat, -UInt8.ofNat_add], .inr (by omega)⟩
  · obtain ⟨hhead, hnat⟩ := hlead (c.toNat / 262144 % 8 + 0xF0) (by omega) (by omega)
    exact ⟨_, _, rfl, hhead, by simp [isTail_ofNat, -UInt8.ofNat_add], .inr (by omega)⟩

theorem le_of_mem_encodeChar {c : Char} (h : 0x80 ≤ c.toNat) :
    ∀ b ∈ String.utf8EncodeChar c, 0x80 ≤ b.toNat := by
  obtain ⟨lead, tails, hbytes, -, htails, hlead⟩ := encodeChar_eq_cons c
  rw [hbytes, List.forall_mem_cons]
  refine ⟨by omega, fun b hb => ?_⟩
  have htail := htails b hb
  simp only [isTail, Bool.and_eq_true, decide_eq_true_eq] at htail
  exact UInt8.le_iff_toNat_le.mp htail.1

/-! ## Both ways -/

theorem encodeUtf8_append (cs cs' : List Char) :
    encodeUtf8 (cs ++ cs') = encodeUtf8 cs ++ encodeUtf8 cs' :=
  List.flatMap_append

theorem decodeUtf8?_encodeUtf8 (cs : List Char) : decodeUtf8? (encodeUtf8 cs) = some cs := by
  induction cs with
  | nil => rfl
  | cons c cs ih =>
    rw [decodeUtf8?, encodeUtf8, List.flatMap_cons, decodeChunks_encodeChar, mapM_id_some]
    rw [decodeUtf8?, encodeUtf8] at ih
    rw [ih]
    rfl

theorem decodeUtf8?_eq_some_iff {bs : List UInt8} {cs : List Char} :
    decodeUtf8? bs = some cs ↔ encodeUtf8 cs = bs :=
  ⟨encode_of_decodeUtf8?, fun h => h ▸ decodeUtf8?_encodeUtf8 cs⟩

/-! ## Order -/

/-- The bytes of a character come before those of a greater one, whatever follows either. -/
theorem encodeChar_append_lt {c d : Char} (h : c < d) (more more' : List UInt8) :
    String.utf8EncodeChar c ++ more < String.utf8EncodeChar d ++ more' := by
  have hlt : c.val.toNat < d.val.toNat := h
  have hd : d.val.toNat < 0x110000 := by
    have hvalid : d.toNat < 0xD800 ∨ 0xDFFF < d.toNat ∧ d.toNat < 0x110000 := d.valid
    have hv : d.val.toNat = d.toNat := rfl
    omega
  simp only [String.utf8EncodeChar]
  generalize c.val.toNat = n at hlt
  generalize d.val.toNat = m at hlt hd
  have htail : ∀ k : Nat, k % 64 + 128 < 2 ^ 8 := by omega
  have hn : (n / 262144 % 8 + 240) % 2 ^ 8 = n / 262144 + 240 := by omega
  have hm : (m / 262144 % 8 + 240) % 2 ^ 8 = m / 262144 + 240 := by omega
  -- the first digit in which the numbers differ
  have hdigit : n / 262144 < m / 262144 ∨
      n / 262144 = m / 262144 ∧ n / 4096 % 64 < m / 4096 % 64 ∨
      n / 4096 = m / 4096 ∧ n / 64 % 64 < m / 64 % 64 ∨ n / 64 = m / 64 ∧ n % 64 < m % 64 := by
    omega
  -- a longer row begins with a greater byte, and rows of one length are compared digit by digit
  repeat' split
  all_goals
    simp only [List.cons_append, List.nil_append, List.cons_lt_cons_iff, UInt8.lt_iff_toNat_lt,
      ← UInt8.toNat_inj, UInt8.toNat_ofNat', Nat.mod_eq_of_lt (htail _), hn, hm]
    omega

theorem encodeUtf8_lt {cs ds : List Char} (h : cs < ds) : encodeUtf8 cs < encodeUtf8 ds := by
  induction ds generalizing cs with
  | nil => cases h
  | cons d ds ih =>
    cases cs with
    | nil =>
      obtain ⟨b, tails, hbytes, -⟩ := encodeChar_eq_cons d
      rw [encodeUtf8, encodeUtf8, List.flatMap_cons, hbytes]
      exact List.nil_lt_cons _ _
    | cons c cs =>
      rw [encodeUtf8, encodeUtf8, List.flatMap_cons, List.flatMap_cons]
      rcases List.cons_lt_cons_iff.mp h with hcd | ⟨rfl, hrest⟩
      · exact encodeChar_append_lt hcd _ _
      · exact List.append_left_lt (ih hrest)

/-- Texts have the order of their bytes. -/
theorem utf8_lt_iff {s t : String} : utf8 s < utf8 t ↔ s < t := by
  constructor
  · intro h
    rcases Std.lt_trichotomy s t with hlt | rfl | hlt
    · exact hlt
    · exact absurd h (List.lt_irrefl _)
    · exact absurd (encodeUtf8_lt (String.lt_iff.mp hlt)) (List.lt_asymm h)
  · intro h
    exact encodeUtf8_lt (String.lt_iff.mp h)

end Wayfare.Text
