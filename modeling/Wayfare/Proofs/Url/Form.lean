import Wayfare.Proofs.Text.Utf8
import Wayfare.Proofs.Url.Host
import Wayfare.Url.Form

/-!
Pairs that are written into a query and read back. Keys and values are written in few characters, none
of which separates pairs or parts of them, so that any text comes back as it was.
-/
namespace Wayfare

theorem Text.decodeUtf8Lossy_encodeUtf8 (cs : List Char) :
    decodeUtf8Lossy (encodeUtf8 cs) = cs := by
  induction cs with
  | nil => rfl
  | cons c cs ih =>
    rw [decodeUtf8Lossy, encodeUtf8, List.flatMap_cons, decodeChunks_encodeChar, List.map_cons]
    exact congrArg (c :: ·) ih

theorem Text.lossyString_utf8 (s : String) : lossyString (utf8 s) = s := by
  rw [lossyString, utf8, decodeUtf8Lossy_encodeUtf8, String.ofList_toList]

/-- Around a separator a text falls into the pieces on either side. -/
theorem Text.cut_append (sep : Char) (front behind : List Char) :
    cut sep (front ++ sep :: behind) = cut sep front ++ cut sep behind :=
  cutBy_append (p := (· == sep)) (beq_self_eq_true sep) front behind

namespace Url.Form

/-! ## Keys and values -/

/-- The characters of written keys and values. -/
def isFormChar (c : Char) : Bool :=
  c.isAlphanum || c == '*' || c == '-' || c == '.' || c == '_' || c == '+' || c == '%'

/-- Plus signs are read as spaces. -/
def plusAsSpace (b : UInt8) : UInt8 :=
  if b == 0x2B then 0x20 else b

theorem decodeText_eq (cs : List Char) :
    decodeText cs = Text.lossyString (unescape ((Text.encodeUtf8 cs).map plusAsSpace)) := rfl

theorem byte_forall {p : UInt8 → Prop} (h : ∀ n < 256, p (UInt8.ofNat n)) (b : UInt8) : p b := by
  simpa using h b.toNat b.toNat_lt

theorem isFormChar_encodeByte (b : UInt8) : ∀ c ∈ encodeByte b, isFormChar c = true := by
  rw [← List.all_eq_true]
  revert b
  exact byte_forall (by decide +kernel)

/-- A digit of an escaped byte. -/
def digitByte (n : Nat) : UInt8 :=
  UInt8.ofNat (Text.hexDigitUpper n).toNat

/-- A byte that is written stands for itself once the plus signs are spaces, or it is escaped. -/
theorem encodeByte_cases (b : UInt8) :
    (Text.encodeUtf8 (encodeByte b)).map plusAsSpace = [b] ∧ (b == 0x25) = false ∨
      (Text.encodeUtf8 (encodeByte b)).map plusAsSpace =
          [0x25, digitByte (b.toNat / 16), digitByte (b.toNat % 16)] ∧
        hexPair? (digitByte (b.toNat / 16)) (digitByte (b.toNat % 16)) = some b := by
  revert b
  exact byte_forall (by decide +kernel)

theorem unescape_encodeByte (b : UInt8) (rest : List UInt8) :
    unescape ((Text.encodeUtf8 (encodeByte b)).map plusAsSpace ++ rest) = b :: unescape rest := by
  rcases encodeByte_cases b with ⟨hsafe, hsign⟩ | ⟨hescaped, hpair⟩
  · rw [hsafe, List.singleton_append, unescape_cons hsign]
  · rw [hescaped, List.cons_append, List.cons_append, List.singleton_append, unescape.eq_def]
    simp [hpair]

theorem unescape_encodeBytes (bs : List UInt8) :
    unescape ((Text.encodeUtf8 (bs.flatMap encodeByte)).map plusAsSpace) = bs := by
  induction bs with
  | nil => rfl
  | cons b bs ih =>
    rw [List.flatMap_cons, Text.encodeUtf8_append, List.map_append, unescape_encodeByte, ih]

theorem decodeText_encodeText (s : String) : decodeText (encodeText s) = s := by
  rw [decodeText_eq, encodeText, unescape_encodeBytes, Text.lossyString_utf8]

theorem isFormChar_encodeText (s : String) : ∀ c ∈ encodeText s, isFormChar c = true := by
  intro c hc
  obtain ⟨b, -, hb⟩ := List.mem_flatMap.mp hc
  exact isFormChar_encodeByte b c hb

/-! ## Pairs -/

theorem not_mem_of_isFormChar {sep : Char} (hsep : isFormChar sep = false) (s : String) :
    sep ∉ encodeText s := by
  intro hc
  rw [isFormChar_encodeText s sep hc] at hsep
  cases hsep

theorem decodePair_append {key : List Char} (h : '=' ∉ key) (value : List Char) :
    decodePair (key ++ '=' :: value) = (decodeText key, decodeText value) := by
  have hkey := Text.forall_bne_of_not_mem h
  rw [decodePair, List.takeWhile_append_of_pos hkey, List.dropWhile_append_of_pos hkey]
  simp

theorem decodePair_encodePair (pair : String × String) : decodePair (encodePair pair) = pair := by
  have hkey : '=' ∉ encodeText pair.1 := not_mem_of_isFormChar (by decide) _
  rw [encodePair, decodePair_append hkey, decodeText_encodeText, decodeText_encodeText]

theorem decode_append (query behind : List Char) :
    decode (query ++ '&' :: behind) = decode query ++ decode behind := by
  simp [decode, Text.cut_append]

theorem decode_encodePair (pair : String × String) : decode (encodePair pair) = [pair] := by
  have hone : ∀ c ∈ encodePair pair, (c == '&') = false := by
    intro c hc
    have hne : c ≠ '&' := by
      rintro rfl
      rcases List.mem_append.mp hc with hkey | hvalue
      · exact not_mem_of_isFormChar (by decide) _ hkey
      · exact not_mem_of_isFormChar (by decide) _ (List.mem_of_ne_of_mem (by decide) hvalue)
    simpa using hne
  have hnonempty : (encodePair pair).isEmpty = false := by simp [encodePair]
  rw [decode, Text.cut, Text.cutBy_of_forall_not hone]
  simp [hnonempty, decodePair_encodePair]

/-- The pairs that are written behind a query are read behind its own. -/
theorem decode_appendPairs (query : List Char) (pairs : List (String × String)) :
    decode (appendPairs query pairs) = decode query ++ pairs := by
  induction pairs generalizing query with
  | nil => simp [appendPairs]
  | cons pair rest ih =>
    rw [appendPairs, ih]
    cases query with
    | nil =>
      have hempty : decode [] = [] := rfl
      simp [hempty, decode_encodePair]
    | cons c cs =>
      have hmark : (if (c :: cs).isEmpty then [] else ['&']) = ['&'] := rfl
      rw [hmark, List.append_assoc, List.singleton_append, decode_append, decode_encodePair,
        List.append_assoc, List.singleton_append]

theorem decode_encode (pairs : List (String × String)) : decode (encode pairs) = pairs :=
  decode_appendPairs [] pairs

theorem encode_eq_nil_iff {pairs : List (String × String)} : encode pairs = [] ↔ pairs = [] := by
  constructor
  · intro h
    rw [← decode_encode pairs, h]
    rfl
  · rintro rfl
    rfl

/-- The characters of written pairs. -/
def isPairChar (c : Char) : Bool :=
  isFormChar c || c == '&' || c == '='

theorem isPairChar_encodePair (pair : String × String) :
    ∀ c ∈ encodePair pair, isPairChar c = true := by
  intro c hc
  rcases List.mem_append.mp hc with hkey | hvalue
  · simp [isPairChar, isFormChar_encodeText _ c hkey]
  · rcases List.mem_cons.mp hvalue with rfl | hvalue
    · rfl
    · simp [isPairChar, isFormChar_encodeText _ c hvalue]

theorem isPairChar_appendPairs {query : List Char} (hquery : ∀ c ∈ query, isPairChar c = true)
    (pairs : List (String × String)) : ∀ c ∈ appendPairs query pairs, isPairChar c = true := by
  induction pairs generalizing query with
  | nil => exact hquery
  | cons pair rest ih =>
    refine ih fun c hc => ?_
    rcases List.mem_append.mp hc with hfront | hpair
    · rcases List.mem_append.mp hfront with hc | hmark
      · exact hquery c hc
      · split at hmark
        · cases hmark
        · obtain rfl := List.mem_singleton.mp hmark
          rfl
    · exact isPairChar_encodePair pair c hpair

/-! ## The length of a query -/

theorem length_le_flatMap {α β : Type} {f : α → List β} (h : ∀ a, f a ≠ []) (as : List α) :
    as.length ≤ (as.flatMap f).length := by
  induction as with
  | nil => exact Nat.le_refl 0
  | cons a as ih =>
    have hone := List.length_pos_iff.mpr (h a)
    rw [List.flatMap_cons, List.length_append, List.length_cons]
    omega

theorem length_le_encodeText (s : String) : s.toList.length ≤ (encodeText s).length := by
  have hbyte : ∀ b, encodeByte b ≠ [] := by
    intro b
    unfold encodeByte
    split
    · simp
    · split <;> simp [escapeByte]
  have hchar : ∀ c, String.utf8EncodeChar c ≠ [] := by
    intro c
    obtain ⟨b, tails, h, -⟩ := Text.encodeChar_eq_cons c
    simp [h]
  exact Nat.le_trans (length_le_flatMap hchar s.toList) (length_le_flatMap hbyte _)

/-- A query is as long as each value in it. -/
theorem length_le_appendPairs (query : List Char) (pairs : List (String × String)) :
    query.length ≤ (appendPairs query pairs).length ∧
      ∀ pair ∈ pairs, pair.2.toList.length ≤ (appendPairs query pairs).length := by
  induction pairs generalizing query with
  | nil => simp [appendPairs]
  | cons pair rest ih =>
    obtain ⟨hquery, hrest⟩ :=
      ih (query ++ (if query.isEmpty then [] else ['&']) ++ encodePair pair)
    have hvalue := length_le_encodeText pair.2
    simp only [List.length_append, encodePair, List.length_cons] at hquery
    refine ⟨?_, List.forall_mem_cons.mpr ⟨?_, hrest⟩⟩
    · rw [appendPairs, encodePair]
      omega
    · rw [appendPairs, encodePair]
      omega

end Url.Form

end Wayfare
