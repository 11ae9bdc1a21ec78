import Wayfare.Proofs.Text.Utf8
import Wayfare.Url.Host

/-!
Hosts that end in a control or a space. No web address has one: the character stays at the end through
unescaping, decoding and composition, and there it is forbidden.
-/
namespace Wayfare

/-! ## The last character of a text -/

namespace Text

theorem eq_of_getLast?_encodeChar {c : Char} {b : UInt8}
    (h : (String.utf8EncodeChar c).getLast? = some b) (hb : b < 0x80) : c = Char.ofNat b.toNat := by
  have htail : ∀ k : Nat, UInt8.ofNat (k % 64 + 0x80) ≠ b := by
    rintro k rfl
    simp only [UInt8.lt_iff_toNat_lt, toNat_byte (show k % 64 + 0x80 < 256 by omega),
      UInt8.reduceToNat] at hb
    omega
  simp only [String.utf8EncodeChar] at h
  split at h
  · next hsmall =>
    obtain rfl : UInt8.ofNat c.val.toNat = b := by simpa using h
    rw [toNat_byte (by omega)]
    exact (Char.ofNat_toNat c).symm
  · split at h
    · exact absurd (by simpa using h) (htail c.val.toNat)
    · split at h
      · exact absurd (by simpa using h) (htail c.val.toNat)
      · exact absurd (by simpa using h) (htail c.val.toNat)

theorem decodeUtf8?_append_ascii {bs : List UInt8} {b : UInt8} (hb : b < 0x80) {cs : List Char}
    (h : decodeUtf8? (bs ++ [b]) = some cs) : ∃ front, cs = front ++ [Char.ofNat b.toNat] := by
  have hbytes := encode_of_decodeUtf8? h
  rcases List.eq_nil_or_concat cs with rfl | ⟨front, c, rfl⟩
  · simp [encodeUtf8] at hbytes
  · have hlast : (String.utf8EncodeChar c).getLast? = some b := by
      have hlong : String.utf8EncodeChar c ≠ [] := by
        rw [← List.length_pos_iff, String.length_utf8EncodeChar]
        exact Char.utf8Size_pos c
      have := congrArg List.getLast? hbytes
      simpa [encodeUtf8_append, encodeUtf8, List.getLast?_append, hlong] using this
    exact ⟨front, by rw [eq_of_getLast?_encodeChar hlast hb, List.concat_eq_append]⟩

theorem mem_cutBy {p : Char → Bool} {c : Char} {cs : List Char} (hc : c ∈ cs) (hp : p c = false) :
    ∃ piece ∈ cutBy p cs, c ∈ piece := by
  induction cs with
  | nil => cases hc
  | cons d cs ih =>
    rw [cutBy]
    rcases List.mem_cons.mp hc with rfl | hrest
    · rw [if_neg (by simp [hp])]
      split
      · exact ⟨_, List.mem_singleton_self _, List.mem_singleton_self _⟩
      · exact ⟨_, List.mem_cons_self, List.mem_cons_self⟩
    · obtain ⟨piece, hpiece, hin⟩ := ih hrest
      split
      · exact ⟨piece, List.mem_cons_of_mem _ hpiece, hin⟩
      · split
        · next hnone => exact absurd hnone (cutBy_ne_nil p cs)
        · next w ws hcut =>
          rw [hcut] at hpiece
          rcases List.mem_cons.mp hpiece with rfl | hmore
          · exact ⟨_, List.mem_cons_self, List.mem_cons_of_mem _ hin⟩
          · exact ⟨piece, List.mem_cons_of_mem _ hmore, hin⟩

end Text

namespace Url

/-! ## A control or a space at the end -/

variable {c : Char}

theorem hexPair?_of_right {a b : UInt8} (hhex : Text.hexValue? (Char.ofNat b.toNat) = none) :
    hexPair? a b = none := by
  rw [hexPair?]
  split
  · rw [hhex]
    split <;> simp_all
  · rfl

theorem hexPair?_of_left {a : UInt8} (h : Text.hexValue? (Char.ofNat a.toNat) = none) (b : UInt8) :
    hexPair? a b = none := by
  rw [hexPair?]
  split
  · rw [h]
  · rfl

theorem unescape_cons {b : UInt8} (h : (b == 0x25) = false) (rest : List UInt8) :
    unescape (b :: rest) = b :: unescape rest := by
  rw [unescape.eq_def]
  simp [h]

theorem unescape_append {b : UInt8} (hhex : Text.hexValue? (Char.ofNat b.toNat) = none)
    (bs : List UInt8) : unescape (bs ++ [b]) = unescape bs ++ [b] := by
  fun_induction unescape bs with
  | case1 => simp [unescape]
  | case2 sign hsign x y more v hpair ih => simp [unescape, hsign, hpair, ih]
  | case3 sign hsign x y more hpair ih =>
    rw [List.cons_append] at ih
    simpa [unescape, hsign, hpair] using ih
  | case4 sign hsign short hshort ih =>
    match short with
    | [] => simp [unescape, hsign]
    | [x] => simp [unescape, hsign, hexPair?_of_right hhex]
    | x :: y :: more => exact absurd rfl (hshort x y more)
  | case5 a rest ha ih =>
    rw [List.cons_append, unescape_cons (by simpa using ha), ih, List.cons_append]

namespace Idna

theorem mapChar_ascii (hc : c.toNat < 0x80) : mapChar c = some [c.toLower] := by
  simp [mapChar, hc]

theorem decompose_ascii (hc : c.toNat < 0x80) (depth : Nat) : decompose depth c = [c] := by
  cases depth with
  | zero => rfl
  | succ depth => rw [decompose, if_pos hc]

theorem markClass_ascii (hc : c.toNat < 0x80) : markClass c = 0 := by
  rw [markClass, if_pos (by omega)]

theorem composePair_ascii (hc : c.toNat < 0x80) (base : Char) : composePair base c = none := by
  simp [composePair, hc]

theorem orderMarks_append (hc : c.toNat < 0x80) (marks : List (Char × Nat)) (cs ds : List Char) :
    orderMarks marks (cs ++ c :: ds) = orderMarks marks cs ++ (c, 0) :: orderMarks [] ds := by
  induction cs generalizing marks with
  | nil => simp [orderMarks, markClass_ascii hc]
  | cons d cs ih =>
    simp only [List.cons_append, orderMarks]
    split
    · rw [ih]; simp
    · exact ih _

theorem compose_append (hc : c.toNat < 0x80) (base : Option Char) (kept s t : List (Char × Nat)) :
    compose base kept (s ++ (c, 0) :: t) = compose base kept s ++ compose (some c) [] t := by
  fun_induction compose base kept s with
  | case1 base kept => cases base <;> simp [compose, composePair_ascii hc]
  | case2 kept d k rest hk ih => simp [compose, hk, ih]
  | case3 kept d k rest hk ih => simp [compose, hk, ih]
  | case4 base kept d k rest blocked joined hjoined ih =>
    simp only [List.cons_append, compose]
    rw [show (if blocked = true then none else composePair base d) = some joined from hjoined]
    exact ih
  | case5 base kept d k rest blocked hjoined hk ih =>
    simp only [List.cons_append, compose]
    rw [show (if blocked = true then none else composePair base d) = none from hjoined]
    simp [hk, ih]
  | case6 base kept d k rest blocked hjoined hk ih =>
    simp only [List.cons_append, compose]
    rw [show (if blocked = true then none else composePair base d) = none from hjoined]
    simp [hk, ih]

theorem composed_append (hc : c.toNat < 0x80) (cs : List Char) :
    composed (cs ++ [c]) = composed cs ++ [c] := by
  rw [composed, List.flatMap_append, List.flatMap_singleton, decompose_ascii hc,
    orderMarks_append hc, compose_append hc]
  rfl

theorem toLower_of_control (hc : c.toNat ≤ 0x20) : c.toLower = c := by
  refine dif_neg ?_
  rintro ⟨hA, -⟩
  have : 65 ≤ c.toNat := UInt32.le_iff_toNat_le.mp hA
  omega

theorem mapped_append (hc : c.toNat ≤ 0x20) {front mapped : List Char}
    (h : ((front ++ [c]).mapM mapChar).map List.flatten = some mapped) :
    ∃ start, mapped = start ++ [c] := by
  have hlast : mapChar c = some [c] := by
    rw [mapChar_ascii (by omega), toLower_of_control hc]
  rcases hfront : front.mapM mapChar with _ | parts
  · simp [List.mapM_append, hfront] at h
  · refine ⟨parts.flatten, ?_⟩
    simpa [List.mapM_append, hfront, hlast] using h.symm

theorem processLabel_of_mem {label : List Char} (hforbidden : isForbidden c = true)
    (h : c ∈ label) : processLabel label = none := by
  have hany : label.any isForbidden = true := List.any_eq_true.mpr ⟨c, h, hforbidden⟩
  simp [processLabel, labelFits, hany]

theorem mapM_processLabel_of_mem {labels : List (List Char)} {label : List Char}
    (hlabel : label ∈ labels) (h : processLabel label = none) :
    labels.mapM processLabel = none := by
  induction labels with
  | nil => cases hlabel
  | cons first rest ih =>
    rcases List.mem_cons.mp hlabel with rfl | hrest
    · simp [List.mapM_cons, h]
    · cases hfirst : processLabel first <;> simp [List.mapM_cons, hfirst, ih hrest]

theorem toAscii_append {b : UInt8} (hc : c.toNat ≤ 0x20) (hb : b.toNat = c.toNat)
    (bs : List UInt8) : toAscii (bs ++ [b]) = .error .badDomain := by
  have hbyte : Char.ofNat b.toNat = c := by rw [hb, Char.ofNat_toNat]
  have hforbidden : isForbidden c = true := by simp [isForbidden, hc]
  have hascii : b < 0x80 := UInt8.lt_iff_toNat_lt.mpr (by simp; omega)
  rw [toAscii]
  split
  · rfl
  next name hname =>
  obtain ⟨front, rfl⟩ := Text.decodeUtf8?_append_ascii hascii hname
  rw [hbyte]
  split
  · rw [if_pos (List.any_eq_true.mpr ⟨c, by simp, hforbidden⟩)]
  split
  · rfl
  next mapped hmapped =>
  obtain ⟨start, rfl⟩ := mapped_append hc hmapped
  have hdot : (c == '.') = false := by
    rw [beq_eq_false_iff_ne]
    rintro rfl
    exact absurd hc (by decide)
  have hmem : c ∈ composed (start ++ [c]) := by
    rw [composed_append (by omega)]
    simp
  obtain ⟨label, hlabel, hin⟩ := Text.mem_cutBy (p := (· == '.')) hmem hdot
  rw [Text.cut, mapM_processLabel_of_mem hlabel (processLabel_of_mem hforbidden hin)]

end Idna

theorem hexValue?_of_control (hc : c.toNat ≤ 0x20) : Text.hexValue? c = none := by
  have hlow {d : Char} (hd : 0x20 < d.toNat) : decide (d ≤ c) = false := by
    rw [decide_eq_false_iff_not]
    intro hle
    have : d.toNat ≤ c.toNat := UInt32.le_iff_toNat_le.mp hle
    omega
  simp [Text.hexValue?, hlow (d := '0') (by decide), hlow (d := 'a') (by decide),
    hlow (d := 'A') (by decide)]

theorem parseBracketed_append (hc : c ≠ ']') (cs : List Char) :
    parseBracketed (cs ++ [c]) = .error .badIpv6 := by
  simp [parseBracketed, hc]

/-- No host of a web address ends in a control or a space. -/
theorem parseWebHost_append (hc : c.toNat ≤ 0x20) (cs : List Char) :
    ∃ f, parseWebHost (cs ++ [c]) = .error f := by
  rw [parseWebHost]
  split
  · exact ⟨_, parseBracketed_append (by rintro rfl; exact absurd hc (by decide)) cs⟩
  · have hchar : String.utf8EncodeChar c = [UInt8.ofNat c.toNat] := by
      rw [String.utf8EncodeChar, if_pos (show c.val.toNat ≤ 127 from Nat.le_trans hc (by decide))]
      rfl
    have hbytes : Text.encodeUtf8 (cs ++ [c]) = Text.encodeUtf8 cs ++ [UInt8.ofNat c.toNat] := by
      rw [Text.encodeUtf8_append, Text.encodeUtf8, Text.encodeUtf8, List.flatMap_singleton, hchar]
    have hbyte : (UInt8.ofNat c.toNat).toNat = c.toNat := Text.toNat_byte (by omega)
    rw [hbytes, unescape_append (by rw [hbyte, Char.ofNat_toNat, hexValue?_of_control hc]),
      Idna.toAscii_append hc hbyte]
    exact ⟨_, rfl⟩

end Url

end Wayfare
