import Wayfare.Proofs.Json.Containers

/-!
Reading agrees with the grammar: a value is read from exactly the texts of that value, whatever follows
them, and a whole text is read exactly if it is one document.
-/
namespace Wayfare.Json

open Scan

variable {bs rest : List UInt8}

/-! ## Values -/

section

variable {w t more : List UInt8} {v : Json} {depth : Nat}

theorem word_append (letters rest : List UInt8) : word letters (letters ++ rest) = .ok ((), rest) := by
  induction letters with
  | nil => rfl
  | cons letter letters ih => simpa [word] using ih

theorem eq_of_word {letters : List UInt8} (h : word letters bs = .ok ((), rest)) :
    bs = letters ++ rest := by
  induction letters generalizing bs with
  | nil =>
    cases h
    rfl
  | cons letter letters ih =>
    match bs with
    | [] => cases h
    | b :: more =>
      rw [word] at h
      split at h
      · next hb => rw [beq_iff_eq.mp hb, ih h, List.cons_append]
      · cases h

theorem exists_of_map_ok {α β : Type} {f : α → β} {r : Read α} {y : β}
    (h : r.map (Prod.map f id) = .ok (y, rest)) : ∃ a, r = .ok (a, rest) ∧ f a = y := by
  obtain ⟨a, ha, hpair⟩ := exists_of_map_eq_ok h
  cases hpair
  exact ⟨a.1, ha, rfl⟩

theorem Stops.of_not_number (h : t.head?.all (!startsNumber ·)) (rest : List UInt8) : Stops t rest := by
  intro hnumber
  cases t <;> simp_all

theorem Scalar.begins (h : Scalar t v) :
    ∃ b more, t = b :: more ∧ Text.isBlankByte b = false ∧ b ≠ 0x5D := by
  cases h with
  | nullWord => exact ⟨_, _, rfl, by decide⟩
  | trueWord => exact ⟨_, _, rfl, by decide⟩
  | falseWord => exact ⟨_, _, rfl, by decide⟩
  | string hs => exact ⟨_, _, rfl, by decide⟩
  | @number m x hx =>
    have hhead := head?_bytes m
    cases hm : m.bytes with
    | nil => simp [hm] at hhead
    | cons b more =>
      have hb : startsNumber b = true := by simpa [hm] using hhead
      refine ⟨b, more, rfl, ?_, ?_⟩
      · grind [Text.isBlankByte, startsNumber, isDigit]
      · rintro rfl
        exact absurd hb (by decide)

theorem value_begins (h : Value depth t v) :
    ∃ b more, t = b :: more ∧ Text.isBlankByte b = false ∧ b ≠ 0x5D := by
  cases depth with
  | zero => exact Scalar.begins h
  | succ depth =>
    rcases h with h | h
    · exact h.begins
    · cases h with
      | array h => exact ⟨_, _, rfl, by decide⟩
      | object h => exact ⟨_, _, rfl, by decide⟩

theorem value_number {b : UInt8} (hb : startsNumber b = true) (hskip : skipSpace bs = b :: more)
    (depth : Nat) :
    value depth bs = (numberAt (b :: more)).map fun (n, rest) => (.number n, rest) := by
  have hne : ∀ c : UInt8, startsNumber c = false → (b == c) = false := by
    intro c hc
    rw [beq_eq_false_iff_ne]
    rintro rfl
    exact Bool.false_ne_true (hc.symm.trans hb)
  rw [value, hskip]
  simp [hne 0x6E rfl, hne 0x74 rfl, hne 0x66 rfl, hb]

theorem Scalar.read (h : Scalar t v) (hw : Spaces w) (hstops : Stops t rest) (depth : Nat) :
    value depth (w ++ (t ++ rest)) = .ok (v, rest) := by
  obtain ⟨b, more, hcons, hblank, -⟩ := h.begins
  have hskip : skipSpace (w ++ (t ++ rest)) = t ++ rest :=
    skipSpace_append hw (by simp [hcons, not_isSpace_of_not_isBlankByte hblank])
  cases h with
  | nullWord =>
    rw [value, hskip, show Text.utf8 "null" ++ rest = 0x6E :: (afterN ++ rest) from rfl]
    simp [word_append, Except.map]
  | trueWord =>
    rw [value, hskip, show Text.utf8 "true" ++ rest = 0x74 :: (afterT ++ rest) from rfl]
    simp [word_append, Except.map]
  | falseWord =>
    rw [value, hskip, show Text.utf8 "false" ++ rest = 0x66 :: (afterF ++ rest) from rfl]
    simp [word_append, Except.map]
  | string hs =>
    have hnumber : startsNumber 0x22 = false := rfl
    rw [value, hskip]
    simp [hs.read, hnumber, Except.map]
  | @number m x hx =>
    have hb : startsNumber b = true := by
      have hhead := head?_bytes m
      simpa [hcons] using hhead
    have hread := numberAt_eq_ok_iff.mpr ⟨m, rfl, stops_bytes_iff.mp hstops, hx⟩
    rw [hcons, List.cons_append] at hskip hread
    rw [hcons, List.cons_append, value_number hb hskip, hread]
    rfl

/-- A value without parts is read alike at every depth. -/
theorem scalar_of_read {b : UInt8} (hb : b ≠ 0x5B ∧ b ≠ 0x7B) (hskip : skipSpace bs = b :: more)
    (h : value depth bs = .ok (v, rest)) : ∃ t, b :: more = t ++ rest ∧ Scalar t v ∧ Stops t rest := by
  have hword : ∀ {letters : List UInt8} {u : Json} {c : UInt8}, b = c →
      (word letters more).map (Prod.map (fun _ => u) id) = .ok (v, rest) →
      Scalar (c :: letters) u → startsNumber c = false →
      ∃ t, b :: more = t ++ rest ∧ Scalar t v ∧ Stops t rest := by
    rintro letters u c rfl h hscalar hc
    obtain ⟨done, hletters, rfl⟩ := exists_of_map_ok h
    rw [eq_of_word hletters]
    exact ⟨b :: letters, rfl, hscalar, .of_not_number (by simp [hc]) rest⟩
  rw [value, hskip] at h
  simp only [beq_iff_eq, hb.1, hb.2, if_false] at h
  split at h
  · next hb => exact hword hb h .nullWord rfl
  split at h
  · next hb => exact hword hb h .trueWord rfl
  split at h
  · next hb => exact hword hb h .falseWord rfl
  split at h
  · obtain ⟨x, hx, rfl⟩ := exists_of_map_ok h
    obtain ⟨m, hsplit, hends, hvalue⟩ := numberAt_eq_ok_iff.mp hx
    exact ⟨m.bytes, hsplit, .number hvalue, stops_bytes_iff.mpr hends⟩
  split at h
  · next hb =>
    obtain ⟨s, hs, rfl⟩ := exists_of_map_ok h
    obtain ⟨text, rfl, htext⟩ := chars_of_read hs
    exact ⟨0x22 :: (text ++ [0x22]), by simp [hb], .string htext, .of_not_number rfl rest⟩
  · cases h

theorem container_of_read {b : UInt8} (hb : b = 0x5B ∨ b = 0x7B)
    (hread : Agrees (value depth) (Value depth)) (hskip : skipSpace bs = b :: more)
    (h : value (depth + 1) bs = .ok (v, rest)) :
    ∃ t, b :: more = t ++ rest ∧ Container (Value depth) t v ∧ Stops t rest := by
  rw [value, hskip] at h
  rcases hb with rfl | rfl
  · obtain ⟨vs, hvs, rfl⟩ := exists_of_map_ok h
    obtain ⟨text, rfl, htext⟩ := list_of_read hread hvs
    exact ⟨0x5B :: text, rfl, .array htext, .of_not_number rfl rest⟩
  · obtain ⟨fields, hfields, rfl⟩ := exists_of_map_ok h
    obtain ⟨text, written, rfl, htext, rfl⟩ := object_of_read hread hfields
    exact ⟨0x7B :: text, rfl, .object htext, .of_not_number rfl rest⟩

theorem no_container {b : UInt8} (hb : b = 0x5B ∨ b = 0x7B) (hskip : skipSpace bs = b :: more) :
    value 0 bs ≠ .ok (v, rest) := by
  intro h
  rw [value, hskip] at h
  rcases hb with rfl | rfl <;> cases h

theorem Container.read (hread : Agrees (value depth) (Value depth)) (h : Container (Value depth) t v)
    (hw : Spaces w) (rest : List UInt8) : value (depth + 1) (w ++ (t ++ rest)) = .ok (v, rest) := by
  cases h with
  | @array text vs h =>
    have hskip : skipSpace (w ++ (0x5B :: text ++ rest)) = 0x5B :: (text ++ rest) :=
      skipSpace_append hw rfl
    rw [value, hskip]
    exact congrArg (Except.map (Prod.map Json.array id)) (h.readList hread rest)
  | @object text fields h =>
    have hskip : skipSpace (w ++ (0x7B :: text ++ rest)) = 0x7B :: (text ++ rest) :=
      skipSpace_append hw rfl
    rw [value, hskip]
    exact congrArg (Except.map (Prod.map Json.object id)) (h.readObject hread rest)

theorem start_of_read (h : value depth bs = .ok (v, rest)) :
    ∃ w b more, Spaces w ∧ bs = w ++ b :: more ∧ skipSpace bs = b :: more := by
  cases hskip : skipSpace bs with
  | nil =>
    rw [value, hskip] at h
    cases h
  | cons b more =>
    obtain ⟨w, hw, hbs, -⟩ := skipSpace_eq_cons_iff.mp hskip
    exact ⟨w, b, more, hw, hbs, rfl⟩

/-- A value is read from exactly the texts of that value, whatever follows them. -/
theorem value_agrees (depth : Nat) : Agrees (value depth) (Value depth) := by
  induction depth with
  | zero =>
    refine ⟨value_begins, ?_, fun hw ht hstops => Scalar.read ht hw hstops 0⟩
    intro bs v rest h
    obtain ⟨w, b, more, hw, rfl, hskip⟩ := start_of_read h
    by_cases hb : b = 0x5B ∨ b = 0x7B
    · exact absurd h (no_container hb hskip)
    · obtain ⟨t, hsplit, ht, hstops⟩ := scalar_of_read (not_or.mp hb) hskip h
      exact ⟨w, t, by rw [hsplit], hw, ht, hstops⟩
  | succ depth ih =>
    refine ⟨value_begins, ?_, ?_⟩
    · intro bs v rest h
      obtain ⟨w, b, more, hw, rfl, hskip⟩ := start_of_read h
      by_cases hb : b = 0x5B ∨ b = 0x7B
      · obtain ⟨t, hsplit, ht, hstops⟩ := container_of_read hb ih hskip h
        exact ⟨w, t, by rw [hsplit], hw, .inr ht, hstops⟩
      · obtain ⟨t, hsplit, ht, hstops⟩ := scalar_of_read (not_or.mp hb) hskip h
        exact ⟨w, t, by rw [hsplit], hw, .inl ht, hstops⟩
    · rintro w t v rest hw (ht | ht) hstops
      · exact ht.read hw hstops (depth + 1)
      · exact ht.read ih hw rest

end

/-! ## Whole texts -/

/-- A text is one document exactly if it is that of a value with nothing but blanks around it. -/
theorem parse?_eq_some_iff {v : Json} : parse? bs = some v ↔ Document bs v := by
  rw [parse?, toOption_eq_some_iff]
  constructor
  · intro h
    rw [parse] at h
    split at h
    · cases h
    next v' rest hv =>
    split at h
    · next hrest =>
      cases h
      obtain ⟨w, t, rfl, hw, ht, -⟩ := (value_agrees maxDepth).sound hv
      exact ⟨w, t, rest, rfl, hw, ht, spaces_of_skipSpace hrest⟩
    · cases h
  · rintro ⟨w, t, w', rfl, hw, ht, hw'⟩
    rw [parse, (value_agrees maxDepth).complete hw ht (hw'.stops t)]
    simp only [skipSpace_spaces hw']

/-- What is read first from a text is the value of a text that ends there, and what follows it is left
unread. -/
theorem readFirst_eq_ok_iff {v : Json} :
    readFirst bs = .ok v ↔
      ∃ w t rest, bs = w ++ (t ++ rest) ∧ Spaces w ∧ Value maxDepth t v ∧ Stops t rest := by
  constructor
  · intro h
    obtain ⟨⟨v, rest⟩, hv, rfl⟩ := exists_of_map_eq_ok h
    obtain ⟨w, t, hbs, hw, ht, hstops⟩ := (value_agrees maxDepth).sound hv
    exact ⟨w, t, rest, hbs, hw, ht, hstops⟩
  · rintro ⟨w, t, rest, rfl, hw, ht, hstops⟩
    rw [readFirst, (value_agrees maxDepth).complete hw ht hstops]
    rfl

end Wayfare.Json
