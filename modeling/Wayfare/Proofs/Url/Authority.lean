import Wayfare.Proofs.Except
import Wayfare.Proofs.Text.Span
import Wayfare.Proofs.Url.Host
import Wayfare.Url.Authority

/-!
Authorities with more text behind them: controls and spaces at the end of an authority are taken for
a part of its host or of its port.
-/
namespace Wayfare.Url

/-- Controls and spaces. -/
def AllControl (cs : List Char) : Prop :=
  ∀ c ∈ cs, c.toNat ≤ 0x20

namespace AllControl

variable {cs : List Char}

theorem not_mem (h : AllControl cs) {c : Char} (hc : 0x20 < c.toNat) : c ∉ cs :=
  fun hin => Nat.not_lt.mpr (h c hin) hc

theorem any_isSlash (h : AllControl cs) (family : Family) : cs.any family.isSlash = false := by
  rw [List.any_eq_false]
  intro c hc hslash
  have : c = '/' ∨ c = '\\' := by
    rw [Family.isSlash, Bool.or_eq_true, Bool.and_eq_true] at hslash
    exact hslash.imp (by simp) (by simp)
  rcases this with rfl | rfl <;> exact absurd (h _ hc) (by decide)

theorem exists_last (h : AllControl cs) (hne : cs ≠ []) :
    ∃ front c, cs = front ++ [c] ∧ c.toNat ≤ 0x20 := by
  rcases List.eq_nil_or_concat cs with rfl | ⟨front, c, rfl⟩
  · exact absurd rfl hne
  · exact ⟨front, c, List.concat_eq_append, h c (by simp)⟩

end AllControl

/-! ## The parts of an authority -/

variable {text more : List Char}

theorem cutUser_append (hat : '@' ∉ more) :
    cutUser (text ++ more) = ((cutUser text).1, (cutUser text).2 ++ more) := by
  have hall : ∀ c ∈ more.reverse, (c != '@') = true :=
    Text.forall_bne_of_not_mem (by simpa using hat)
  unfold cutUser
  by_cases hin : text.contains '@'
  · have hin' : (text ++ more).contains '@' := by simp_all
    rw [if_pos hin, if_pos hin', List.reverse_append, List.takeWhile_append_of_pos hall]
    simp only [List.reverse_append, List.reverse_reverse, List.length_append, Prod.mk.injEq,
      Option.some.injEq, and_true]
    rw [List.take_append_of_le_length (by omega)]
    congr 1
    omega
  · have hin' : ¬ (text ++ more).contains '@' := by simp_all
    rw [if_neg hin, if_neg hin']

theorem mem_of_mem_cutHost {inside : Bool} {c : Char} (h : c ∈ (cutHost inside text).2) :
    c ∈ text := by
  induction text generalizing inside with
  | nil => exact h
  | cons d cs ih =>
    rw [cutHost] at h
    split at h
    · exact h
    · exact List.mem_cons_of_mem _ (ih h)

theorem cutHost_of_not_mem (inside : Bool) (hcolon : ':' ∉ text) :
    cutHost inside text = (text, []) := by
  induction text generalizing inside with
  | nil => rfl
  | cons c cs ih =>
    have hc : (c == ':') = false := by
      rw [beq_eq_false_iff_ne]
      rintro rfl
      exact hcolon List.mem_cons_self
    simp [cutHost, hc, ih _ (fun h => hcolon (List.mem_cons_of_mem _ h))]

theorem cutHost_append (inside : Bool) (hcolon : ':' ∉ more) :
    cutHost inside (text ++ more) =
      if (cutHost inside text).2 = [] then (text ++ more, [])
      else ((cutHost inside text).1, (cutHost inside text).2 ++ more) := by
  induction text generalizing inside with
  | nil => simp [cutHost, cutHost_of_not_mem inside hcolon]
  | cons c cs ih =>
    simp only [List.cons_append, cutHost]
    split
    · simp
    · simp only [ih]
      split <;> simp

theorem cutHost_fst (inside : Bool) (h : (cutHost inside text).2 = []) :
    (cutHost inside text).1 = text := by
  simpa [h] using congrArg Prod.fst (@cutHost_append text [] inside List.not_mem_nil)

/-! ## Authorities that can be read -/

variable {default? : Option Nat}

theorem not_isDigit_of_control {c : Char} (hc : c.toNat ≤ 0x20) : c.isDigit = false := by
  rw [Char.isDigit, Bool.and_eq_false_iff]
  left
  rw [decide_eq_false_iff_not]
  intro h
  have : 48 ≤ c.toNat := UInt32.le_iff_toNat_le.mp h
  omega

theorem AllControl.head?_not_isDigit (h : AllControl more) : more.head?.all (!Char.isDigit ·) := by
  cases more with
  | nil => rfl
  | cons c cs => simp [not_isDigit_of_control (h c List.mem_cons_self)]

theorem readPort_append {digits rest : List Char} {port : Option Nat}
    (h : readPort default? digits = .ok (port, rest)) (hmore : AllControl more) (hne : more ≠ []) :
    readPort default? (digits ++ more) =
      if digits.all Char.isDigit then .error .badPort else .ok (port, rest ++ more) := by
  simp only [readPort, Text.takeWhile_append_of_head hmore.head?_not_isDigit,
    Text.dropWhile_append_of_head hmore.head?_not_isDigit] at h ⊢
  split at h
  · cases h
  next hsize =>
  split at h
  · cases h
  next hhead =>
  obtain ⟨rfl, rfl⟩ := Prod.mk.inj (Except.ok.inj h)
  rw [if_neg hsize]
  by_cases hall : digits.all Char.isDigit
  · have hnone : digits.dropWhile Char.isDigit = [] :=
      List.dropWhile_eq_nil_iff.mpr (List.all_eq_true.mp hall)
    obtain ⟨c, cs, rfl⟩ := List.exists_cons_of_ne_nil hne
    have hc : c ≠ '\\' := by
      rintro rfl
      exact absurd (hmore _ List.mem_cons_self) (by decide)
    rw [hnone, if_pos hall, if_pos (by simp [hc])]
  · obtain ⟨c, cs, hsome⟩ : ∃ c cs, digits.dropWhile Char.isDigit = c :: cs :=
      List.exists_cons_of_ne_nil fun hnone =>
        hall (List.all_eq_true.mpr (List.dropWhile_eq_nil_iff.mp hnone))
    rw [hsome] at hhead
    rw [if_neg hall, hsome, List.cons_append, List.head?_cons, if_neg (by simpa using hhead)]

theorem digits_of_readPort {digits : List Char} {x : Option Nat × List Char}
    (h : readPort default? digits = .ok x) (hslash : '\\' ∉ digits) :
    digits.all Char.isDigit = true := by
  simp only [readPort] at h
  split at h
  · cases h
  split at h
  · cases h
  next hhead =>
  rw [List.all_eq_true, ← List.dropWhile_eq_nil_iff]
  match hrest : digits.dropWhile Char.isDigit with
  | [] => rfl
  | c :: cs =>
    have hc : c = '\\' := by simpa [hrest] using hhead
    have hin : c ∈ digits := (List.dropWhile_sublist _).subset (hrest ▸ List.mem_cons_self)
    exact absurd (hc ▸ hin) hslash

theorem readHostPort_of_cutHost_nil {family : Family} {cs : List Char}
    (hcut : (cutHost false cs).2 = []) :
    readHostPort family default? cs = (parseHost family cs).map fun host => (host, none, []) := by
  simp only [readHostPort, hcut, cutHost_fst false hcut]
  cases parseHost family cs <;> rfl

theorem isOk_readHostPort_of_cutHost_nil {family : Family} {cs : List Char}
    (hcut : (cutHost false cs).2 = []) :
    (readHostPort family default? cs).isOk = (parseHost family cs).isOk := by
  rw [readHostPort_of_cutHost_nil hcut]
  cases parseHost family cs <;> rfl

theorem readHostPort_of_cutHost_cons {family : Family} {cs digits : List Char} {host : Host}
    {colon : Char} (hcut : (cutHost false cs).2 = colon :: digits)
    (hhost : parseHost family (cutHost false cs).1 = .ok host) (hempty : host.isEmpty = false) :
    readHostPort family default? cs =
      (readPort default? digits).map fun (port, rest) => (host, port, rest) := by
  simp [readHostPort, hcut, hhost, hempty]

theorem port_of_readHostPort {family : Family} {cs rest digits : List Char} {host : Host}
    {port : Option Nat} {colon : Char}
    (h : readHostPort family default? cs = .ok (host, port, rest))
    (hcut : (cutHost false cs).2 = colon :: digits) :
    parseHost family (cutHost false cs).1 = .ok host ∧ host.isEmpty = false ∧
      readPort default? digits = .ok (port, rest) := by
  simp only [readHostPort, hcut] at h
  match hhost : parseHost family (cutHost false cs).1 with
  | .error f => simp [hhost] at h
  | .ok host' =>
    simp only [hhost] at h
    split at h
    · cases h
    next hempty =>
    obtain ⟨_, hport, heq⟩ := exists_of_map_eq_ok h
    cases heq
    exact ⟨rfl, by simpa using hempty, hport⟩

/-! ## More text behind a host or a port -/

theorem readHostPort_append {family : Family} {cs rest : List Char} {host : Host}
    {port : Option Nat} {colon : Char} {digits : List Char}
    (h : readHostPort family default? cs = .ok (host, port, rest))
    (hcut : (cutHost false cs).2 = colon :: digits) (hmore : AllControl more) (hne : more ≠ []) :
    readHostPort family default? (cs ++ more) =
      if digits.all Char.isDigit then .error .badPort else .ok (host, port, rest ++ more) := by
  have hcut' : cutHost false (cs ++ more) = ((cutHost false cs).1, colon :: (digits ++ more)) := by
    rw [cutHost_append false (hmore.not_mem (by decide)), if_neg (by simp [hcut]), hcut]
    rfl
  obtain ⟨hhost, hempty, hport⟩ := port_of_readHostPort h hcut
  rw [readHostPort_of_cutHost_cons (by rw [hcut']) (by rw [hcut']; exact hhost) hempty,
    readPort_append hport hmore hne]
  split <;> rfl

theorem parseHost_append_web (hmore : AllControl more) (hne : more ≠ []) (cs : List Char) :
    (parseHost .web (cs ++ more)).isOk = false := by
  obtain ⟨front, c, rfl, hc⟩ := hmore.exists_last hne
  obtain ⟨f, hf⟩ := parseWebHost_append hc (cs ++ front)
  simp only [parseHost, ← List.append_assoc, hf]
  rfl

theorem readHostPort_append_web {cs : List Char} {x : Host × Option Nat × List Char}
    (h : readHostPort .web default? cs = .ok x) (hslash : '\\' ∉ cs) (hmore : AllControl more)
    (hne : more ≠ []) : (readHostPort .web default? (cs ++ more)).isOk = false := by
  have hcolon : ':' ∉ more := hmore.not_mem (by decide)
  match hcut : (cutHost false cs).2 with
  | [] =>
    have hcut' : (cutHost false (cs ++ more)).2 = [] := by
      rw [cutHost_append false hcolon, if_pos hcut]
    rw [isOk_readHostPort_of_cutHost_nil hcut', parseHost_append_web hmore hne]
  | colon :: digits =>
    obtain ⟨host, port, rest⟩ := x
    obtain ⟨-, -, hport⟩ := port_of_readHostPort h hcut
    have hslash' : '\\' ∉ digits := by
      intro hin
      have : '\\' ∈ (cutHost false cs).2 := by
        rw [hcut]
        exact List.mem_cons_of_mem _ hin
      exact hslash (mem_of_mem_cutHost this)
    rw [readHostPort_append h hcut hmore hne, if_pos (digits_of_readPort hport hslash')]
    rfl

/-- Whether controls and spaces behind a host outside the web, or behind its port, are a fault. -/
def clashes (hostPort blanks : List Char) : Bool :=
  match (cutHost false hostPort).2 with
  | [] => hostPort.head? == some '[' || blanks.any isForbiddenInHost
  | _ :: port => port.all Char.isDigit

theorem parseHost_append_other {cs : List Char} {host : Host}
    (h : parseHost .other cs = .ok host) (hmore : AllControl more) (hne : more ≠ []) :
    (parseHost .other (cs ++ more)).isOk =
      !(cs.head? == some '[' || more.any isForbiddenInHost) := by
  simp only [parseHost, parseOtherHost] at h ⊢
  cases hbracket : cs.head? == some '[' with
  | true =>
    obtain ⟨rest, rfl⟩ : ∃ rest, cs = '[' :: rest := by
      cases cs <;> simp_all
    obtain ⟨front, c, rfl, hc⟩ := hmore.exists_last hne
    have hlast : c ≠ ']' := by
      rintro rfl
      exact absurd hc (by decide)
    rw [← List.append_assoc, List.cons_append, List.cons_append, List.head?_cons, if_pos (by simp),
      ← List.cons_append, parseBracketed_append hlast]
    rfl
  | false =>
    have hplain : cs.any isForbiddenInHost = false := by
      rw [hbracket, if_neg (by simp)] at h
      cases hany : cs.any isForbiddenInHost with
      | true => simp [hany] at h
      | false => rfl
    have hbracket' : ((cs ++ more).head? == some '[') = false := by
      cases cs with
      | cons d ds => exact hbracket
      | nil =>
        rw [List.nil_append, beq_eq_false_iff_ne]
        exact fun hhead => hmore.not_mem (by decide) (List.mem_of_head? hhead)
    rw [hbracket', if_neg (by simp), List.any_append, hplain]
    cases more.any isForbiddenInHost <;> rfl

theorem readHostPort_append_other {cs : List Char} {x : Host × Option Nat × List Char}
    (h : readHostPort .other default? cs = .ok x) (hmore : AllControl more) (hne : more ≠ []) :
    (readHostPort .other default? (cs ++ more)).isOk = !clashes cs more := by
  obtain ⟨host, port, rest⟩ := x
  unfold clashes
  match hcut : (cutHost false cs).2 with
  | [] =>
    have hcut' : (cutHost false (cs ++ more)).2 = [] := by
      rw [cutHost_append false (hmore.not_mem (by decide)), if_pos hcut]
    rw [readHostPort_of_cutHost_nil hcut] at h
    obtain ⟨host', hhost, -⟩ := exists_of_map_eq_ok h
    rw [isOk_readHostPort_of_cutHost_nil hcut', parseHost_append_other hhost hmore hne]
  | colon :: digits =>
    rw [readHostPort_append h hcut hmore hne]
    cases hdigits : digits.all Char.isDigit <;> simp [hdigits, Except.isOk, Except.toBool]

/-! ## More text behind an authority -/

theorem readHostPort_of_readAuthority {family : Family} {whole : Bool}
    {x : Authority × List Char} (h : readAuthority family default? whole text = .ok x) :
    ∃ y, readHostPort family default? (cutUser text).2 = .ok y := by
  simp only [readAuthority] at h
  split at h
  · cases h
  split at h
  · cases h
  next host port rest hread => exact ⟨_, hread⟩

theorem escapeChar_ne_nil (set : EscapeSet) (c : Char) : escapeChar set c ≠ [] := by
  rw [escapeChar]
  split
  · simp
  · obtain ⟨b, bs, hbytes⟩ : ∃ b bs, String.utf8EncodeChar c = b :: bs := by
      refine List.exists_cons_of_ne_nil fun hnil => ?_
      have := Char.utf8Size_pos c
      rw [← String.length_utf8EncodeChar, hnil] at this
      exact absurd this (by decide)
    simp [hbytes, escapeByte]

theorem isEmpty_of_parseBracketed {cs : List Char} {host : Host}
    (h : parseBracketed cs = .ok host) : host.isEmpty = false := by
  rw [parseBracketed] at h
  split at h
  · obtain ⟨pieces, -, rfl⟩ := exists_of_map_eq_ok h
    rfl
  · cases h

theorem isEmpty_of_parseWebHost {cs : List Char} {host : Host}
    (h : parseWebHost cs = .ok host) : host.isEmpty = false := by
  rw [parseWebHost] at h
  split at h
  · exact isEmpty_of_parseBracketed h
  split at h
  · cases h
  next name hname =>
  split at h
  · cases h
  next hempty =>
  split at h
  · obtain ⟨n, -, rfl⟩ := exists_of_map_eq_ok h
    rfl
  · obtain rfl : Host.name name = host := by simpa using h
    simpa [Host.isEmpty] using hempty

theorem isEmpty_of_parseHost {family : Family} {cs : List Char} {host : Host}
    (h : parseHost family cs = .ok host) (hne : cs ≠ []) : host.isEmpty = false := by
  cases family with
  | web => exact isEmpty_of_parseWebHost h
  | file => exact isEmpty_of_parseWebHost h
  | other =>
    simp only [parseHost, parseOtherHost] at h
    split at h
    · exact isEmpty_of_parseBracketed h
    split at h
    · cases h
    obtain rfl := Except.ok.inj h
    obtain ⟨c, rest, rfl⟩ := List.exists_cons_of_ne_nil hne
    simp [Host.isEmpty, escape, escapeChar_ne_nil]

theorem isEmpty_of_readHostPort {family : Family} {cs rest : List Char} {host : Host}
    {port : Option Nat} (h : readHostPort family default? cs = .ok (host, port, rest))
    (hne : cs ≠ []) : host.isEmpty = false := by
  match hcut : (cutHost false cs).2 with
  | [] =>
    rw [readHostPort_of_cutHost_nil hcut] at h
    obtain ⟨_, hparse, heq⟩ := exists_of_map_eq_ok h
    cases heq
    exact isEmpty_of_parseHost hparse hne
  | colon :: digits => exact (port_of_readHostPort h hcut).2.1

theorem isOk_readAuthority {family : Family} (hne : (cutUser text).2 ≠ []) (whole : Bool) :
    (readAuthority family default? whole text).isOk =
      (readHostPort family default? (cutUser text).2).isOk := by
  have hne' : (cutUser text).2.isEmpty = false := by simpa using hne
  simp only [readAuthority, hne', Bool.and_false, Bool.false_and, Bool.false_eq_true, if_false]
  match hread : readHostPort family default? (cutUser text).2 with
  | .error f => rfl
  | .ok (host, port, rest) =>
    simp [isEmpty_of_readHostPort hread hne, Except.isOk, Except.toBool]

theorem isOk_readAuthority_append {family : Family} (hmore : AllControl more) (hne : more ≠ [])
    (whole : Bool) : (readAuthority family default? whole (text ++ more)).isOk =
      (readHostPort family default? ((cutUser text).2 ++ more)).isOk := by
  have huser := @cutUser_append text more (hmore.not_mem (by decide))
  rw [isOk_readAuthority (by simp [huser, hne]), huser]

theorem mem_of_mem_cutUser {c : Char} (h : c ∈ (cutUser text).2) : c ∈ text := by
  rw [cutUser] at h
  split at h
  · exact List.mem_reverse.mp ((List.takeWhile_sublist _).subset (List.mem_reverse.mp h))
  · exact h

theorem readAuthority_unique {family : Family} {whole whole' : Bool} {x y : Authority × List Char}
    (hx : readAuthority family default? whole text = .ok x)
    (hy : readAuthority family default? whole' text = .ok y) : x = y := by
  simp only [readAuthority] at hx hy
  split at hx
  · cases hx
  split at hy
  · cases hy
  rw [hx] at hy
  exact Except.ok.inj hy

theorem not_readHostPort_web_nil {x : Host × Option Nat × List Char} :
    readHostPort .web default? [] ≠ .ok x := by
  have hnone : parseHost .web [] = .error .emptyHost := rfl
  rw [readHostPort_of_cutHost_nil rfl, hnone]
  exact fun h => nomatch h

theorem not_readAuthority_web_nil {whole : Bool} {x : Authority × List Char} :
    readAuthority .web default? whole [] ≠ .ok x := by
  intro h
  obtain ⟨y, hy⟩ := readHostPort_of_readAuthority h
  exact not_readHostPort_web_nil hy

theorem isOk_readPort (default? default?' : Option Nat) (cs : List Char) :
    (readPort default? cs).isOk = (readPort default?' cs).isOk := by
  simp only [readPort]
  split
  · rfl
  · split <;> rfl

theorem isOk_readHostPort (default? default?' : Option Nat) (family : Family) (cs : List Char) :
    (readHostPort family default? cs).isOk = (readHostPort family default?' cs).isOk := by
  simp only [readHostPort]
  split
  · rfl
  split
  · rfl
  split
  · rfl
  · rw [isOk_map, isOk_map, isOk_readPort]

/-- Whether an address of the web can have an authority depends neither on its scheme nor on what
stands behind the authority. -/
theorem isOk_readAuthority_web {default? : Option Nat} {whole : Bool} {cs : List Char}
    (h : (readAuthority .web default? whole cs).isOk = true) (default?' : Option Nat)
    (whole' : Bool) : (readAuthority .web default?' whole' cs).isOk = true := by
  have hne : (cutUser cs).2 ≠ [] := by
    intro hnil
    obtain ⟨x, hx⟩ := exists_of_isOk h
    obtain ⟨y, hy⟩ := readHostPort_of_readAuthority hx
    rw [hnil] at hy
    exact not_readHostPort_web_nil hy
  rw [isOk_readAuthority hne] at h ⊢
  rw [isOk_readHostPort default?' default?, h]

theorem eq_of_cutUser (h : cutUser text = (some [], [])) : text = ['@'] := by
  rw [cutUser] at h
  split at h
  · next hin =>
    obtain ⟨hfront, hbehind⟩ := Prod.mk.inj h
    rw [hbehind] at hfront
    have hshort : text.length ≤ 1 := by
      have := congrArg List.length (Option.some.inj hfront)
      simp at this
      omega
    match text with
    | [] => cases hin
    | [c] => simpa [eq_comm] using hin
    | _ :: _ :: _ => simp at hshort
  · cases (Prod.mk.inj h).1

/-- Only an at sign alone is an authority where nothing stands behind it. -/
theorem readAuthority_whole {family : Family} (h : text ≠ ['@']) (whole whole' : Bool) :
    readAuthority family default? whole text = readAuthority family default? whole' text := by
  have hguard : ((cutUser text).1 == some [] && (cutUser text).2.isEmpty) = false := by
    rw [Bool.eq_false_iff]
    intro hboth
    have : (cutUser text).1 = some [] ∧ (cutUser text).2 = [] := by simpa using hboth
    exact h (eq_of_cutUser (Prod.ext this.1 this.2))
  simp only [readAuthority, hguard, Bool.false_and]

theorem readAuthority_append_web {whole : Bool} {x : Authority × List Char}
    (h : readAuthority .web default? whole text = .ok x) (hslash : '\\' ∉ text)
    (hmore : AllControl more) (hne : more ≠ []) (whole' : Bool) :
    (readAuthority .web default? whole' (text ++ more)).isOk = false := by
  obtain ⟨y, hy⟩ := readHostPort_of_readAuthority h
  rw [isOk_readAuthority_append hmore hne,
    readHostPort_append_web hy (fun hin => hslash (mem_of_mem_cutUser hin)) hmore hne]

theorem readAuthority_append_other {whole : Bool} {x : Authority × List Char}
    (h : readAuthority .other default? whole text = .ok x)
    (hmore : AllControl more) (hne : more ≠ []) (whole' : Bool) :
    (readAuthority .other default? whole' (text ++ more)).isOk =
      !clashes (cutUser text).2 more := by
  obtain ⟨y, hy⟩ := readHostPort_of_readAuthority h
  rw [isOk_readAuthority_append hmore hne, readHostPort_append_other hy hmore hne]

end Wayfare.Url
