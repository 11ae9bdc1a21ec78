import Wayfare.Proofs.Url.Authority
import Wayfare.Proofs.Url.Percent
import Wayfare.Proofs.Url.WrittenHost

/-!
Authorities of web addresses are read again as they are written: user information, which is escaped,
a host, and a port.
-/
namespace Wayfare.Url

open Idna (isNameChar)

/-! ## Hosts before a port -/

theorem cutHost_of_not_mem_append {cs tail : List Char} (hcolon : ':' ∉ cs) (hbracket : '[' ∉ cs)
    (htail : tail.head?.all (· == ':')) : cutHost false (cs ++ tail) = (cs, tail) := by
  induction cs with
  | nil =>
    cases tail with
    | nil => rfl
    | cons c rest =>
      obtain rfl : c = ':' := by simpa using htail
      rfl
  | cons c cs ih =>
    obtain ⟨hc, hcs⟩ := List.ne_and_not_mem_of_not_mem_cons hcolon
    obtain ⟨hb, hbs⟩ := List.ne_and_not_mem_of_not_mem_cons hbracket
    have hc' : (c == ':') = false := by simpa using hc.symm
    have hb' : (c == '[') = false := by simpa using hb.symm
    simp [cutHost, hc', hb', ih hcs hbs]

/-- Up to a closing bracket, colons are part of the host. -/
theorem cutHost_inside {cs tail : List Char} (hclose : ']' ∉ cs) :
    cutHost true (cs ++ ']' :: tail) =
      (cs ++ ']' :: (cutHost false tail).1, (cutHost false tail).2) := by
  induction cs with
  | nil => rfl
  | cons c cs ih =>
    obtain ⟨hc, hcs⟩ := List.ne_and_not_mem_of_not_mem_cons hclose
    have hc' : (c != ']') = true := by simpa using hc.symm
    simp [cutHost, hc', ih hcs]

/-- The host is cut off as it is written. -/
theorem Host.Readable.cutHost_write {host : Host} (h : host.Readable) {tail : List Char}
    (htail : tail.head?.all (· == ':')) :
    cutHost false (host.write ++ tail) = (host.write, tail) := by
  have hname : ∀ cs : List Char, (∀ c ∈ cs, isNameChar c = true) →
      cutHost false (cs ++ tail) = (cs, tail) := by
    intro cs hchars
    refine cutHost_of_not_mem_append ?_ ?_ htail
    · intro hin
      exact absurd (hchars _ hin) (by decide)
    · intro hin
      exact absurd (hchars _ hin) (by decide)
  cases host with
  | name cs => exact hname cs h.2.1
  | ipv4 n => exact hname _ (isNameChar_writeIpv4 n)
  | ipv6 pieces =>
    have hclose : ']' ∉ writeIpv6 pieces := fun hin => (isHostChar_writeIpv6 pieces _ hin).2.2 rfl
    have hend : cutHost false tail = ([], tail) :=
      cutHost_of_not_mem_append List.not_mem_nil List.not_mem_nil htail
    have hopen : ('[' == ':') = false := by decide
    simp [write, cutHost, hopen, cutHost_inside hclose, hend]

/-! ## Ports -/

theorem le_of_readPort {default? port : Option Nat} {cs rest : List Char}
    (h : readPort default? cs = .ok (port, rest)) : ∀ p ∈ port, p ≤ 65535 := by
  simp only [readPort] at h
  split at h
  · cases h
  next hsmall =>
  split at h
  · cases h
  obtain ⟨rfl, -⟩ := Prod.mk.inj (Except.ok.inj h)
  intro p hp
  split at hp
  · cases hp
  · obtain rfl := Option.some.inj hp
    exact Nat.not_lt.mp hsmall

theorem readPort_digits (default? : Option Nat) {p : Nat} (h : p ≤ 65535) :
    ∃ port, readPort default? (Text.digits p) = .ok (port, []) := by
  have hall : ∀ c ∈ Text.digits p, c.isDigit = true := fun c hc => isDigit_of_mem_digits hc
  have hvalue : digitsValue 10 (Text.digits p) = p := digitsValue_toDigits (by decide) (by decide) p
  simp only [readPort, List.takeWhile_eq_self_iff.mpr hall, List.dropWhile_eq_nil_iff.mpr hall, hvalue]
  rw [if_neg (Nat.not_lt.mpr h)]
  exact ⟨_, rfl⟩

theorem le_of_readHostPort {default? port : Option Nat} {cs rest : List Char} {host : Host}
    (h : readHostPort .web default? cs = .ok (host, port, rest)) :
    host.Readable ∧ ∀ p ∈ port, p ≤ 65535 := by
  match hcut : (cutHost false cs).2 with
  | [] =>
    rw [readHostPort_of_cutHost_nil hcut] at h
    obtain ⟨host', hparse, heq⟩ := exists_of_map_eq_ok h
    obtain ⟨rfl, rfl, -⟩ : host' = host ∧ none = port ∧ _ := by simpa using heq
    exact ⟨Host.readable_of_parseWebHost hparse, by simp⟩
  | colon :: digits =>
    obtain ⟨hparse, -, hport⟩ := port_of_readHostPort h hcut
    exact ⟨Host.readable_of_parseWebHost hparse, le_of_readPort hport⟩

/-! ## Authorities -/

namespace Authority

/-- An authority that can be read: user information is escaped, and the port is one of two bytes. -/
structure Readable (a : Authority) : Prop where
  username : ∃ cs, a.username = escape userinfoSet cs
  password : ∃ cs, a.password = escape userinfoSet cs
  host : a.host.Readable
  port : ∀ p ∈ a.port, p ≤ 65535

theorem readable_of_readAuthority {default? : Option Nat} {whole : Bool} {cs rest : List Char}
    {a : Authority} (h : readAuthority .web default? whole cs = .ok (a, rest)) : a.Readable := by
  simp only [readAuthority] at h
  split at h
  · cases h
  split at h
  · cases h
  next host port begin hread =>
  split at h
  · cases h
  obtain ⟨rfl, -⟩ := Prod.mk.inj (Except.ok.inj h)
  obtain ⟨hhost, hport⟩ := le_of_readHostPort hread
  exact ⟨⟨_, rfl⟩, ⟨_, rfl⟩, hhost, hport⟩

theorem Readable.withoutUser {a : Authority} (h : a.Readable) :
    Readable { a with username := [], password := [] } :=
  ⟨⟨[], rfl⟩, ⟨[], rfl⟩, h.host, h.port⟩

variable {a : Authority}

/-- The port as it is written, with its colon. -/
def writePort (a : Authority) : List Char :=
  match a.port with
  | none => []
  | some port => ':' :: Text.digits port

theorem write_eq (a : Authority) :
    a.write = writeUser a.username a.password ++ (a.host.write ++ a.writePort) :=
  List.append_assoc _ _ _

theorem head?_writePort (a : Authority) : a.writePort.head?.all (· == ':') := by
  rw [writePort]
  split <;> rfl

theorem isHostChar_writePort : ∀ c ∈ a.writePort, isHostChar c = true := by
  intro c hc
  rw [writePort] at hc
  split at hc
  · cases hc
  · rcases List.mem_cons.mp hc with rfl | hdigit
    · decide
    · exact isHostChar_of_isNameChar (isNameChar_toDigits (by decide) (by decide) c hdigit)

theorem Readable.isHostChar (h : a.Readable) :
    ∀ c ∈ a.host.write ++ a.writePort, isHostChar c = true :=
  List.forall_mem_append.mpr ⟨h.host.isHostChar, isHostChar_writePort⟩

theorem Readable.readHostPort (h : a.Readable) (default? : Option Nat) :
    (readHostPort .web default? (a.host.write ++ a.writePort)).isOk = true := by
  obtain ⟨host, hhost⟩ := h.host.parse_write
  have hempty := isEmpty_of_parseWebHost hhost
  have hcut := h.host.cutHost_write a.head?_writePort
  have hport := h.port
  rw [writePort] at hcut ⊢
  cases hwritten : a.port with
  | none =>
    simp only [hwritten] at hcut ⊢
    have hparse : parseHost .web a.host.write = .ok host := hhost
    rw [isOk_readHostPort_of_cutHost_nil (by rw [hcut]), List.append_nil, hparse]
    rfl
  | some p =>
    simp only [hwritten] at hcut hport ⊢
    obtain ⟨port, hread⟩ := readPort_digits default? (hport p rfl)
    rw [readHostPort_of_cutHost_cons (by rw [hcut]) (by rw [hcut]; exact hhost) hempty, hread]
    rfl

/-- The last at sign ends the user information. -/
theorem cutUser_writeUser (username password : List Char) :
    (cutUser (writeUser username password)).2 = [] := by
  rw [writeUser]
  split
  · rfl
  · simp [cutUser]

/-- An authority that was read can be read as it is written. -/
theorem Readable.isOk_write (h : a.Readable) (default? : Option Nat) (whole : Bool) :
    (readAuthority .web default? whole a.write).isOk = true := by
  have hat : '@' ∉ a.host.write ++ a.writePort := fun hin => absurd (h.isHostChar _ hin) (by decide)
  have hcut : (cutUser a.write).2 = a.host.write ++ a.writePort := by
    rw [write_eq, cutUser_append hat, cutUser_writeUser, List.nil_append]
  have hne : a.host.write ++ a.writePort ≠ [] := by
    simp [h.host.write_ne_nil]
  rw [isOk_readAuthority (by rwa [hcut]), hcut]
  exact h.readHostPort default?

/-- The characters of a written authority. -/
def isAuthorityChar (c : Char) : Bool :=
  0x20 < c.toNat && c != '/' && c != '\\' && c != '?' && c != '#'

theorem isAuthorityChar_escape (cs : List Char) :
    ∀ c ∈ escape userinfoSet cs, isAuthorityChar c = true :=
  forall_mem_escape (by decide) cs

theorem isAuthorityChar_of_isHostChar {c : Char} (h : isHostChar c = true) :
    isAuthorityChar c = true := by
  have hlow : c.toNat < 0x80 := by
    simp only [isHostChar, Bool.or_eq_true, beq_iff_eq] at h
    rcases h with ((hname | rfl) | rfl) | rfl
    · simpa [Idna.isAscii] using Idna.isAscii_of_isNameChar hname
    · decide
    · decide
    · decide
  exact Text.ascii_forall (p := fun c => Url.isHostChar c = true → isAuthorityChar c = true)
    (by decide) hlow h

theorem Readable.isAuthorityChar (h : a.Readable) : ∀ c ∈ a.write, isAuthorityChar c = true := by
  intro c hc
  obtain ⟨user, huser⟩ := h.username
  obtain ⟨secret, hsecret⟩ := h.password
  rw [write_eq, writeUser, huser, hsecret] at hc
  rcases List.mem_append.mp hc with hin | hin
  · split at hin
    · cases hin
    · simp only [List.mem_append, List.mem_singleton] at hin
      rcases hin with (hname | hpassword) | rfl
      · exact isAuthorityChar_escape user c hname
      · split at hpassword
        · cases hpassword
        · rcases List.mem_cons.mp hpassword with rfl | hrest
          · decide
          · exact isAuthorityChar_escape secret c hrest
      · decide
  · exact isAuthorityChar_of_isHostChar (h.isHostChar c hin)

end Authority

end Wayfare.Url
