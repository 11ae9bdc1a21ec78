import Wayfare.Client.Basic
import Wayfare.Proofs.Desk.Play
import Wayfare.Proofs.Text.Quoted

/-!
What the texts for a reader show of secrets. Whatever holds a client secret or a token has a text that
is the same for all secrets and tokens. Settings that are not checked yet are the exception: their text
tells the client secret.
-/
namespace Wayfare

/-! ## Values without their secrets -/

namespace Secret

/-- What stands for every secret. -/
def erased (_ : Secret) : Secret :=
  ⟨""⟩

end Secret

def AccessToken.erased (t : AccessToken) : AccessToken :=
  { t with value := t.value.erased }

def Credentials.erased (c : Credentials) : Credentials :=
  { c with clientSecret := c.clientSecret.erased }

def Settings.erased (s : Settings) : Settings :=
  { s with credentials := s.credentials.erased }

/-- Whether a secret is given stays. -/
def Settings.Draft.erased (d : Draft) : Draft :=
  { d with clientSecret := d.clientSecret.map fun _ => "" }

/-- The outcome of an exchange without the token. -/
def Grant.erased (grant : Grant) : Grant :=
  grant.map AccessToken.erased

def Desk.Cell.erased : Cell → Cell
  | .idle => .idle
  | .running driver => .running driver
  | .done grant => .done grant.erased

/-- A desk without the token it keeps, and without those that calls are about to take. -/
def Desk.erased (d : Desk) : Desk :=
  { d with cached := d.cached.map AccessToken.erased, cells := d.cells.map Cell.erased }

def Client.erased (client : Client) : Client :=
  { client with settings := client.settings.erased }

/-! ## Texts -/

theorem Desk.debugText_erased (d : Desk) : d.erased.debugText = d.debugText := by
  obtain ⟨cached, registered, cells, waiting, calls, exchanges, cacheHits, failures⟩ := d
  cases cached <;> rfl

theorem Client.debugText_erased (client : Client) (desk : Desk) :
    client.erased.debugText desk.erased = client.debugText desk := by
  unfold debugText
  rw [desk.debugText_erased]
  rfl

namespace Settings

theorem optionText_inj {a b : Option String} : optionText a = optionText b ↔ a = b := by
  refine ⟨fun h => ?_, congrArg optionText⟩
  have hne (s : String) : optionText none ≠ optionText (some s) := by
    intro heq
    have hhead := congrArg (·.toList.head?) heq
    simp [optionText] at hhead
  cases a with
  | none =>
    cases b with
    | none => rfl
    | some b => exact absurd h (hne b)
  | some a =>
    cases b with
    | none => exact absurd h.symm (hne a)
    | some b =>
      rw [optionText, optionText, String.append_left_inj, String.append_right_inj,
        Text.quoted_inj] at h
      rw [h]

namespace Draft

variable {d e : Draft}

/-- The secret is all that the text of a draft can differ in from one that has the same without. -/
theorem debugText_eq_iff (h : d.erased = e.erased) :
    d.debugText = e.debugText ↔ d.clientSecret = e.clientSecret := by
  obtain ⟨baseUrl, clientId, clientSecret, applicationName, timeout⟩ := d
  obtain ⟨baseUrl', clientId', clientSecret', applicationName', timeout'⟩ := e
  simp only [erased, mk.injEq] at h
  obtain ⟨rfl, rfl, -, rfl, rfl⟩ := h
  rw [← optionText_inj]
  unfold debugText
  simp only [String.append_left_inj, String.append_right_inj]

end Draft

end Settings

/-! ## All that is shown -/

/-- What is shown to a reader, of all that holds a client secret or a token. A client is shown with its
desk, in whatever state that is; a secret has two texts. -/
inductive Exhibit where
  | secret (s : Secret)
  | displayed (s : Secret)
  | token (t : AccessToken)
  | credentials (c : Credentials)
  | draft (d : Settings.Draft)
  | settings (s : Settings)
  | exchange (c : Client)
  | desk (d : Desk)
  | client (c : Client) (d : Desk)

namespace Exhibit

def text : Exhibit → String
  | secret s => s.debugText
  | displayed s => s.display
  | token t => t.debugText
  | credentials c => c.debugText
  | draft d => d.debugText
  | settings s => s.debugText
  | exchange c => c.exchangeText
  | desk d => d.debugText
  | client c d => c.debugText d

def erased : Exhibit → Exhibit
  | secret s => secret s.erased
  | displayed s => displayed s.erased
  | token t => token t.erased
  | credentials c => credentials c.erased
  | draft d => draft d.erased
  | settings s => settings s.erased
  | exchange c => exchange c.erased
  | desk d => desk d.erased
  | client c d => client c.erased d.erased

def isDraft : Exhibit → Bool
  | draft _ => true
  | _ => false

/-- The secret of a draft. -/
def draftSecret? : Exhibit → Option String
  | draft d => d.clientSecret
  | _ => none

variable {a b : Exhibit}

theorem isDraft_erased (a : Exhibit) : a.erased.isDraft = a.isDraft := by
  cases a <;> rfl

theorem exists_of_isDraft (h : a.isDraft = true) : ∃ d, a = draft d := by
  cases a with
  | draft d => exact ⟨d, rfl⟩
  | _ => cases h

theorem draftSecret?_eq_none (h : a.isDraft = false) : a.draftSecret? = none := by
  cases a with
  | draft _ => cases h
  | _ => rfl

theorem text_erased (h : a.isDraft = false) : a.erased.text = a.text := by
  cases a with
  | draft _ => cases h
  | desk d => exact d.debugText_erased
  | client c d => exact c.debugText_erased d
  | _ => rfl

/-- Two exhibits that differ in secrets and tokens only have the same text, in every state of desk and
client, exactly unless they are drafts with different secrets. -/
theorem same_text_unless_draft (h : a.erased = b.erased) :
    a.text = b.text ↔ a.draftSecret? = b.draftSecret? := by
  have hkind : a.isDraft = b.isDraft := by
    rw [← isDraft_erased a, h, isDraft_erased]
  cases hdraft : a.isDraft with
  | false =>
    have hother : b.isDraft = false := hkind ▸ hdraft
    have htext : a.text = b.text := by
      rw [← text_erased hdraft, h, text_erased hother]
    rw [draftSecret?_eq_none hdraft, draftSecret?_eq_none hother]
    exact iff_of_true htext rfl
  | true =>
    obtain ⟨d, rfl⟩ := exists_of_isDraft hdraft
    obtain ⟨e, rfl⟩ := exists_of_isDraft (hkind ▸ hdraft)
    exact Settings.Draft.debugText_eq_iff (draft.inj h)

/-- A draft with a client identifier and a secret. -/
def draftWith (secret : String) : Settings.Draft :=
  { clientId := some "client", clientSecret := some secret }

/-- A desk that keeps a token, and one that other calls are about to take. -/
def deskWith (kept taken : String) : Desk :=
  { cached := some ⟨⟨kept⟩, Desk.epoch, Desk.epoch⟩
    cells := [.done (.ok ⟨⟨taken⟩, Desk.epoch, Desk.epoch⟩)] }

/-- Two desks with other tokens, and two drafts with other secrets. -/
theorem same_text_of_desks_not_drafts :
    (desk (deskWith "T1" "T2")).text = (desk (deskWith "T3" "T4")).text ∧
      (draft (draftWith "secret")).text ≠ (draft (draftWith "hidden")).text := by
  constructor
  · exact (same_text_unless_draft rfl).mpr rfl
  · intro heq
    have herased : (draft (draftWith "secret")).erased = (draft (draftWith "hidden")).erased := rfl
    have hsecret : some "secret" = some "hidden" := (same_text_unless_draft herased).mp heq
    exact absurd hsecret (by decide)

/-- Two drafts that differ in the secret alone, and the text of the one. -/
theorem draft_shows_secret :
    (draft (draftWith "secret")).erased = (draft (draftWith "hidden")).erased ∧
      (draft (draftWith "secret")).text ≠ (draft (draftWith "hidden")).text ∧
      (draft (draftWith "secret")).text =
        "ClientConfigBuilder \x7b base_url: None, client_id: Some(\"client\"), " ++
          "client_secret: Some(\"secret\"), application_name: None, timeout: 60s \x7d" := by
  refine ⟨rfl, ?_, ?_⟩ <;> decide +kernel

end Exhibit

end Wayfare
