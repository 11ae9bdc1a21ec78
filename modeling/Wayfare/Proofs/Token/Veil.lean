import Wayfare.Proofs.Desk.Veil
import Wayfare.Token.Exchange

/-!
Exchanges behind the veil. An answer that brings a token may bring another one that can be used; the
exchange ends the same, with another token.
-/
namespace Wayfare.Exchange

/-- The name of the token in a token document. -/
def tokenName : String := "access_token"

/-- Answers to exchanges that are the same, or token documents in answers of status 200 which are the
same but for the token; both tokens can be used. -/
inductive Alike : Except NetworkFault Answer → Except NetworkFault Answer → Prop where
  | same (answer : Except NetworkFault Answer) : Alike answer answer
  | granted {a b : Answer} {fields : Fields Json} {v w : String}
    (status : a.status = 200 ∧ b.status = 200) (headers : a.headers = b.headers)
    (first : tokenShape.readFirst a.body = .ok (.object (fields.insert tokenName (.string v))))
    (second : tokenShape.readFirst b.body = .ok (.object (fields.insert tokenName (.string w))))
    (usable : (Secret.mk v).isUsable ∧ (Secret.mk w).isUsable) : Alike (.ok a) (.ok b)

theorem body_of_read {body : List UInt8} {j : Json} (h : tokenShape.readFirst body = .ok j) :
    body.isEmpty = false := by
  cases body with
  | nil => cases h
  | cons b bs => rfl

theorem frameFault?_of_headers {a b : Answer} (hheaders : a.headers = b.headers)
    (hbody : a.body.isEmpty = b.body.isEmpty) : frameFault? a = frameFault? b := by
  simp only [frameFault?, Answer.header?, hheaders, hbody]

theorem lifetime?_withToken (fields : Fields Json) (v : Json) :
    lifetime? (.object (fields.insert tokenName v)) = lifetime? (.object fields) := by
  have hne : tokenName ≠ "expires_in" := by decide
  simp only [lifetime?, Json.field?, Fields.find?_insert_of_ne hne]

theorem textOf_withToken (fields : Fields Json) (v : String) :
    textOf (.object (fields.insert tokenName (.string v))) tokenName = v := by
  simp [textOf, Json.field?, Fields.find?_insert_self, Json.asString?]

theorem grantOfToken_veiled {v w : String}
    (h : (Secret.mk v).isUsable ∧ (Secret.mk w).isUsable) (now : Instant) (fields : Fields Json) :
    (grantOfToken now (.object (fields.insert tokenName (.string v)))).map Grant.veiled =
      (grantOfToken now (.object (fields.insert tokenName (.string w)))).map Grant.veiled := by
  have hveil : (Secret.mk v).veiled = (Secret.mk w).veiled := by
    rw [Secret.veiled_of_isUsable h.1, Secret.veiled_of_isUsable h.2]
  have hempty : v.isEmpty = false ∧ w.isEmpty = false := by
    simp only [Secret.isUsable, Secret.isEmpty, Bool.and_eq_true, Bool.not_eq_true'] at h
    exact ⟨h.1.1, h.2.1⟩
  simp only [grantOfToken, lifetime?_withToken]
  cases lifetime? (.object fields) with
  | none => rfl
  | some seconds =>
    have hissued := AccessToken.issued?_veiled hveil now (seconds * perSecond)
    have htoken := textOf_withToken fields
    simp only [tokenName] at htoken ⊢
    simp only [htoken, hempty]
    split
    · rfl
    · split
      · rfl
      · simp only [Bool.false_eq_true, if_false, Grant.map_ok_veiled, hissued]

theorem Alike.grantOfAnswer {a b : Answer} (h : Alike (.ok a) (.ok b)) (now : Instant) :
    (Exchange.grantOfAnswer now a).map Grant.veiled =
      (Exchange.grantOfAnswer now b).map Grant.veiled := by
  cases h with
  | same => rfl
  | granted status headers first second usable =>
    have hframe :=
      frameFault?_of_headers headers ((body_of_read first).trans (body_of_read second).symm)
    simp only [Exchange.grantOfAnswer, status, hframe, first, second]
    cases frameFault? b with
    | some message => rfl
    | none => exact grantOfToken_veiled usable now _

/-- An exchange is the same behind the veil as another with the same clock, if they go to the same
address and get answers that are alike. -/
theorem run_veiled {network other : Network σ} {settings settings' : Settings} {url : Url} {s : σ}
    (hclock : network.clock = other.clock)
    (hanswer : Alike (network.send (request settings url) s).1
      (other.send (request settings' url) s).1)
    (hstate : (network.send (request settings url) s).2 =
      (other.send (request settings' url) s).2) :
    Prod.map (Option.map Grant.veiled) id (run network settings url s) =
      Prod.map (Option.map Grant.veiled) id (run other settings' url s) := by
  unfold run
  cases url.wireFault? with
  | some fault => rfl
  | none =>
    cases url.isReachable with
    | false => rfl
    | true =>
      rcases hsent : network.send (request settings url) s with ⟨answer, s'⟩
      rcases hother : other.send (request settings' url) s with ⟨answer', s''⟩
      rw [hsent, hother] at hanswer hstate
      obtain rfl : s' = s'' := hstate
      dsimp only at hanswer
      cases hanswer with
      | same =>
        cases answer with
        | error fault => rfl
        | ok a => simp [hclock]
      | granted status headers first second usable =>
        have hgrant := Alike.grantOfAnswer (.granted status headers first second usable)
        simp [hclock, hgrant]

end Wayfare.Exchange
