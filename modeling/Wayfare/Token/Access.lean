import Wayfare.Time.Instant
import Wayfare.Token.Secret

/-!
Access tokens. A token counts as expired a minute before the server lets it expire.
-/
namespace Wayfare

structure AccessToken where
  value : Secret
  issuedAt : Instant
  /-- From here on the token is not used. -/
  expiresAt : Instant
  deriving DecidableEq

namespace AccessToken

/-- The time before its expiry in which a token is not used any more. -/
def safetyMargin : Nanoseconds := 60 * perSecond

/-- The token of an exchange that ended at `issuedAt` and gave it a lifetime; `none` if its end is
beyond the calendar. -/
def issued? (value : String) (issuedAt : Instant) (lifetime : Nanoseconds) : Option AccessToken :=
  (issuedAt.later? (lifetime - safetyMargin)).map fun expiresAt => ⟨⟨value⟩, issuedAt, expiresAt⟩

/-- Whether the token may be used at an instant. -/
def validAt (t : AccessToken) (now : Instant) : Bool :=
  !t.value.isEmpty && now.before t.expiresAt

/-- The seconds between issue and expiry. -/
def lifetimeSeconds (t : AccessToken) : Int :=
  (t.expiresAt.line - t.issuedAt.line).tdiv perSecond

def debugText (t : AccessToken) : String :=
  "AccessToken \x7b value: \"" ++ redacted ++ "\", issued_at: " ++ t.issuedAt.debugText ++
    ", expires_at: " ++ t.expiresAt.debugText ++ " \x7d"

end AccessToken

end Wayfare
