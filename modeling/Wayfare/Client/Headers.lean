import Wayfare.Time.Instant
import Wayfare.Token.Secret

/-!
The headers of a call: the token, and a reference that names the application and the second.
-/
namespace Wayfare.Client

def tokenHeader : String := "Authorization"
def referenceHeader : String := "Ama-Client-Ref"

/-- The value that shows a token. -/
def bearer (token : Secret) : String :=
  "Bearer " ++ token.reveal

/-- The reference of a call that is placed at an instant. -/
def reference (applicationName : String) (now : Instant) : String :=
  applicationName ++ "-PDT-" ++ now.stamp

/-- The headers of a call, in the order of their names. -/
def headers (applicationName : String) (token : Secret) (now : Instant) : List (String × String) :=
  [(referenceHeader, reference applicationName now), (tokenHeader, bearer token)]

/-- The headers of a call that is placed at any offset; there are none if the date of the instant is
out of range in universal time. -/
def headersAt? (applicationName : String) (token : Secret) (now : Instant) :
    Option (List (String × String)) :=
  now.inUtc?.map (headers applicationName token)

end Wayfare.Client
