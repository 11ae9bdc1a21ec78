/-!
Secrets. The texts that show a secret to a reader never depend on it.
-/
namespace Wayfare

/-- A text that is never shown. -/
structure Secret where
  /-- The text itself, for the wire. -/
  reveal : String
  deriving DecidableEq

/-- What stands in the place of a secret. -/
def redacted : String := "<redacted>"

namespace Secret

def isEmpty (s : Secret) : Bool :=
  s.reveal.isEmpty

def display (_ : Secret) : String :=
  redacted

def debugText (_ : Secret) : String :=
  "TokenSecret(\"" ++ redacted ++ "\")"

end Secret

end Wayfare
