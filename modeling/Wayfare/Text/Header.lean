import Wayfare.Text.Utf8

/-!
Header values: which texts can be sent as one.
-/
namespace Wayfare.Text

/-- The bytes that a header can carry: no controls but the tab. -/
def isHeaderByte (b : UInt8) : Bool :=
  b == 0x09 || (0x20 ≤ b && b != 0x7F)

def isHeaderText (s : String) : Bool :=
  (utf8 s).all isHeaderByte

end Wayfare.Text
