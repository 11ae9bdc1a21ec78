/-!
Blank characters. A setting or an identifier counts as missing when it holds nothing else.
-/
namespace Wayfare.Text

/-- The characters of the White_Space property. -/
def isBlank (c : Char) : Bool :=
  let n := c.toNat
  (9 ≤ n && n ≤ 13) || n == 0x20 || n == 0x85 || n == 0xA0 || n == 0x1680 ||
    (0x2000 ≤ n && n ≤ 0x200A) || n == 0x2028 || n == 0x2029 || n == 0x202F ||
    n == 0x205F || n == 0x3000

/-- Only blank characters, or none at all. -/
def allBlank (s : String) : Bool :=
  s.toList.all isBlank

/-- The characters left when every match is dropped from both ends. -/
def trimBy (p : Char → Bool) (cs : List Char) : List Char :=
  ((cs.dropWhile p).reverse.dropWhile p).reverse

/-- The text without blank characters at its two ends. -/
def trim (s : String) : String :=
  String.ofList (trimBy isBlank s.toList)

/-- The bytes that may stand around a value in a body: space, tab, line feed, form feed
and carriage return. -/
def isBlankByte (b : UInt8) : Bool :=
  b == 0x20 || b == 0x09 || b == 0x0A || b == 0x0C || b == 0x0D

/-- The ASCII letters in lower case; every other character stays. -/
def lowerAscii (s : String) : String :=
  s.map Char.toLower

end Wayfare.Text
