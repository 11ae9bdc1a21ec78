import Wayfare.Url.Percent

/-!
Pairs in a query: joined by ampersands, key and value by an equals sign, a space as a plus sign.
-/
namespace Wayfare.Url.Form

/-- The bytes that stand for themselves. -/
def isSafe (b : UInt8) : Bool :=
  (0x30 ≤ b && b ≤ 0x39) || (0x41 ≤ b && b ≤ 0x5A) || (0x61 ≤ b && b ≤ 0x7A) ||
    b == 0x2A || b == 0x2D || b == 0x2E || b == 0x5F

def encodeByte (b : UInt8) : List Char :=
  if isSafe b then [Char.ofNat b.toNat]
  else if b == 0x20 then ['+']
  else escapeByte b

/-- One key or value. -/
def encodeText (s : String) : List Char :=
  (Text.utf8 s).flatMap encodeByte

def encodePair (pair : String × String) : List Char :=
  encodeText pair.1 ++ '=' :: encodeText pair.2

/-- All the pairs, behind what the query holds already. -/
def appendPairs : List Char → List (String × String) → List Char
  | query, [] => query
  | query, pair :: rest =>
    appendPairs (query ++ (if query.isEmpty then [] else ['&']) ++ encodePair pair) rest

def encode (pairs : List (String × String)) : List Char :=
  appendPairs [] pairs

/-- One key or value as text: ill-formed bytes become replacement characters. -/
def decodeText (cs : List Char) : String :=
  Text.lossyString
    (unescape ((Text.encodeUtf8 cs).map fun b => if b == 0x2B then 0x20 else b))

/-- The pair of a piece; without an equals sign the value is empty. -/
def decodePair (piece : List Char) : String × String :=
  (decodeText (piece.takeWhile (· != '=')), decodeText ((piece.dropWhile (· != '=')).drop 1))

/-- The pairs of a query; empty pieces count for nothing. -/
def decode (query : List Char) : List (String × String) :=
  ((Text.cut '&' query).filter (!·.isEmpty)).map decodePair

end Wayfare.Url.Form
