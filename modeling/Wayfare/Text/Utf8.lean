/-!
Text as bytes. `decodeChunks` splits bytes into characters and ill-formed pieces; a strict
reader refuses the pieces, a lenient one puts a replacement character in the place of each.
-/
namespace Wayfare.Text

/-- The bytes of a text. -/
def encodeUtf8 (cs : List Char) : List UInt8 :=
  cs.flatMap String.utf8EncodeChar

/-- The bytes of a string. -/
def utf8 (s : String) : List UInt8 :=
  encodeUtf8 s.toList

/-- A byte that continues a character. -/
def isTail (b : UInt8) : Bool :=
  0x80 ≤ b && b ≤ 0xBF

/-- The second bytes that may follow a lead byte, as the least and the greatest; none for a byte
that leads no longer character. -/
def secondRange (lead : UInt8) : Option (UInt8 × UInt8) :=
  if 0xC2 ≤ lead && lead ≤ 0xDF then some (0x80, 0xBF)
  else if lead == 0xE0 then some (0xA0, 0xBF)
  else if lead == 0xED then some (0x80, 0x9F)
  else if 0xE1 ≤ lead && lead ≤ 0xEF then some (0x80, 0xBF)
  else if lead == 0xF0 then some (0x90, 0xBF)
  else if lead == 0xF4 then some (0x80, 0x8F)
  else if 0xF1 ≤ lead && lead ≤ 0xF3 then some (0x80, 0xBF)
  else none

/-- The character of two, three or four bytes, by their payload bits. -/
def charOfBytes : List UInt8 → Char
  | [a, b] => Char.ofNat ((a.toNat % 32) * 64 + b.toNat % 64)
  | [a, b, c] => Char.ofNat (((a.toNat % 16) * 64 + b.toNat % 64) * 64 + c.toNat % 64)
  | [a, b, c, d] =>
    Char.ofNat ((((a.toNat % 8) * 64 + b.toNat % 64) * 64 + c.toNat % 64) * 64 + d.toNat % 64)
  | _ => '\uFFFD'

/-- Bytes as characters, with `none` for each longest start of a character that breaks off. -/
def decodeChunks : List UInt8 → List (Option Char)
  | [] => []
  | a :: rest =>
    if a < 0x80 then some (Char.ofNat a.toNat) :: decodeChunks rest
    else match secondRange a with
      | none => none :: decodeChunks rest
      | some (low, high) =>
        match rest with
        | [] => [none]
        | b :: rest₂ =>
          if !(low ≤ b && b ≤ high) then none :: decodeChunks (b :: rest₂)
          else if a < 0xE0 then some (charOfBytes [a, b]) :: decodeChunks rest₂
          else match rest₂ with
            | [] => [none]
            | c :: rest₃ =>
              if !isTail c then none :: decodeChunks (c :: rest₃)
              else if a < 0xF0 then some (charOfBytes [a, b, c]) :: decodeChunks rest₃
              else match rest₃ with
                | [] => [none]
                | d :: rest₄ =>
                  if !isTail d then none :: decodeChunks (d :: rest₄)
                  else some (charOfBytes [a, b, c, d]) :: decodeChunks rest₄

/-- The text of well-formed bytes. -/
def decodeUtf8? (bs : List UInt8) : Option (List Char) :=
  (decodeChunks bs).mapM id

/-- The text of any bytes, a replacement character standing for each ill-formed piece. -/
def decodeUtf8Lossy (bs : List UInt8) : List Char :=
  (decodeChunks bs).map (·.getD '\uFFFD')

/-- A lenient reading as a string. -/
def lossyString (bs : List UInt8) : String :=
  String.ofList (decodeUtf8Lossy bs)

end Wayfare.Text
