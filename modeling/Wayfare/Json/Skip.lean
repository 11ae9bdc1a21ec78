import Wayfare.Json.Scan

/-!
Passing over a value that is not wanted. It must be well-formed, but its strings may hold any bytes and
any escapes, its numbers may have any size, and it may nest to any depth.
-/
namespace Wayfare.Json.Scan

/-- A container that is still open. -/
inductive Frame where
  | list
  | object
  deriving DecidableEq, Repr

namespace Frame

def closing : Frame → UInt8
  | .list => 0x5D
  | .object => 0x7D

def endCause : Frame → Cause
  | .list => .endInList
  | .object => .endInObject

def noEndCause : Frame → Cause
  | .list => .noListEnd
  | .object => .noObjectEnd

end Frame

/-- A string after its opening quote. -/
def skipString : List UInt8 → Except Fault (List UInt8)
  | [] => .error (.here .endInString [])
  | b :: rest =>
    if b == 0x22 then .ok rest
    else if b == 0x5C then
      match rest with
      | [] => .error (.here .endInString [])
      | c :: rest =>
        if (shortEscape? c).isSome then skipString rest
        else if c == 0x75 then
          match rest with
          | p :: q :: r :: s :: rest =>
            if (hexByte? p).isSome && (hexByte? q).isSome && (hexByte? r).isSome &&
                (hexByte? s).isSome then skipString rest
            else .error (.here .badEscape rest)
          | _ => .error (.here .endInString [])
        else .error (.here .badEscape rest)
    else if b < 0x20 then .error (.here .rawControl (b :: rest))
    else skipString rest

theorem skipString_quote (rest : List UInt8) : skipString (0x22 :: rest) = .ok rest := by
  rw [skipString.eq_def]
  rfl

/-- An exponent after its letter. -/
def skipExponent (bs : List UInt8) : Except Fault (List UInt8) :=
  let unsigned := match bs with
    | b :: rest => if b == 0x2B || b == 0x2D then rest else b :: rest
    | [] => []
  match unsigned with
  | [] => .error (.here .badNumber [])
  | b :: rest =>
    if isDigit b then .ok (rest.dropWhile isDigit) else .error (.here .badNumber rest)

/-- What follows the digits of a number. -/
def skipAfterDigits (pointAllowed : Bool) (bs : List UInt8) : Except Fault (List UInt8) :=
  match bs with
  | [] => .ok []
  | b :: rest =>
    if pointAllowed && b == 0x2E then
      match rest with
      | [] => .error (.next .badNumber [])
      | c :: more =>
        if isDigit c then
          match more.dropWhile isDigit with
          | [] => .ok []
          | d :: after => if isExponentLetter d then skipExponent after else .ok (d :: after)
        else .error (.next .badNumber (c :: more))
    else if isExponentLetter b then skipExponent rest
    else .ok (b :: rest)

theorem skipAfterDigits_letter {b : UInt8} (hb : isExponentLetter b = true) (rest : List UInt8) :
    skipAfterDigits true (b :: rest) = skipExponent rest := by
  have hpoint : b ≠ 0x2E := by
    intro h
    rw [h] at hb
    exact absurd hb (by decide)
  simp [skipAfterDigits, hpoint, hb]

/-- A number after its sign. -/
def skipUnsigned : List UInt8 → Except Fault (List UInt8)
  | [] => .error (.here .badNumber [])
  | b :: rest =>
    if b == 0x30 then
      if (rest.head?.map isDigit).getD false then .error (.next .badNumber rest)
      else skipAfterDigits true rest
    else if isDigit b then skipAfterDigits true (rest.dropWhile isDigit)
    else .error (.here .badNumber rest)

/-- What is expected next while a value is passed over. -/
inductive Expect where
  /-- A value. -/
  | value
  /-- The first part of the innermost container, or its end. -/
  | firstPart
  /-- A comma or the end of the innermost container. -/
  | nextPart

/-- The start of a part: nothing in a list, a name and its colon in an object. -/
def skipName : Frame → List UInt8 → Except Fault (List UInt8)
  | .list, bs => .ok bs
  | .object, bs =>
    match skipSpace bs with
    | [] => .error (.next .endInObject [])
    | b :: rest =>
      if b == 0x22 then
        match skipString rest with
        | .error f => .error f
        | .ok rest =>
          match skipSpace rest with
          | [] => .error (.next .endInObject [])
          | c :: more => if c == 0x3A then .ok more else .error (.next .noColon (c :: more))
      else .error (.next .keyNotString (b :: rest))

/-- Passes over what is expected and all the open containers, in at most `steps` steps. -/
def skipOpen : (steps : Nat) → Expect → List Frame → List UInt8 → Except Fault (List UInt8)
  | 0, _, _, bs => .error (.here .endInValue bs)
  | steps + 1, .value, frames, bs =>
    match skipSpace bs with
    | [] => .error (.next .endInValue [])
    | b :: rest =>
      let after : Except Fault (List UInt8) → Except Fault (List UInt8)
        | .error f => .error f
        | .ok rest => skipOpen steps .nextPart frames rest
      if b == 0x6E then after ((word afterN rest).map (·.2))
      else if b == 0x74 then after ((word afterT rest).map (·.2))
      else if b == 0x66 then after ((word afterF rest).map (·.2))
      else if b == 0x2D then after (skipUnsigned rest)
      else if isDigit b then after (skipUnsigned (b :: rest))
      else if b == 0x22 then after (skipString rest)
      else if b == 0x5B then skipOpen steps .firstPart (.list :: frames) rest
      else if b == 0x7B then skipOpen steps .firstPart (.object :: frames) rest
      else .error (.next .noValue (b :: rest))
  | steps + 1, .firstPart, frames, bs =>
    match frames with
    | [] => .ok bs
    | frame :: outer =>
      match skipSpace bs with
      | [] => .error (.next frame.endCause [])
      | b :: rest =>
        if b == frame.closing then skipOpen steps .nextPart outer rest
        else match skipName frame (b :: rest) with
          | .error f => .error f
          | .ok rest => skipOpen steps .value (frame :: outer) rest
  | steps + 1, .nextPart, frames, bs =>
    match frames with
    | [] => .ok bs
    | frame :: outer =>
      match skipSpace bs with
      | [] => .error (.next frame.endCause [])
      | b :: rest =>
        if b == 0x2C then
          match skipName frame rest with
          | .error f => .error f
          | .ok rest => skipOpen steps .value (frame :: outer) rest
        else if b == frame.closing then skipOpen steps .nextPart outer rest
        else .error (.next frame.noEndCause (b :: rest))

theorem skipOpen_done (steps : Nat) (bs : List UInt8) :
    skipOpen (steps + 1) .nextPart [] bs = .ok bs := by
  rw [skipOpen]

/-- Passes over one value. -/
def skipValue (bs : List UInt8) : Except Fault (List UInt8) :=
  skipOpen (2 * bs.length + 2) .value [] bs

end Wayfare.Json.Scan
