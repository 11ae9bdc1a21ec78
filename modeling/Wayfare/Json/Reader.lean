import Wayfare.Json.Scan

/-!
Reading a document from its text. Lists and objects are read by `items` and `members`, which take the
reader of one part; a document nests at most `maxDepth` lists and objects.
-/
namespace Wayfare.Json.Scan

/-- How deep lists and objects may nest. -/
def maxDepth : Nat := 127

/-- A reader from the next token on, of a value at most so many containers deep. -/
abbrev Reader (α : Type) := (depth : Nat) → List UInt8 → Read α

/-! ### Lists -/

/-- Whether an item follows in a list: the bytes from its start, or none before the closing
bracket. -/
def nextItem (first : Bool) (bs : List UInt8) : Except Fault (Option (List UInt8)) :=
  match skipSpace bs with
  | [] => .error (.next .endInList [])
  | b :: rest =>
    if b == 0x5D then .ok none
    else if first then .ok (some (b :: rest))
    else if b == 0x2C then
      match skipSpace rest with
      | [] => .error (.next .endInValue [])
      | c :: more =>
        if c == 0x5D then .error (.next .trailingComma (c :: more)) else .ok (some (c :: more))
    else .error (.next .noListEnd (b :: rest))

/-- The closing bracket of a list. -/
def endList (bs : List UInt8) : Read Unit :=
  match skipSpace bs with
  | [] => .error (.next .endInList [])
  | b :: rest =>
    if b == 0x5D then .ok ((), rest)
    else if b == 0x2C then
      match skipSpace rest with
      | c :: more =>
        if c == 0x5D then .error (.next .trailingComma (c :: more))
        else .error (.next .trailingText (c :: more))
      | [] => .error (.next .trailingText [])
    else .error (.next .trailingText (b :: rest))

/-- The items of a list up to its closing bracket, in at most `steps` steps. -/
def items (item : List UInt8 → Read α) : (steps index : Nat) → List UInt8 → Read (List α)
  | 0, _, bs => .error (.here .endInList bs)
  | steps + 1, index, bs =>
    match nextItem (index == 0) bs with
    | .error f => .error f
    | .ok none => .ok ([], bs)
    | .ok (some start) =>
      match item start with
      | .error f => .error (f.within (.index index))
      | .ok (value, rest) =>
        match items item steps (index + 1) rest with
        | .error f => .error f
        | .ok (values, rest) => .ok (value :: values, rest)

/-! ### Objects -/

/-- Whether a field follows in an object: the bytes after the opening quote of its name, or none
before the closing brace. A name that is no string is a part without a name. -/
def nextKey (first : Bool) (bs : List UInt8) : Except Fault (Option (List UInt8)) :=
  let unnamed (cause : Cause) (at_ : List UInt8) : Except Fault (Option (List UInt8)) :=
    .error ((Fault.next cause at_).within .unnamed)
  match skipSpace bs with
  | [] => .error (.next .endInObject [])
  | b :: rest =>
    if b == 0x7D then .ok none
    else if first then
      if b == 0x22 then .ok (some rest) else unnamed .keyNotString (b :: rest)
    else if b == 0x2C then
      match skipSpace rest with
      | [] => .error (.next .endInValue [])
      | c :: more =>
        if c == 0x22 then .ok (some more)
        else if c == 0x7D then unnamed .trailingComma (c :: more)
        else unnamed .keyNotString (c :: more)
    else .error (.next .noObjectEnd (b :: rest))

/-- The closing brace of an object. -/
def endObject (bs : List UInt8) : Read Unit :=
  match skipSpace bs with
  | [] => .error (.next .endInObject [])
  | b :: rest =>
    if b == 0x7D then .ok ((), rest)
    else if b == 0x2C then .error (.next .trailingComma (b :: rest))
    else .error (.next .trailingText (b :: rest))

/-- The colon between a name and its value. -/
def colon (bs : List UInt8) : Read Unit :=
  match skipSpace bs with
  | [] => .error (.next .endInObject [])
  | b :: rest => if b == 0x3A then .ok ((), rest) else .error (.next .noColon (b :: rest))

/-- The value of a field, after its name. -/
def fieldValue (name : String) (value : List UInt8 → Read α) (bs : List UInt8) : Read α :=
  match colon bs with
  | .error f => .error f
  | .ok ((), rest) =>
    match value rest with
    | .error f => .error (f.within (.key name))
    | .ok result => .ok result

/-- The fields of an object up to its closing brace, in at most `steps` steps. The reader of one
field takes what was gathered so far, the name and the bytes after it. -/
def members (field : σ → String → List UInt8 → Read σ) :
    (steps : Nat) → (first : Bool) → σ → List UInt8 → Read σ
  | 0, _, _, bs => .error (.here .endInObject bs)
  | steps + 1, first, gathered, bs =>
    match nextKey first bs with
    | .error f => .error f
    | .ok none => .ok (gathered, bs)
    | .ok (some start) =>
      match stringAfterQuote start with
      | .error f => .error (f.within .unnamed)
      | .ok (name, rest) =>
        match field gathered name rest with
        | .error f => .error f
        | .ok (gathered, rest) => members field steps false gathered rest

/-! ### Values -/

/-- A list between its brackets, whose opening one is read. -/
def listAfterBracket (item : List UInt8 → Read α) (bs : List UInt8) : Read (List α) :=
  match items item (bs.length + 1) 0 bs with
  | .error f => .error f
  | .ok (values, rest) =>
    match endList rest with
    | .error f => .error f
    | .ok ((), rest) => .ok (values, rest)

/-- An object between its braces, whose opening one is read. -/
def objectAfterBrace (field : σ → String → List UInt8 → Read σ) (start : σ) (bs : List UInt8) :
    Read σ :=
  match members field (bs.length + 1) true start bs with
  | .error f => .error f
  | .ok (gathered, rest) =>
    match endObject rest with
    | .error f => .error f
    | .ok ((), rest) => .ok (gathered, rest)

/-- Any document. Of two fields with one name the later counts. -/
def value : Reader Json
  | depth, bs =>
    match skipSpace bs with
    | [] => .error (.next .endInValue [])
    | b :: rest =>
      if b == 0x6E then (word afterN rest).map fun (_, rest) => (.null, rest)
      else if b == 0x74 then (word afterT rest).map fun (_, rest) => (.bool true, rest)
      else if b == 0x66 then (word afterF rest).map fun (_, rest) => (.bool false, rest)
      else if startsNumber b then (numberAt (b :: rest)).map fun (n, rest) => (.number n, rest)
      else if b == 0x22 then (stringAfterQuote rest).map fun (s, rest) => (.string s, rest)
      else if b == 0x5B then
        match depth with
        | 0 => .error (.next .tooDeep (b :: rest))
        | depth + 1 =>
          (listAfterBracket (value depth) rest).map fun (values, rest) => (.array values, rest)
      else if b == 0x7B then
        match depth with
        | 0 => .error (.next .tooDeep (b :: rest))
        | depth + 1 =>
          (objectAfterBrace
            (fun fields name bs =>
              (fieldValue name (value depth) bs).map fun (v, rest) =>
                (Fields.insert name v fields, rest)) [] rest).map
            fun (fields, rest) => (.object fields, rest)
      else .error (.next .noValue (b :: rest))

end Wayfare.Json.Scan

namespace Wayfare.Json

/-- The document at the start of a text; what follows it is left unread. -/
def readFirst (bs : List UInt8) : Except Fault Json :=
  (Scan.value Scan.maxDepth bs).map (·.1)

/-- The one document that a text holds, with nothing but blanks around it. -/
def parse (bs : List UInt8) : Except Fault Json :=
  match Scan.value Scan.maxDepth bs with
  | .error f => .error f
  | .ok (v, rest) =>
    match Scan.skipSpace rest with
    | [] => .ok v
    | more => .error (.next .trailingText more)

/-- The document of a text, if it is one. -/
def parse? (bs : List UInt8) : Option Json :=
  (parse bs).toOption

end Wayfare.Json
