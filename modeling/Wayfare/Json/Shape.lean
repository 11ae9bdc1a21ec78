import Wayfare.Json.Reader
import Wayfare.Json.Skip

/-!
What a document must look like to be of use. A shape reads a text and views a document; both keep only
what the shape names, and both stop at the first part that does not fit.
-/
namespace Wayfare.Json

/-- A kind of document: how it is read from a text, and how it is seen in a document. -/
structure Shape where
  read : Scan.Reader Json
  view : Json → Except Path Json

/-- A field of a record. A missing field is an error only where it is required. -/
structure Field where
  name : String
  shape : Shape
  required : Bool

namespace Shape

open Scan

/-- How a number is called in a message. -/
def describeNumber : Number → String
  | .whole n => "integer `" ++ toString n ++ "`"
  | .double d => "floating point `" ++ d.text ++ "`"

/-- The fault of a value of the wrong kind, once its first token is read. -/
def mismatch (wanted : String) (bs : List UInt8) : Fault :=
  let wrong (found : String) (rest : List UInt8) : Fault := .here (.wrongType found wanted) rest
  match bs with
  | [] => .next .endInValue []
  | b :: rest =>
    if b == 0x6E then
      match word afterN rest with
      | .error f => f
      | .ok (_, rest) => wrong "null" rest
    else if b == 0x74 then
      match word afterT rest with
      | .error f => f
      | .ok (_, rest) => wrong "boolean `true`" rest
    else if b == 0x66 then
      match word afterF rest with
      | .error f => f
      | .ok (_, rest) => wrong "boolean `false`" rest
    else if startsNumber b then
      match numberAt (b :: rest) with
      | .error f => f
      | .ok (n, rest) => wrong (describeNumber n) rest
    else if b == 0x22 then
      match stringAfterQuote rest with
      | .error f => f
      | .ok (s, rest) => wrong ("string " ++ Text.quoted s) rest
    else if b == 0x5B then wrong "sequence" (b :: rest)
    else if b == 0x7B then wrong "map" (b :: rest)
    else .next .noValue (b :: rest)

/-- Any document. -/
def any : Shape where
  read := value
  view := .ok

/-- A string. -/
def text : Shape where
  read := fun _ bs =>
    match skipSpace bs with
    | [] => .error (.next .endInValue [])
    | b :: rest =>
      if b == 0x22 then (stringAfterQuote rest).map fun (s, rest) => (.string s, rest)
      else .error (mismatch "a string" (b :: rest))
  view
    | .string s => .ok (.string s)
    | _ => .error []

/-- A whole number from zero up to below `2 ^ bits`. -/
def natural (bits : Nat) : Shape where
  read := fun _ bs =>
    let wanted := "u" ++ toString bits
    match skipSpace bs with
    | [] => .error (.next .endInValue [])
    | b :: rest =>
      if startsNumber b then
        match numberAt (b :: rest) with
        | .error f => .error f
        | .ok (.whole n, rest) =>
          if 0 ≤ n && n < Nat.pow 2 bits then .ok (.number (.whole n), rest)
          else .error (.here (.wrongValue (describeNumber (.whole n)) wanted) rest)
        | .ok (.double d, rest) =>
          .error (.here (.wrongType (describeNumber (.double d)) wanted) rest)
      else .error (mismatch wanted (b :: rest))
  view
    | .number (.whole n) =>
      if 0 ≤ n && n < Nat.pow 2 bits then .ok (.number (.whole n)) else .error []
    | _ => .error []

/-- A value of the shape, or null. -/
def optional (s : Shape) : Shape where
  read := fun depth bs =>
    match skipSpace bs with
    | b :: rest =>
      if b == 0x6E then (word afterN rest).map fun (_, rest) => (.null, rest)
      else s.read depth (b :: rest)
    | [] => s.read depth []
  view
    | .null => .ok .null
    | j => s.view j

/-- The views of the items of a list, or the first that fails. -/
def viewItems (s : Shape) : Nat → List Json → Except Path (List Json)
  | _, [] => .ok []
  | i, item :: rest =>
    match s.view item with
    | .error p => .error (.index i :: p)
    | .ok v => (viewItems s (i + 1) rest).map (v :: ·)

/-- The views of the fields of an object, or the first that fails. -/
def viewFields (s : Shape) : List (String × Json) → Except Path (List (String × Json))
  | [] => .ok []
  | (name, value) :: rest =>
    match s.view value with
    | .error p => .error (.key name :: p)
    | .ok v => (viewFields s rest).map ((name, v) :: ·)

/-- A list of values of one shape. -/
def list (s : Shape) : Shape where
  read := fun depth bs =>
    match skipSpace bs with
    | [] => .error (.next .endInValue [])
    | b :: rest =>
      if b == 0x5B then
        match depth with
        | 0 => .error (.next .tooDeep (b :: rest))
        | depth + 1 =>
          (listAfterBracket (s.read depth) rest).map fun (values, rest) => (.array values, rest)
      else .error (mismatch "a sequence" (b :: rest))
  view
    | .array values => (viewItems s 0 values).map .array
    | _ => .error []

/-- An object whose values all have one shape. -/
def dictionary (s : Shape) : Shape where
  read := fun depth bs =>
    match skipSpace bs with
    | [] => .error (.next .endInValue [])
    | b :: rest =>
      if b == 0x7B then
        match depth with
        | 0 => .error (.next .tooDeep (b :: rest))
        | depth + 1 =>
          (objectAfterBrace
            (fun fields name bs =>
              (fieldValue name (s.read depth) bs).map fun (v, rest) =>
                (Fields.insert name v fields, rest)) [] rest).map
            fun (fields, rest) => (.object fields, rest)
      else .error (mismatch "a map" (b :: rest))
  view
    | .object fields => (viewFields s fields).map .object
    | _ => .error []

/-! ### Records -/

/-- What a record accepts besides its fields: an object with other fields, which are passed over, or a
list of the fields in their order; or only an object, whose other fields are documents. -/
inductive Openness where
  | tuple
  | extensible
  deriving DecidableEq, Repr

/-- The bytes after the end of a container, if they start with it. -/
def afterEnd (closing : UInt8) (bs : List UInt8) : List UInt8 :=
  match skipSpace bs with
  | b :: rest => if b == closing then rest else b :: rest
  | [] => []

/-- How a record is called where a list is too short for it. -/
def tupleTitle (title : String) (count : Nat) : String :=
  title ++ " with " ++ toString count ++ (if count == 1 then " element" else " elements")

/-- The place of the first required field. -/
def firstRequired (i : Nat) : List Field → Option Nat
  | [] => none
  | f :: rest => if f.required then some i else firstRequired (i + 1) rest

/-- The first required field that an object lacks. -/
def firstMissing (fields : List Field) (gathered : Fields Json) : Option String :=
  (fields.find? fun f => f.required && (Fields.find? f.name gathered).isNone).map (·.name)

/-- One field of a record in an object. -/
def recordField (fields : List Field) (openness : Openness) (depth : Nat)
    (gathered : Fields Json) (name : String) (bs : List UInt8) : Read (Fields Json) :=
  match fields.find? (·.name == name) with
  | some f =>
    if (Fields.find? name gathered).isSome then
      .error (.here (.duplicateField name) (afterEnd 0x7D bs))
    else (fieldValue name (f.shape.read depth) bs).map fun (v, rest) =>
      (Fields.insert name v gathered, rest)
  | none =>
    match openness with
    | .extensible => (fieldValue name (value depth) bs).map fun (_, rest) => (gathered, rest)
    | .tuple =>
      (fieldValue name (fun bs => (skipValue bs).map fun rest => ((), rest)) bs).map
        fun (_, rest) => (gathered, rest)

/-- The fields of a record in a list. -/
def recordItems (tooShort : Nat → Cause) (depth : Nat) :
    List Field → (index : Nat) → Fields Json → List UInt8 → Read (Fields Json)
  | [], _, gathered, bs => .ok (gathered, bs)
  | f :: rest, index, gathered, bs =>
    match nextItem (index == 0) bs with
    | .error e => .error e
    | .ok none =>
      match firstRequired index (f :: rest) with
      | some i => .error (.here (tooShort i) (afterEnd 0x5D bs))
      | none => .ok (gathered, bs)
    | .ok (some start) =>
      match f.shape.read depth start with
      | .error e => .error (e.within (.index index))
      | .ok (v, more) =>
        recordItems tooShort depth rest (index + 1) (Fields.insert f.name v gathered) more

/-- The views of the fields of a record in an object. -/
def viewRecord (fields : List Field) :
    Fields Json → List (String × Json) → Except Path (Fields Json)
  | gathered, [] => .ok gathered
  | gathered, (name, value) :: rest =>
    match fields.find? (·.name == name) with
    | none => viewRecord fields gathered rest
    | some f =>
      match f.shape.view value with
      | .error p => .error (.key name :: p)
      | .ok v => viewRecord fields (Fields.insert name v gathered) rest

/-- The views of the fields of a record in a list. -/
def viewTuple : List Field → (index : Nat) → Fields Json → List Json → Except Path (Fields Json)
  | [], _, gathered, [] => .ok gathered
  | [], _, _, _ :: _ => .error []
  | f :: rest, index, gathered, [] =>
    if (firstRequired index (f :: rest)).isSome then .error [] else .ok gathered
  | f :: rest, index, gathered, value :: values =>
    match f.shape.view value with
    | .error p => .error (.index index :: p)
    | .ok v => viewTuple rest (index + 1) (Fields.insert f.name v gathered) values

/-- A record with the given fields. -/
def record (title : String) (openness : Openness) (fields : List Field) : Shape where
  read := fun depth bs =>
    match skipSpace bs with
    | [] => .error (.next .endInValue [])
    | b :: rest =>
      if b == 0x7B then
        match depth with
        | 0 => .error (.next .tooDeep (b :: rest))
        | depth + 1 =>
          match members (recordField fields openness depth) (rest.length + 1) true [] rest with
          | .error f => .error f
          | .ok (gathered, rest) =>
            match firstMissing fields gathered with
            | some name => .error (.here (.missingField name) (afterEnd 0x7D rest))
            | none => (endObject rest).map fun (_, rest) => (.object gathered, rest)
      else if b == 0x5B && openness == .tuple then
        match depth with
        | 0 => .error (.next .tooDeep (b :: rest))
        | depth + 1 =>
          let tooShort := fun i => Cause.wrongLength i (tupleTitle title fields.length)
          match recordItems tooShort depth fields 0 [] rest with
          | .error f => .error f
          | .ok (gathered, rest) =>
            (endList rest).map fun (_, rest) => (.object gathered, rest)
      else .error (mismatch title (b :: rest))
  view
    | .object values =>
      match viewRecord fields [] values with
      | .error p => .error p
      | .ok gathered =>
        if (firstMissing fields gathered).isSome then .error [] else .ok (.object gathered)
    | .array values =>
      if openness == .tuple then (viewTuple fields 0 [] values).map .object else .error []
    | _ => .error []

/-- The document of a shape at the start of a text; what follows it is left unread. -/
def readFirst (s : Shape) (bs : List UInt8) : Except Fault Json :=
  (s.read maxDepth bs).map (·.1)

end Shape

end Wayfare.Json
