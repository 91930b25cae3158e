import TypedLayouts.Json.Reading
import TypedLayouts.OrderedMap

/-!
# Decoding JSON

A `Decoder` compares a JSON text, as far as it can be read, with what is expected of it. Members
that are not expected are skipped; an expected member that comes twice is a mismatch. A record may
also be written as an array of its fields in order, the last ones left out if they have defaults.

An array with more items than the record has fields is malformed as a text. For a value that was
read before, the same is a mismatch, so it is a cause of its own here.
-/

namespace TypedLayouts.Json

/-- Why a text is not what is expected. -/
inductive DecodeError where
  /-- The text itself is malformed or incomplete. -/
  | text (fault : Fault)
  /-- The text is not of the expected shape. -/
  | mismatch
  /-- An array has more items than the record it stands for has fields. -/
  | tooLong
  deriving DecidableEq, Repr

/-- A reader of one kind of value. -/
abbrev Decoder (α : Type) := Reading → Except DecodeError α

namespace Decoder

mutual

/-- Skip a value. Only its text can be wrong. -/
def skip : Decoder Unit
  | .broken _ skipped => .error (.text skipped)
  | .array items fault => do
    skipAll items
    match fault with
    | none => return
    | some f => throw (.text f)
  | .object members fault => do
    skipMembers members
    match fault with
    | none => return
    | some f => throw (.text f)
  | _ => .ok ()

/-- Skip the items of an array. -/
def skipAll : List Reading → Except DecodeError Unit
  | [] => .ok ()
  | r :: rs => do
    skip r
    skipAll rs

/-- Skip the members of an object. -/
def skipMembers : List (Except Fault String × Reading) → Except DecodeError Unit
  | [] => .ok ()
  | (_, r) :: rest => do
    skip r
    skipMembers rest

end

/-- What is wrong with a value of another kind than the expected one. -/
def unfit : Reading → DecodeError
  | .number (.error f) => .text f
  | .string (.error f) => .text f
  | .broken kept _ => .text kept
  | _ => .mismatch

/-- Go on unless the text is at fault. -/
def finish {α : Type} (fault : Option Fault) (a : α) : Except DecodeError α :=
  match fault with
  | none => .ok a
  | some f => .error (.text f)

/-- A string. -/
def string : Decoder String
  | .string (.ok s) => .ok s
  | r => .error (unfit r)

/-- A whole number below `bound`. -/
def natBelow (bound : Nat) : Decoder Nat
  | .number (.ok (.integer n)) =>
    if 0 ≤ n ∧ n < bound then .ok n.toNat else .error .mismatch
  | r => .error (unfit r)

/-- A value or `null`. -/
def nullable {α : Type} (d : Decoder α) : Decoder (Option α)
  | .null => .ok none
  | r => (d r).map some

/-- An array of values. -/
def list {α : Type} (d : Decoder α) : Decoder (List α)
  | .array items fault => do finish fault (← items.mapM d)
  | r => .error (unfit r)

/-- The members of an object with any keys. -/
def entries {α : Type} (d : Decoder α) : List (Except Fault String × Reading) →
    Except DecodeError (List (String × α))
  | [] => .ok []
  | (.error f, _) :: _ => .error (.text f)
  | (.ok key, r) :: rest => do
    let a ← d r
    return (key, a) :: (← entries d rest)

/-- An object with any keys, in the order of the keys; of two members with one key the later
counts. -/
def map {α : Type} (d : Decoder α) : Decoder (OrderedMap String α)
  | .object members fault => do finish fault (.ofList (← entries d members))
  | r => .error (unfit r)

/-- How many arrays and objects may be nested in a value that is kept. -/
def maxDepth : Nat := 127

mutual

/-- Any value, inside as many arrays and objects as `depth` says. -/
def value (depth : Nat) : Decoder Json
  | .null => .ok .null
  | .bool b => .ok (.bool b)
  | .number (.ok n) => .ok (.number n)
  | .string (.ok s) => .ok (.string s)
  | .array items fault => do
    if maxDepth ≤ depth then throw (.text .malformed)
    finish fault (.array (← valueAll (depth + 1) items))
  | .object members fault => do
    if maxDepth ≤ depth then throw (.text .malformed)
    let members ← valueMembers (depth + 1) members
    finish fault (.object (OrderedMap.ofList members).entries)
  | r => .error (unfit r)

/-- Any values. -/
def valueAll (depth : Nat) : List Reading → Except DecodeError (List Json)
  | [] => .ok []
  | r :: rs => do
    let v ← value depth r
    return v :: (← valueAll depth rs)

/-- Any members. -/
def valueMembers (depth : Nat) : List (Except Fault String × Reading) →
    Except DecodeError (List (String × Json))
  | [] => .ok []
  | (.error f, _) :: _ => .error (.text f)
  | (.ok key, r) :: rest => do
    let v ← value depth r
    return (key, v) :: (← valueMembers depth rest)

end

/-- A field of a record under construction. -/
structure Field (σ : Type) where
  /-- The key of the field. -/
  name : String
  /-- How its value changes the record. -/
  read : Reading → σ → Except DecodeError σ

/-- Read the members of an object into a record; `seen` holds the expected keys met before. -/
def readMembers {σ : Type} (fields : List (Field σ)) (seen : List String) (record : σ) :
    List (Except Fault String × Reading) → Except DecodeError σ
  | [] => .ok record
  | (.error f, _) :: _ => .error (.text f)
  | (.ok key, r) :: rest =>
    match fields.find? (·.name = key) with
    | none => do
      skip r
      readMembers fields seen record rest
    | some field => do
      if key ∈ seen then throw .mismatch
      let record ← field.read r record
      readMembers fields (key :: seen) record rest

/-- Read the items of an array into the fields of a record in order. -/
def readItems {σ : Type} (fault : Option Fault) (record : σ) :
    List (Field σ) → List Reading → Except DecodeError σ
  | _, [] => finish fault record
  | [], _ :: _ => .error .tooLong
  | field :: fields, r :: rs => do
    let record ← field.read r record
    readItems fault record fields rs

/-- A record, written as an object or as an array. -/
def record {σ : Type} (fields : List (Field σ)) (start : σ) : Decoder σ
  | .object members fault => do finish fault (← readMembers fields [] start members)
  | .array items fault => readItems fault start fields items
  | r => .error (unfit r)

/-- The value of a field that must be there. -/
def require {α : Type} : Option α → Except DecodeError α
  | some a => .ok a
  | none => .error .mismatch

/-- Decode a whole text. -/
def ofText {α : Type} (d : Decoder α) (text : String) : Except DecodeError α := do
  let (reading, more) := Reading.ofText text
  let a ← d reading
  if more then throw (.text .malformed)
  return a

end Decoder

mutual

/-- A value as the reading of a text that spells it. -/
def toReading : Json → Reading
  | .null => .null
  | .bool b => .bool b
  | .number n => .number (.ok n)
  | .string s => .string (.ok s)
  | .array items => .array (toReadings items) none
  | .object members => .object (toMembers members) none

/-- Several values as readings. -/
def toReadings : List Json → List Reading
  | [] => []
  | v :: vs => toReading v :: toReadings vs

/-- Members as readings. -/
def toMembers : List (String × Json) → List (Except Fault String × Reading)
  | [] => []
  | (key, v) :: rest => (.ok key, toReading v) :: toMembers rest

end

/-- What kind of problem a decoder reports. -/
inductive Category where
  /-- Malformed text. -/
  | malformed
  /-- Text that ended too early. -/
  | incomplete
  /-- Well-formed text of another shape. -/
  | mismatch
  deriving DecidableEq, Repr

/-- The kind of a problem met in a text. -/
def DecodeError.inText : DecodeError → Category
  | .text .malformed => .malformed
  | .text .incomplete => .incomplete
  | .mismatch => .mismatch
  | .tooLong => .malformed

/-- The kind of a problem met in a value, whose text was well formed. -/
def DecodeError.inValue : DecodeError → Category
  | .text .malformed => .malformed
  | .text .incomplete => .incomplete
  | .mismatch => .mismatch
  | .tooLong => .mismatch

end TypedLayouts.Json
