import TypedLayouts.Json.Decoder
import TypedLayouts.Layout.Metadata

/-!
# What the server answers about a layout

The body of the server's answer to a request for layout metadata. It tells more about fields and
value lists than generation needs; `LayoutResponse.metadata` keeps what it does need.
-/

namespace TypedLayouts.Server

open Json (Decoder)
open Json.Decoder (string list nullable record require natBelow)

/-- One field in a layout answer. -/
structure FieldInfo where
  /-- The name on the layout. -/
  name : String
  /-- The kind of field, such as `normal` or `calculation`. -/
  type : String := ""
  /-- The kind of result, such as `text` or `number`. -/
  result : String := ""
  /-- The name of the attached value list. -/
  valueList : Option String := none
  /-- The number of repetitions. -/
  repetitions : Option Nat := none
  deriving DecidableEq, Repr

/-- One value of a value list: what is stored and perhaps what is shown. -/
structure ListedValue where
  /-- The stored value. -/
  value : String
  /-- The value as it is shown. -/
  display : Option String := none
  deriving DecidableEq, Repr

/-- One value list in a layout answer. -/
structure ListInfo where
  /-- The name of the list. -/
  name : String
  /-- The kind of list. -/
  type : String := ""
  /-- The values in order. -/
  values : List ListedValue := []
  deriving DecidableEq, Repr

/-- The body of an answer about a layout. -/
structure LayoutResponse where
  /-- The fields of the layout itself. -/
  fields : List FieldInfo := []
  /-- The fields of each portal, by portal name. -/
  portals : OrderedMap String (List FieldInfo) := ∅
  /-- The value lists; absent when the layout has none. -/
  valueLists : Option (List ListInfo) := none

/-- A field under construction. -/
structure FieldInfo.Draft where
  /-- The name, once it is read. -/
  name : Option String := none
  /-- The kind of field. -/
  type : String := ""
  /-- The kind of result. -/
  result : String := ""
  /-- The name of the attached value list. -/
  valueList : Option String := none
  /-- The number of repetitions. -/
  repetitions : Option Nat := none

/-- One field. Repetitions are a 32-bit number. -/
def FieldInfo.decoder : Decoder FieldInfo := fun r => do
  let draft ← record
    [⟨"name", fun r d => return { d with name := some (← string r) }⟩,
      ⟨"type", fun r d => return { d with type := ← string r }⟩,
      ⟨"result", fun r d => return { d with result := ← string r }⟩,
      ⟨"valueList", fun r d => return { d with valueList := ← nullable string r }⟩,
      ⟨"repetitions", fun r d =>
        return { d with repetitions := ← nullable (natBelow UInt32.size) r }⟩]
    ({} : Draft) r
  return ⟨← require draft.name, draft.type, draft.result, draft.valueList, draft.repetitions⟩

/-- A listed value under construction. -/
structure ListedValue.Draft where
  /-- The stored value, once it is read. -/
  value : Option String := none
  /-- The value as it is shown. -/
  display : Option String := none

/-- One listed value. -/
def ListedValue.decoder : Decoder ListedValue := fun r => do
  let draft ← record
    [⟨"value", fun r d => return { d with value := some (← string r) }⟩,
      ⟨"displayValue", fun r d => return { d with display := ← nullable string r }⟩]
    ({} : Draft) r
  return ⟨← require draft.value, draft.display⟩

/-- A value list under construction. -/
structure ListInfo.Draft where
  /-- The name, once it is read. -/
  name : Option String := none
  /-- The kind of list. -/
  type : String := ""
  /-- The values. -/
  values : List ListedValue := []

/-- One value list. -/
def ListInfo.decoder : Decoder ListInfo := fun r => do
  let draft ← record
    [⟨"name", fun r d => return { d with name := some (← string r) }⟩,
      ⟨"type", fun r d => return { d with type := ← string r }⟩,
      ⟨"values", fun r d => return { d with values := ← list ListedValue.decoder r }⟩]
    ({} : Draft) r
  return ⟨← require draft.name, draft.type, draft.values⟩

/-- What generation reads of a field. -/
def FieldInfo.field (f : FieldInfo) : Layout.Field :=
  ⟨f.name, f.result, f.valueList⟩

namespace LayoutResponse

/-- The body of an answer. -/
def decoder : Decoder LayoutResponse :=
  record
    [⟨"fieldMetaData", fun r m => return { m with fields := ← list FieldInfo.decoder r }⟩,
      ⟨"portalMetaData", fun r m =>
        return { m with portals := ← Decoder.map (list FieldInfo.decoder) r }⟩,
      ⟨"valueLists", fun r m =>
        return { m with valueLists := ← nullable (list ListInfo.decoder) r }⟩]
    {}

/-- What generation reads of an answer. -/
def metadata (response : LayoutResponse) : Layout.Metadata where
  fields := response.fields.map FieldInfo.field
  portals := response.portals.map (List.map FieldInfo.field)
  valueLists := response.valueLists.map fun lists =>
    lists.map fun list => ⟨list.name, list.values.map ListedValue.value⟩

end LayoutResponse

end TypedLayouts.Server
