import TypedLayouts.Json.Decoder
import TypedLayouts.Layout.Metadata

/-!
# Metadata as JSON

The format in which metadata is stored: an object with the keys `fields`, `portals` and
`valueLists`, each of which may be absent. A field has a `name` and perhaps a `result` and a
`valueList`; a value list has a `name` and perhaps `values`.
-/

namespace TypedLayouts.Layout

open Json (Decoder)
open Json.Decoder (string list nullable record require)

/-- A field under construction. -/
structure Field.Draft where
  /-- The name, once it is read. -/
  name : Option String := none
  /-- The kind of result. -/
  result : String := ""
  /-- The name of the attached value list. -/
  valueList : Option String := none

/-- One field. -/
def Field.decoder : Decoder Field := fun r => do
  let draft ← record
    [⟨"name", fun r d => return { d with name := some (← string r) }⟩,
      ⟨"result", fun r d => return { d with result := ← string r }⟩,
      ⟨"valueList", fun r d => return { d with valueList := ← nullable string r }⟩]
    ({} : Draft) r
  return ⟨← require draft.name, draft.result, draft.valueList⟩

/-- A value list under construction. -/
structure ValueList.Draft where
  /-- The name, once it is read. -/
  name : Option String := none
  /-- The values. -/
  values : List String := []

/-- One value list. -/
def ValueList.decoder : Decoder ValueList := fun r => do
  let draft ← record
    [⟨"name", fun r d => return { d with name := some (← string r) }⟩,
      ⟨"values", fun r d => return { d with values := ← list string r }⟩]
    ({} : Draft) r
  return ⟨← require draft.name, draft.values⟩

/-- The metadata of a layout. -/
def Metadata.decoder : Decoder Metadata :=
  record
    [⟨"fields", fun r m => return { m with fields := ← list Field.decoder r }⟩,
      ⟨"portals", fun r m => return { m with portals := ← Decoder.map (list Field.decoder) r }⟩,
      ⟨"valueLists", fun r m =>
        return { m with valueLists := ← nullable (list ValueList.decoder) r }⟩]
    {}

end TypedLayouts.Layout
