import TypedLayouts.OrderedMap

/-!
# What a server reports about a layout

A layout shows fields, and portals that show fields of related records; some fields have a value
list attached. `Metadata` is everything that generation reads of it. The order of fields and value
lists is the order in which the server reports them; portals are in the order of their names.

A missing catalog of value lists (`none`) differs from an empty one only in where it comes from:
neither gives a field any values.
-/

namespace TypedLayouts.Layout

/-- One field as the server describes it. -/
structure Field where
  /-- The name on the layout. -/
  name : String
  /-- The kind of result, such as `number` or `text`; empty when the server names none. -/
  result : String := ""
  /-- The name of the attached value list. -/
  valueList : Option String := none
  deriving DecidableEq, Repr

/-- A named list of permitted values. -/
structure ValueList where
  /-- The name of the list. -/
  name : String
  /-- The values in order. -/
  values : List String := []
  deriving DecidableEq, Repr

/-- Everything that generation reads about one layout. -/
structure Metadata where
  /-- The fields of the layout itself. -/
  fields : List Field := []
  /-- The fields of each portal, by portal name. -/
  portals : OrderedMap String (List Field) := ∅
  /-- The catalog of value lists, if the server sent one. -/
  valueLists : Option (List ValueList) := none

/-- The default metadata are those of a layout without fields. -/
instance : Inhabited Metadata :=
  ⟨{}⟩

end TypedLayouts.Layout
