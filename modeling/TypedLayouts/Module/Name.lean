import TypedLayouts.Text.Identifier

/-!
# Names in generated modules

Every identifier that stands for something the user named is built here from the name's fragment,
where it is declared and where it is used alike. A prefix, and for portals a suffix, tells what the
identifier stands for.
-/

namespace TypedLayouts.Module

open Identifier (fragment)

/-- The type of a layout's or portal's records. -/
def typeName (name : String) : String :=
  "T" ++ fragment name

/-- The validator of a layout's or portal's records. -/
def validatorName (name : String) : String :=
  "Z" ++ fragment name

/-- The type of all portals of a layout. -/
def portalsTypeName (name : String) : String :=
  "T" ++ fragment name ++ "Portals"

/-- The validator of all portals of a layout. -/
def portalsValidatorName (name : String) : String :=
  "Z" ++ fragment name ++ "Portals"

/-- The type of a value list. -/
def valueListTypeName (name : String) : String :=
  "TVL" ++ fragment name

/-- The validator of a value list. -/
def valueListValidatorName (name : String) : String :=
  "ZVL" ++ fragment name

/-- The name under which the index exports a client. -/
def clientName (name : String) : String :=
  fragment name ++ "Client"

end TypedLayouts.Module
