import TypedLayouts.Layout.Metadata

/-!
# Schemas

A schema says what generated code declares about a list of fields: a name and a kind for each, no
name twice. `Schema.ofFields` reads it off the server's descriptions. The first description of a
name counts and later ones are dropped. A field has the kind of its value list when value lists are
in use and the catalog knows the list; otherwise it is a number or a text by its kind of result.

`LayoutSchema` collects the schemas of a layout and of its portals with the catalog that they were
read with, in which likewise the first entry of a name counts.
-/

namespace TypedLayouts.Layout

/-- What the values of a field are. -/
inductive FieldKind where
  /-- Any text. -/
  | text
  /-- A number; the server may deliver it as text, or empty. -/
  | number
  /-- One of the listed texts. -/
  | choice (values : List String)
  deriving DecidableEq, Repr

/-- One field of a schema. -/
structure Entry where
  /-- The field name. -/
  name : String
  /-- The kind of its values. -/
  kind : FieldKind
  deriving DecidableEq, Repr

/-- The fields of a layout or portal, in order. -/
abbrev Schema := List Entry

/-- The schema of one portal. -/
structure Portal where
  /-- The name of the portal. -/
  name : String
  /-- The fields it shows. -/
  schema : Schema
  deriving DecidableEq, Repr

/-- Which use is made of value lists. -/
inductive ValueListMode where
  /-- Only the listed values are permitted. -/
  | strict
  /-- The listed values and the empty text are permitted. -/
  | allowEmpty
  /-- Value lists have no influence on fields. -/
  | ignore
  deriving DecidableEq, Repr

/-- The elements whose key none before them has, in order. -/
def firstsBy {α : Type} (key : α → String) (seen : List String) : List α → List α
  | [] => []
  | a :: rest =>
    if key a ∈ seen then firstsBy key seen rest
    else a :: firstsBy key (key a :: seen) rest

/-- The catalog with the first entry of each name only. -/
def distinctLists (lists : List ValueList) : List ValueList :=
  firstsBy ValueList.name [] lists

/-- The values that a mode permits for a list of values: as they are, or with the empty text added
at the end unless it is among them. -/
def ValueListMode.permit (mode : ValueListMode) (values : List String) : List String :=
  if mode = .allowEmpty ∧ "" ∉ values then values ++ [""] else values

/-- The values a field is restricted to: those of the first list in the catalog that has the name
the field refers to. -/
def Field.choices (field : Field) (catalog : Option (List ValueList)) (mode : ValueListMode) :
    Option (List String) :=
  if mode = .ignore then none
  else do
    let name ← field.valueList
    let list ← (← catalog).find? fun list => list.name = name
    return mode.permit list.values

/-- The kind of a field under a catalog and a mode. -/
def Field.kind (field : Field) (catalog : Option (List ValueList)) (mode : ValueListMode) :
    FieldKind :=
  match field.choices catalog mode with
  | some values => .choice values
  | none => if field.result = "number" then .number else .text

/-- The schema of a list of fields: one entry for each name, made from its first description. -/
def Schema.ofFields (fields : List Field) (catalog : Option (List ValueList))
    (mode : ValueListMode) : Schema :=
  (firstsBy Field.name [] fields).map fun field => ⟨field.name, field.kind catalog mode⟩

/-- The schemas of a layout and its portals, with the catalog of value lists. -/
structure LayoutSchema where
  /-- The fields of the layout itself. -/
  schema : Schema := []
  /-- The portals in name order. -/
  portals : List Portal := []
  /-- The value lists, no name twice; empty when the server sent no catalog. -/
  valueLists : List ValueList := []
  deriving DecidableEq, Repr

/-- The schemas that a layout's metadata gives. -/
def Metadata.schemas (metadata : Metadata) (mode : ValueListMode) : LayoutSchema :=
  let catalog := metadata.valueLists.map distinctLists
  { schema := .ofFields metadata.fields catalog mode
    portals := metadata.portals.entries.map fun (name, fields) =>
      ⟨name, .ofFields fields catalog mode⟩
    valueLists := catalog.getD [] }

end TypedLayouts.Layout
