import TypedLayouts.Module.Blueprint
import TypedLayouts.Module.Name

/-!
# Schema modules

The schema module of a layout declares, in this order, the records of the layout, the records of
each portal, the table of all portals (only when there are any), and the value lists. With the
validator backend each declaration is a validator followed by the type inferred from it; otherwise
it is a type alias.

Two value lists whose names have one fragment would declare one name twice, so only the first of
them is declared. A list without values is not declared and takes no name.
-/

namespace TypedLayouts.Module

open TypeScript Layout

/-- `z.infer<typeof name>` -/
def inferred (validator : String) : TypeExpr :=
  .reference "z.infer" [.typeOf validator]

/-- The value lists that are declared: those with values, the first of each fragment. -/
def declaredLists (lists : List ValueList) : List ValueList :=
  firstsBy (fun list => Identifier.fragment list.name) []
    (lists.filter fun list => !list.values.isEmpty)

namespace Blueprint

/-- A validator and the type inferred from it. -/
def declareValidator (validator type : String) (value : Expr) : List Statement :=
  [.exportConst validator value, .exportType type (inferred validator)]

/-- The generated code for a field. -/
def fieldCode (b : Blueprint) (entry : Entry) : FieldCode :=
  .ofKind b.backend b.strictNumbers entry.kind

/-- The validator and the type of the records of a layout or portal. -/
def recordValidator (b : Blueprint) (name : String) (schema : Schema) : List Statement :=
  let members := schema.filterMap fun entry =>
    (b.fieldCode entry).validator.map fun validator => (entry.name, validator)
  declareValidator (validatorName name) (typeName name) (zod "object" [.object true members])

/-- The type of the records of a layout or portal. -/
def recordType (b : Blueprint) (name : String) (schema : Schema) : Statement :=
  .exportType (typeName name)
    (.object (schema.map fun entry => (entry.name, (b.fieldCode entry).type)))

/-- The validator and the type of the table of all portals. -/
def portalsValidator (b : Blueprint) : List Statement :=
  let members := b.schemas.portals.map fun portal =>
    (portal.name, zod "array" [.ident (validatorName portal.name)])
  declareValidator (portalsValidatorName b.name) (portalsTypeName b.name)
    (zod "object" [.object true members])

/-- The type of the table of all portals. -/
def portalsType (b : Blueprint) : Statement :=
  .exportType (portalsTypeName b.name)
    (.object (b.schemas.portals.map fun portal =>
      (portal.name, .array (.reference (typeName portal.name) []))))

/-- The schema module with validators. -/
def validatorModule (b : Blueprint) : Document where
  body :=
    [.importNames ["z"] "zod"]
      ++ b.recordValidator b.name b.schemas.schema
      ++ (b.schemas.portals.flatMap fun portal => b.recordValidator portal.name portal.schema)
      ++ (if b.hasPortals then b.portalsValidator else [])
      ++ (declaredLists b.schemas.valueLists).flatMap fun list =>
        declareValidator (valueListValidatorName list.name) (valueListTypeName list.name)
          (choiceValidator list.values)

/-- The schema module with types alone. -/
def typesModule (b : Blueprint) : Document where
  body :=
    [b.recordType b.name b.schemas.schema]
      ++ (b.schemas.portals.map fun portal => b.recordType portal.name portal.schema)
      ++ (if b.hasPortals then [b.portalsType] else [])
      ++ (declaredLists b.schemas.valueLists).map fun list =>
        .exportType (valueListTypeName list.name) (choiceType list.values)

/-- The schema module of a layout. -/
def schemaModule (b : Blueprint) : Document :=
  match b.backend with
  | .validator => b.validatorModule
  | .typesOnly => b.typesModule

end Blueprint

end TypedLayouts.Module
