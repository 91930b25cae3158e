import TypedLayouts.Module.SchemaModule
import TypedLayouts.Proofs.TypeScript.SameType

/-!
# The two backends describe the same types

A schema module declares either types or validators with the types inferred from them. `infer` reads
off a validator the type of the values that it delivers. With it the two modules of one blueprint
can be compared: they consist of the same declarations in the same order, and the type that the one
module writes out is the type that the other infers.
-/

namespace TypedLayouts.Module

open TypeScript Layout

/-! ## The type of a validator's values -/

/-- The type that is declared beside the validator of a name. -/
def typeBeside (validator : String) : Option TypeExpr :=
  match validator.toList with
  | 'Z' :: fragment => some (.reference ("T" ++ String.ofList fragment) [])
  | _ => none

/-- The type of a listed text. -/
def literalType : Expr → Option TypeExpr
  | .string value => some (.literal value)
  | _ => none

mutual

/-- The type of the values that a validator delivers. -/
def infer : Expr → Option TypeExpr
  | .ident name => typeBeside name
  | .call (.member (.ident "z") "string") [] [] => some .string
  | .call (.member (.ident "z") "number") [] [] => some .number
  | .call (.member (.member (.ident "z") "coerce") "number") [] [] => some .number
  | .call (.member (.ident "z") "union") [] [.array validators] =>
    (inferAll validators).map .union
  | .call (.member (.ident "z") "enum") [] [.array values] => (values.mapM literalType).map .union
  | .call (.member (.ident "z") "array") [] [item] => (infer item).map .array
  | .call (.member (.ident "z") "object") [] [.object _ members] =>
    (inferMembers members).map .object
  | .call (.member validator "nullable") [] [] =>
    (infer validator).map fun type => .union [type, .null]
  | .call (.member validator "catch") [] [_] => infer validator
  | _ => none

/-- The types of the values of several validators. -/
def inferAll : List Expr → Option (List TypeExpr)
  | [] => some []
  | e :: es => do return (← infer e) :: (← inferAll es)

/-- The types of the values of named validators. -/
def inferMembers : List (String × Expr) → Option (List (String × TypeExpr))
  | [] => some []
  | (key, e) :: rest => do return (key, ← infer e) :: (← inferMembers rest)

end

/-- The validator of a name stands beside the type of that name. -/
theorem infer_validatorName (name : String) :
    infer (.ident (validatorName name)) = some (.reference (typeName name) []) := by
  rw [infer]
  unfold typeBeside validatorName typeName
  rw [String.toList_append]
  show some (TypeExpr.reference ("T" ++ String.ofList (Identifier.fragment name).toList) []) = _
  rw [String.ofList_toList]

/-- The listed texts of a choice are read back one by one. -/
theorem mapM_literalType (values : List String) :
    (values.map Expr.string).mapM literalType = some (values.map TypeExpr.literal) := by
  induction values with
  | nil => rfl
  | cons value values ih => simp [literalType, ih]

/-- The validator of listed texts delivers one of them. -/
theorem infer_choiceValidator (values : List String) :
    infer (choiceValidator values) = some (choiceType values) := by
  unfold choiceValidator zod Expr.method choiceType
  rw [infer, mapM_literalType]
  rfl

/-- The validator of a field delivers values of the field's type. -/
theorem infer_fieldValidator (strictNumbers : Bool) (kind : FieldKind) :
    ∃ type, infer (fieldValidator strictNumbers kind) = some type ∧
      type.same (fieldType strictNumbers kind) = true := by
  cases kind with
  | text => exact ⟨.string, rfl, rfl⟩
  | number =>
    cases strictNumbers with
    | true => exact ⟨.union [.number, .null], rfl, rfl⟩
    | false => exact ⟨.union [.string, .number], rfl, rfl⟩
  | choice values =>
    cases values with
    | nil => exact ⟨.string, rfl, rfl⟩
    | cons value values =>
      exact ⟨_, infer_choiceValidator (value :: values), TypeExpr.same_refl _⟩

/-- The type inferred from a record's validators has the members of the record's type. -/
theorem inferMembers_fields (strictNumbers : Bool) (schema : Schema) :
    ∃ members,
      inferMembers (schema.map fun entry => (entry.name, fieldValidator strictNumbers entry.kind)) =
          some members ∧
        TypeExpr.sameMembers members
          (schema.map fun entry => (entry.name, fieldType strictNumbers entry.kind)) = true := by
  induction schema with
  | nil => exact ⟨[], rfl, rfl⟩
  | cons entry schema ih =>
    obtain ⟨members, hmembers, hsame⟩ := ih
    obtain ⟨type, htype, hfirst⟩ := infer_fieldValidator strictNumbers entry.kind
    refine ⟨(entry.name, type) :: members, ?_, ?_⟩
    · rw [List.map_cons, inferMembers, htype, hmembers]
      rfl
    · rw [List.map_cons, TypeExpr.sameMembers, hfirst, hsame, beq_self_eq_true]
      rfl

/-- The type inferred from the validators of portals has the members of the portals' type. -/
theorem inferMembers_portals (portals : List Portal) :
    inferMembers (portals.map fun portal =>
        (portal.name, zod "array" [.ident (validatorName portal.name)])) =
      some (portals.map fun portal =>
        (portal.name, .array (.reference (typeName portal.name) []))) := by
  induction portals with
  | nil => rfl
  | cons portal portals ih =>
    have hfirst : infer (zod "array" [.ident (validatorName portal.name)]) =
        some (.array (.reference (typeName portal.name) [])) := by
      unfold zod Expr.method
      rw [infer, infer_validatorName]
      rfl
    rw [List.map_cons, inferMembers, hfirst, ih]
    rfl

/-! ## Declarations -/

/-- What a schema module declares under one type name, in either backend. -/
structure Declaration where
  /-- The name of the type. -/
  name : String
  /-- The name of the validator. -/
  constant : String
  /-- The validator. -/
  validator : Expr
  /-- The type. -/
  type : TypeExpr

namespace Declaration

/-- The declaration as a validator and the type inferred from it. -/
def withValidator (d : Declaration) : List Statement :=
  [.exportConst d.constant d.validator,
    .exportType d.name (.reference "z.infer" [.typeOf d.constant])]

/-- The declaration as a type alone. -/
def typeAlone (d : Declaration) : Statement :=
  .exportType d.name d.type

/-- The type inferred from the validator is the type. -/
def Agrees (d : Declaration) : Prop :=
  ∃ type, infer d.validator = some type ∧ type.same d.type = true

end Declaration

namespace Blueprint

variable (b : Blueprint)

/-- The records of a layout or portal. -/
def recordDeclaration (name : String) (schema : Schema) : Declaration where
  name := typeName name
  constant := validatorName name
  validator := zod "object" [.object true
    (schema.map fun entry => (entry.name, fieldValidator b.strictNumbers entry.kind))]
  type := .object (schema.map fun entry => (entry.name, fieldType b.strictNumbers entry.kind))

/-- The table of all portals. -/
def portalsDeclaration : Declaration where
  name := portalsTypeName b.name
  constant := portalsValidatorName b.name
  validator := zod "object" [.object true (b.schemas.portals.map fun portal =>
    (portal.name, zod "array" [.ident (validatorName portal.name)]))]
  type := .object (b.schemas.portals.map fun portal =>
    (portal.name, .array (.reference (typeName portal.name) [])))

/-- A value list. -/
def listDeclaration (list : ValueList) : Declaration where
  name := valueListTypeName list.name
  constant := valueListValidatorName list.name
  validator := choiceValidator list.values
  type := choiceType list.values

/-- The records of the layout and of each portal. -/
def recordDeclarations : List Declaration :=
  b.recordDeclaration b.name b.schemas.schema
    :: b.schemas.portals.map fun portal => b.recordDeclaration portal.name portal.schema

/-- Everything that the schema module of a layout declares, in order. -/
def declarations : List Declaration :=
  b.recordDeclarations
    ++ (if b.hasPortals then [b.portalsDeclaration] else [])
    ++ (declaredLists b.schemas.valueLists).map listDeclaration

/-- Where there are validators, no field of a record goes without. -/
theorem recordValidator_eq (hv : b.backend = .validator) (name : String) (schema : Schema) :
    b.recordValidator name schema = (b.recordDeclaration name schema).withValidator := by
  have hfield : ∀ entry,
      (b.fieldCode entry).validator = some (fieldValidator b.strictNumbers entry.kind) := by
    intro entry
    unfold fieldCode FieldCode.ofKind
    rw [hv]
  unfold recordValidator
  simp only [hfield, Option.map_some, List.filterMap_eq_map']
  rfl

/-- The module with validators is the import of the validator package and the declarations. -/
theorem validatorModule_body (hv : b.backend = .validator) :
    b.validatorModule.body =
      .importNames ["z"] "zod" :: b.declarations.flatMap Declaration.withValidator := by
  have hrecord := b.recordValidator_eq hv
  have hportals : b.portalsValidator = b.portalsDeclaration.withValidator := rfl
  have hlist : ∀ list : ValueList, declareValidator (valueListValidatorName list.name)
      (valueListTypeName list.name) (choiceValidator list.values) =
        (listDeclaration list).withValidator := fun _ => rfl
  unfold validatorModule declarations recordDeclarations
  simp only [hrecord, hportals, hlist, List.flatMap_append, List.flatMap_cons, List.flatMap_map,
    List.cons_append, List.nil_append, List.append_assoc]
  cases b.hasPortals with
  | true => simp
  | false => rfl

/-- The module with types alone is the declarations. -/
theorem typesModule_body : b.typesModule.body = b.declarations.map Declaration.typeAlone := by
  have hrecord : ∀ name schema,
      b.recordType name schema = (b.recordDeclaration name schema).typeAlone := fun _ _ => rfl
  have hportals : b.portalsType = b.portalsDeclaration.typeAlone := rfl
  have hlist : ∀ list : ValueList, Statement.exportType (valueListTypeName list.name)
      (choiceType list.values) = (listDeclaration list).typeAlone := fun _ => rfl
  unfold typesModule declarations recordDeclarations
  simp only [hrecord, hportals, hlist, List.map_append, List.map_cons, List.map_map,
    List.cons_append, List.nil_append, List.append_assoc]
  cases b.hasPortals with
  | true => rfl
  | false => rfl

/-- The records of a layout or portal have the inferred type. -/
theorem recordDeclaration_agrees (name : String) (schema : Schema) :
    (b.recordDeclaration name schema).Agrees := by
  obtain ⟨members, hmembers, hsame⟩ := inferMembers_fields b.strictNumbers schema
  refine ⟨.object members, ?_, ?_⟩
  · unfold recordDeclaration zod Expr.method
    rw [infer, hmembers]
    rfl
  · unfold recordDeclaration
    rw [TypeExpr.same]
    exact hsame

/-- The table of all portals has the inferred type. -/
theorem portalsDeclaration_agrees : b.portalsDeclaration.Agrees := by
  refine ⟨b.portalsDeclaration.type, ?_, TypeExpr.same_refl _⟩
  unfold portalsDeclaration zod Expr.method
  rw [infer]
  exact congrArg (Option.map TypeExpr.object) (inferMembers_portals b.schemas.portals)

/-- A value list has the inferred type. -/
theorem listDeclaration_agrees (list : ValueList) : (listDeclaration list).Agrees :=
  ⟨choiceType list.values, infer_choiceValidator list.values, TypeExpr.same_refl _⟩

/-- Records come from the layout or from a portal. -/
theorem exists_of_mem_recordDeclarations {d : Declaration} (h : d ∈ b.recordDeclarations) :
    ∃ name schema, d = b.recordDeclaration name schema := by
  rcases List.mem_cons.mp h with rfl | h
  · exact ⟨_, _, rfl⟩
  · obtain ⟨portal, _, rfl⟩ := List.mem_map.mp h
    exact ⟨_, _, rfl⟩

/-- Everything that a schema module declares has the inferred type. -/
theorem declarations_agree {d : Declaration} (h : d ∈ b.declarations) : d.Agrees := by
  unfold declarations at h
  rcases List.mem_append.mp h with h | h
  · rcases List.mem_append.mp h with h | h
    · obtain ⟨name, schema, rfl⟩ := b.exists_of_mem_recordDeclarations h
      exact b.recordDeclaration_agrees name schema
    · split at h
      · rw [List.mem_singleton.mp h]
        exact b.portalsDeclaration_agrees
      · exact absurd h List.not_mem_nil
  · obtain ⟨list, _, rfl⟩ := List.mem_map.mp h
    exact listDeclaration_agrees list

/-- The two backends describe the same types. The module with validators and the module with types
alone come from the same declarations in the same order: in the one each is a validator with the
type inferred from it directly behind, in the other the type under the same name, and the two types
are the same but for the order of union members. -/
theorem schemaModules_agree :
    ({ b with backend := .validator } : Blueprint).schemaModule.body =
        .importNames ["z"] "zod" :: b.declarations.flatMap Declaration.withValidator ∧
      ({ b with backend := .typesOnly } : Blueprint).schemaModule.body =
        b.declarations.map Declaration.typeAlone ∧
      ∀ d ∈ b.declarations, d.Agrees := by
  refine ⟨?_, ?_, fun d hd => b.declarations_agree hd⟩
  · exact validatorModule_body { b with backend := .validator } rfl
  · exact typesModule_body { b with backend := .typesOnly }

end Blueprint

end TypedLayouts.Module
