import TypedLayouts.Layout.Schema
import TypedLayouts.TypeScript.Syntax

/-!
# Types and validators of fields

| kind            | type               | validator                                  |
|-----------------|--------------------|--------------------------------------------|
| text            | `string`           | `z.string()`                               |
| number          | `number \| string` | `z.union([z.string(), z.number()])`        |
| number, strict  | `number \| null`   | `z.coerce.number().nullable().catch(null)` |
| choice          | `"a" \| "b"`       | `z.enum(["a", "b"])`                       |

A choice without values is treated as text. The validator accepts the values of the type, and a
strict one turns whatever is no number into `null`.
-/

namespace TypedLayouts.Module

open TypeScript Layout

/-- What the schema module declares: types alone, or validators with the types inferred from them.
-/
inductive Backend where
  /-- Type aliases alone. -/
  | typesOnly
  /-- Validators, and types inferred from them. -/
  | validator
  deriving DecidableEq, Repr

/-- `z.name(arguments)` -/
def zod (name : String) (arguments : List Expr) : Expr :=
  Expr.method (.ident "z") name arguments

/-- The union of the listed texts. -/
def choiceType (values : List String) : TypeExpr :=
  .union (values.map .literal)

/-- The validator of the listed texts. -/
def choiceValidator (values : List String) : Expr :=
  zod "enum" [.array (values.map .string)]

/-- The type of a field of a kind. -/
def fieldType (strictNumbers : Bool) : FieldKind → TypeExpr
  | .text => .string
  | .number => if strictNumbers then .union [.number, .null] else .union [.number, .string]
  | .choice [] => .string
  | .choice values => choiceType values

/-- The validator of a field of a kind. -/
def fieldValidator (strictNumbers : Bool) : FieldKind → Expr
  | .text => zod "string" []
  | .number =>
    if strictNumbers then
      let coerced := Expr.method (.member (.ident "z") "coerce") "number" []
      Expr.method (coerced.method "nullable" []) "catch" [.null]
    else zod "union" [.array [zod "string" [], zod "number" []]]
  | .choice [] => zod "string" []
  | .choice values => choiceValidator values

/-- A field's kind in generated code. -/
structure FieldCode where
  /-- Its type. -/
  type : TypeExpr
  /-- Its validator, where the backend has validators. -/
  validator : Option Expr

/-- The generated code for a kind of field. -/
def FieldCode.ofKind (backend : Backend) (strictNumbers : Bool) (kind : FieldKind) : FieldCode where
  type := fieldType strictNumbers kind
  validator :=
    match backend with
    | .typesOnly => none
    | .validator => some (fieldValidator strictNumbers kind)

end TypedLayouts.Module
