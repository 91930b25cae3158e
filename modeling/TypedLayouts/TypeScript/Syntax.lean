/-!
# Generated modules

The part of TypeScript that generated modules are made of. A `Document` is a list of statements in
the order in which they are printed; expressions and types are trees. The types know nothing of
layouts or schemas: the builders in `TypedLayouts.Module` assemble documents, and
`TypedLayouts.TypeScript.Printer` gives their text.

Names are plain strings. The one node that is not built here is `Expr.raw`, an expression taken
over verbatim from a file that a user wrote.
-/

namespace TypedLayouts.TypeScript

/-- A type of a generated module. -/
inductive TypeExpr where
  /-- `string` -/
  | string
  /-- `number` -/
  | number
  /-- `null` -/
  | null
  /-- `any` -/
  | any
  /-- The type of one string. -/
  | literal (value : String)
  /-- `a | b`; without members it is `never`. -/
  | union (members : List TypeExpr)
  /-- `item[]` -/
  | array (item : TypeExpr)
  /-- A named type, perhaps with type arguments: `z.infer<T>`. -/
  | reference (name : String) (arguments : List TypeExpr)
  /-- `typeof name` -/
  | typeOf (name : String)
  /-- An object type with its members in order. -/
  | object (members : List (String × TypeExpr))
  deriving Repr, Inhabited

/-- An expression of a generated module. -/
inductive Expr where
  /-- `null` -/
  | null
  /-- A string literal. -/
  | string (value : String)
  /-- A name. -/
  | ident (name : String)
  /-- `object.property` -/
  | member (object : Expr) (property : String)
  /-- `callee<T, U>(arguments)` -/
  | call (callee : Expr) (typeArguments : List TypeExpr) (arguments : List Expr)
  /-- `new callee(arguments)` -/
  | construct (callee : Expr) (arguments : List Expr)
  /-- `!operand` -/
  | not (operand : Expr)
  /-- `[a, b]` -/
  | array (items : List Expr)
  /-- An object literal, on one line or with one property a line. -/
  | object (multiline : Bool) (properties : List (String × Expr))
  /-- Source text carried over as it stands. -/
  | raw (text : String)
  deriving Repr, Inhabited

/-- One entry of an `export { … } from` list. -/
structure ExportSpecifier where
  /-- The name inside the module exported from. -/
  localName : String
  /-- The name under which it is exported. -/
  exportedName : String
  deriving DecidableEq, Repr

/-- A statement of a generated module. -/
inductive Statement where
  /-- `import { a, b } from "source";` -/
  | importNames (names : List String) (source : String)
  /-- `export type name = type;` -/
  | exportType (name : String) (type : TypeExpr)
  /-- `export const name = value;` -/
  | exportConst (name : String) (value : Expr)
  /-- `if (test) consequent` -/
  | when (test : Expr) (consequent : Statement)
  /-- `throw value;` -/
  | throw (value : Expr)
  /-- `export { a, b as c } from "source";` -/
  | exportFrom (specifiers : List ExportSpecifier) (source : String)
  deriving Repr, Inhabited

/-- A generated module: its statements in order. -/
structure Document where
  /-- The statements. -/
  body : List Statement
  deriving Repr, Inhabited

namespace Expr

/-- The expression a dotted text denotes: a name, and a property for each further segment. The
text is cut at every dot, so a segment may be empty. -/
def path (dotted : String) : Expr :=
  match dotted.toList.splitOn '.' with
  | [] => .ident ""
  | first :: rest =>
    rest.foldl (fun object segment => .member object (String.ofList segment))
      (.ident (String.ofList first))

/-- `object.name(arguments)` -/
def method (object : Expr) (name : String) (arguments : List Expr) : Expr :=
  .call (.member object name) [] arguments

end Expr

end TypedLayouts.TypeScript
