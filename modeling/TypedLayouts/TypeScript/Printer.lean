import TypedLayouts.Text.Identifier
import TypedLayouts.TypeScript.Quoted
import TypedLayouts.TypeScript.Syntax

/-!
# The text of a generated module

`Document.render` prints one statement a line, in the order of the document; nothing is sorted.
Object types and multi-line object literals put each member on a line of its own, two spaces deeper
than the line that opens them. The only state of the printer is therefore the depth of the line it
is on, and it is an argument here: a printed part never changes the depth of what follows it. A
writer that counts the depth as it goes comes to the same text (`Document.written_eq_render`).

A property key is printed bare when it is an identifier and as a string literal otherwise.
-/

namespace TypedLayouts.TypeScript

/-- The blanks that open a line at a depth. -/
def indentation (depth : Nat) : String :=
  String.ofList (List.replicate (2 * depth) ' ')

/-- A property key. -/
def renderKey (key : String) : String :=
  if Identifier.isValid key then key else quote key

namespace TypeExpr

/-- The type is a union, which an array type has to put in parentheses. -/
def isUnion : TypeExpr → Bool
  | .union _ => true
  | _ => false

mutual

/-- The text of a type on a line at the given depth. -/
def render (depth : Nat) : TypeExpr → String
  | .string => "string"
  | .number => "number"
  | .null => "null"
  | .any => "any"
  | .literal value => quote value
  | .union members =>
    if members.isEmpty then "never" else String.intercalate " | " (renderAll depth members)
  | .array item =>
    if item.isUnion then "(" ++ render depth item ++ ")[]" else render depth item ++ "[]"
  | .reference name arguments =>
    if arguments.isEmpty then name
    else name ++ "<" ++ String.intercalate ", " (renderAll depth arguments) ++ ">"
  | .typeOf name => "typeof " ++ name
  | .object members =>
    if members.isEmpty then "\x7b\x7d"
    else "\x7b\n" ++ renderMembers (depth + 1) members ++ indentation depth ++ "\x7d"

/-- The texts of several types. -/
def renderAll (depth : Nat) : List TypeExpr → List String
  | [] => []
  | t :: ts => render depth t :: renderAll depth ts

/-- The members of an object type, a line each. -/
def renderMembers (depth : Nat) : List (String × TypeExpr) → String
  | [] => ""
  | (key, t) :: rest =>
    indentation depth ++ renderKey key ++ ": " ++ render depth t ++ ";\n"
      ++ renderMembers depth rest

end

/-- Type arguments in angle brackets; nothing when there are none. -/
def renderArguments (depth : Nat) (arguments : List TypeExpr) : String :=
  if arguments.isEmpty then ""
  else "<" ++ String.intercalate ", " (renderAll depth arguments) ++ ">"

end TypeExpr

namespace Expr

mutual

/-- The text of an expression on a line at the given depth. -/
def render (depth : Nat) : Expr → String
  | .null => "null"
  | .string value => quote value
  | .ident name => name
  | .member target property => render depth target ++ "." ++ property
  | .call callee typeArguments arguments =>
    render depth callee ++ TypeExpr.renderArguments depth typeArguments
      ++ "(" ++ String.intercalate ", " (renderAll depth arguments) ++ ")"
  | .construct callee arguments =>
    "new " ++ render depth callee
      ++ "(" ++ String.intercalate ", " (renderAll depth arguments) ++ ")"
  | .not operand => "!" ++ render depth operand
  | .array items => "[" ++ String.intercalate ", " (renderAll depth items) ++ "]"
  | .object multiline properties =>
    if properties.isEmpty then "\x7b\x7d"
    else if multiline then
      "\x7b\n" ++ renderLines (depth + 1) properties ++ indentation depth ++ "\x7d"
    else "\x7b " ++ String.intercalate ", " (renderInline depth properties) ++ " \x7d"
  | .raw text => text

/-- The texts of several expressions. -/
def renderAll (depth : Nat) : List Expr → List String
  | [] => []
  | e :: es => render depth e :: renderAll depth es

/-- The properties of a multi-line object literal, a line each. -/
def renderLines (depth : Nat) : List (String × Expr) → String
  | [] => ""
  | (key, e) :: rest =>
    indentation depth ++ renderKey key ++ ": " ++ render depth e ++ ",\n"
      ++ renderLines depth rest

/-- The properties of an object literal on one line. -/
def renderInline (depth : Nat) : List (String × Expr) → List String
  | [] => []
  | (key, e) :: rest => (renderKey key ++ ": " ++ render depth e) :: renderInline depth rest

end

end Expr

/-- One entry of an export list; the exported name is shown when it differs. -/
def ExportSpecifier.render (s : ExportSpecifier) : String :=
  if s.exportedName = s.localName then s.localName
  else s.localName ++ " as " ++ s.exportedName

/-- The text of a statement, without indentation and line end. -/
def Statement.render : Statement → String
  | .importNames names source =>
    "import \x7b " ++ String.intercalate ", " names ++ " \x7d from " ++ quote source ++ ";"
  | .exportType name type => "export type " ++ name ++ " = " ++ type.render 0 ++ ";"
  | .exportConst name value => "export const " ++ name ++ " = " ++ value.render 0 ++ ";"
  | .when test consequent => "if (" ++ test.render 0 ++ ") " ++ consequent.render
  | .throw value => "throw " ++ value.render 0 ++ ";"
  | .exportFrom specifiers source =>
    "export \x7b " ++ String.intercalate ", " (specifiers.map ExportSpecifier.render)
      ++ " \x7d from " ++ quote source ++ ";"

namespace Document

/-- The statements of a module, a line end after each. -/
def render (doc : Document) : String :=
  String.join (doc.body.map fun s => s.render ++ "\n")

/-- The text of a module opens with that of its first statement. -/
theorem render_cons (s : Statement) (rest : List Statement) :
    (Document.mk (s :: rest)).render = s.render ++ ("\n" ++ (Document.mk rest).render) := by
  unfold render
  rw [List.map_cons, String.join_cons, String.append_assoc]

/-- The text of statements in a row is that of the first and then that of the others. -/
theorem render_append (front rest : List Statement) :
    (Document.mk (front ++ rest)).render =
      (Document.mk front).render ++ (Document.mk rest).render := by
  unfold render
  rw [List.map_append, String.join_append]

/-- The comment that opens every generated file. -/
def banner : String :=
  "/**\n" ++
  " * Generated by layoutgen\n" ++
  " * DO NOT EDIT THIS FILE DIRECTLY. Changes may be overwritten\n" ++
  " */\n" ++
  "\n" ++
  "// @generated\n" ++
  "// prettier-ignore\n" ++
  "/* eslint-disable */\n"

/-- The text of a generated file: the banner and then the module. -/
def renderFile (doc : Document) : String :=
  banner ++ doc.render

/-- The file name extension of generated files. -/
def extension : String := "ts"

end Document

end TypedLayouts.TypeScript
