import TypedLayouts.Text.Identifier
import TypedLayouts.TypeScript.Syntax

/-!
# Documents up to what is not printed

Two differences between documents never show in their text: how the alternatives of a type are
grouped into unions, and whether an object literal without properties is a multi-line one.
`flattened` forgets both. A type is then made of its alternatives, of which an empty union has none;
a single alternative is that alternative itself.

A document is plain when its text can be read at all: nothing is taken over verbatim, names are
identifiers and none of the words that the printer itself writes in the place of a name, `new`
stands in front of a dotted name, and nothing is asked of a negation.
-/

namespace TypedLayouts.TypeScript

/-! ## Flattened documents -/

namespace TypeExpr

/-- The type with some alternatives. -/
def ofAlternatives : List TypeExpr → TypeExpr
  | [t] => t
  | ts => .union ts

mutual

/-- The alternatives of a type, flattened. -/
def alternatives : TypeExpr → List TypeExpr
  | .union members => alternativesAll members
  | .array item => [.array (ofAlternatives (alternatives item))]
  | .reference name arguments => [.reference name (flattenedAll arguments)]
  | .object members => [.object (flattenedMembers members)]
  | t => [t]

/-- The alternatives of several types. -/
def alternativesAll : List TypeExpr → List TypeExpr
  | [] => []
  | t :: ts => alternatives t ++ alternativesAll ts

/-- Several types, flattened. -/
def flattenedAll : List TypeExpr → List TypeExpr
  | [] => []
  | t :: ts => ofAlternatives (alternatives t) :: flattenedAll ts

/-- The members of an object type, flattened. -/
def flattenedMembers : List (String × TypeExpr) → List (String × TypeExpr)
  | [] => []
  | (key, t) :: rest => (key, ofAlternatives (alternatives t)) :: flattenedMembers rest

end

/-- A type without unions in unions and without unions of one member. -/
def flattened (t : TypeExpr) : TypeExpr :=
  ofAlternatives t.alternatives

end TypeExpr

namespace Expr

mutual

/-- An expression with flattened types, in which object literals without properties stand on one
line. -/
def flattened : Expr → Expr
  | .member target property => .member target.flattened property
  | .call callee types arguments =>
    .call callee.flattened (TypeExpr.flattenedAll types) (flattenedAll arguments)
  | .construct callee arguments => .construct callee.flattened (flattenedAll arguments)
  | .not operand => .not operand.flattened
  | .array items => .array (flattenedAll items)
  | .object multiline properties =>
    .object (multiline && !properties.isEmpty) (flattenedProperties properties)
  | e => e

/-- Several expressions, flattened. -/
def flattenedAll : List Expr → List Expr
  | [] => []
  | e :: es => e.flattened :: flattenedAll es

/-- The properties of an object literal, flattened. -/
def flattenedProperties : List (String × Expr) → List (String × Expr)
  | [] => []
  | (key, e) :: rest => (key, e.flattened) :: flattenedProperties rest

end

end Expr

/-- A statement with flattened types and expressions. -/
def Statement.flattened : Statement → Statement
  | .exportType name type => .exportType name type.flattened
  | .exportConst name value => .exportConst name value.flattened
  | .when test consequent => .when test.flattened consequent.flattened
  | .throw value => .throw value.flattened
  | s => s

/-- A document with flattened statements. -/
def Document.flattened (doc : Document) : Document :=
  ⟨doc.body.map Statement.flattened⟩

/-! ## Plain documents -/

/-- The words that are printed where a name could stand. -/
def reserved : List String :=
  ["null", "new", "typeof", "string", "number", "any", "never"]

/-- An identifier that is no reserved word. -/
def isName (s : String) : Bool :=
  Identifier.isValid s && !reserved.contains s

/-- Identifiers with points between them, as a whole no reserved word. -/
def isDottedName (s : String) : Bool :=
  (s.toList.splitOn '.').all (fun segment => Identifier.isValid (String.ofList segment))
    && !reserved.contains s

namespace TypeExpr

mutual

/-- All names in the type are names. -/
def isPlain : TypeExpr → Bool
  | .union members => isPlainAll members
  | .array item => item.isPlain
  | .reference name arguments => isDottedName name && isPlainAll arguments
  | .typeOf name => isDottedName name
  | .object members => isPlainMembers members
  | _ => true

/-- Several types are plain. -/
def isPlainAll : List TypeExpr → Bool
  | [] => true
  | t :: ts => t.isPlain && isPlainAll ts

/-- The members of an object type are plain. -/
def isPlainMembers : List (String × TypeExpr) → Bool
  | [] => true
  | (_, t) :: rest => t.isPlain && isPlainMembers rest

end

end TypeExpr

namespace Expr

/-- The expression is a name with properties. -/
def isPath : Expr → Bool
  | .ident _ => true
  | .member target _ => target.isPath
  | _ => false

/-- The expression is a negation. -/
def isNot : Expr → Bool
  | .not _ => true
  | _ => false

mutual

/-- Nothing in the expression is verbatim text, all names are names, `new` stands in front of a
path, and no negation has a property or is called. -/
def isPlain : Expr → Bool
  | .null | .string _ => true
  | .ident name => isName name
  | .member target property => target.isPlain && !target.isNot && Identifier.isValid property
  | .call callee types arguments =>
    callee.isPlain && !callee.isNot && TypeExpr.isPlainAll types && isPlainAll arguments
  | .construct callee arguments => callee.isPath && callee.isPlain && isPlainAll arguments
  | .not operand => operand.isPlain
  | .array items => isPlainAll items
  | .object _ properties => isPlainProperties properties
  | .raw _ => false

/-- Several expressions are plain. -/
def isPlainAll : List Expr → Bool
  | [] => true
  | e :: es => e.isPlain && isPlainAll es

/-- The properties of an object literal are plain. -/
def isPlainProperties : List (String × Expr) → Bool
  | [] => true
  | (_, e) :: rest => e.isPlain && isPlainProperties rest

end

end Expr

/-- All names in the statement are names, and its types and expressions are plain. -/
def Statement.isPlain : Statement → Bool
  | .importNames names _ => names.all isName
  | .exportType name type => isName name && type.isPlain
  | .exportConst name value => isName name && value.isPlain
  | .when test consequent => test.isPlain && consequent.isPlain
  | .throw value => value.isPlain
  | .exportFrom specifiers _ =>
    specifiers.all fun s => isName s.localName && isName s.exportedName

/-- All statements of the document are plain. -/
def Document.isPlain (doc : Document) : Bool :=
  doc.body.all Statement.isPlain

end TypedLayouts.TypeScript
