/-!
# Syntax trees of source files

A source file that a user wrote is read into a tree, and questions about the file are questions
about the tree. A tree also stands for a file with mistakes: what cannot be read is kept as a node
of its own, what is absent where the language wants something is put in as an empty node, and a node
remembers when a mark inside it had to be added or left out.

Only those kinds of nodes have a name that some question asks about. All others are `Kind.other`.
-/

namespace TypedLayouts.TypeScript

/-- What a node of a tree stands for. -/
inductive Kind where
  /-- A whole file. -/
  | file
  /-- `const` or `let` with its declarators. -/
  | lexicalDeclaration
  /-- `var` with its declarators. -/
  | variableDeclaration
  /-- One declared name or pattern with its initial value. -/
  | declarator
  /-- An export. -/
  | exportStatement
  /-- A name. -/
  | identifier
  /-- A string literal. -/
  | string
  /-- An object literal. -/
  | object
  /-- A property of an object literal with its key and value. -/
  | pair
  /-- The bare key of a property. -/
  | propertyName
  /-- A property of an object literal that is only a name. -/
  | shorthand
  /-- An arrow function. -/
  | arrowFunction
  /-- A call, with arguments in parentheses or as a template. -/
  | call
  /-- An expression in parentheses. -/
  | parenthesized
  /-- `value as Type` -/
  | asType
  /-- `value satisfies Type` -/
  | satisfiesType
  /-- A comment. -/
  | comment
  /-- Text that could not be read. -/
  | error
  /-- Anything else. -/
  | other
  deriving DecidableEq, Hashable, Repr, Inhabited

/-- The role of a node inside the one it stands in. -/
inductive Role where
  /-- What a declarator declares. -/
  | name
  /-- The value of a declarator or property. -/
  | value
  /-- The key of a property. -/
  | key
  /-- The body of a function. -/
  | body
  /-- What an export declares. -/
  | declaration
  /-- No role in particular. -/
  | part
  deriving DecidableEq, Hashable, Repr, Inhabited

/-- A syntax tree. -/
structure Tree where
  /-- What the node stands for. -/
  kind : Kind
  /-- The text of the node. -/
  text : String
  /-- The nodes inside it in order. -/
  children : List (Role × Tree)
  /-- The node was put in where the file has nothing. -/
  missing : Bool := false
  /-- A mark directly inside the node had to be added or left out. -/
  repaired : Bool := false
  deriving Repr, Inhabited

namespace Tree

/-- The first child with a role. -/
def child? (role : Role) (t : Tree) : Option Tree :=
  t.children.lookup role

mutual

/-- There is a mistake somewhere in the tree. -/
def hasError : Tree → Bool
  | ⟨kind, _, children, missing, repaired⟩ =>
    kind = .error || missing || repaired || anyError children

/-- There is a mistake somewhere in one of the trees. -/
def anyError : List (Role × Tree) → Bool
  | [] => false
  | (_, t) :: rest => hasError t || anyError rest

end

/-- The node is in the file, and it is no mistake itself. -/
def isPresent (t : Tree) : Bool :=
  t.kind ≠ .error && !t.missing

end Tree

end TypedLayouts.TypeScript
