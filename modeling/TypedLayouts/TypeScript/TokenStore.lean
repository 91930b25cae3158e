import TypedLayouts.TypeScript.Syntax
import TypedLayouts.TypeScript.Tree

/-!
# The token store of a config file

A config file may say where generated clients keep their tokens: it declares `config` at its top
level, as an object literal with a property `tokenStore`. `Tree.tokenStore?` finds the value of the
property and turns it into an expression that makes a token store.

Only one binding and one property are looked at. Mistakes elsewhere in the file do no harm; the
value itself has to be free of them.
-/

namespace TypedLayouts.TypeScript

namespace Tree

/-- The name of the binding. -/
def configName : String := "config"

/-- The name of the property. -/
def tokenStoreName : String := "tokenStore"

/-- The node is a declaration of variables. -/
def isDeclaration (t : Tree) : Bool :=
  t.kind = .lexicalDeclaration || t.kind = .variableDeclaration

/-- The declaration of variables that a statement is or exports. -/
def declaration? (statement : Tree) : Option Tree :=
  if statement.isDeclaration then some statement
  else if statement.kind ≠ .exportStatement then none
  else (statement.child? .declaration).filter isDeclaration

/-- The node declares the variable with the given name. -/
def declares (name : String) (t : Tree) : Bool :=
  t.kind = .declarator &&
    match t.child? .name with
    | some id => id.kind = .identifier && !id.missing && id.text = name
    | none => false

/-- The initial value that a declaration gives to a name. Only the first declarator of the name
counts. -/
def initialIn? (name : String) (declaration : Tree) : Option Tree := do
  let (_, declarator) ← declaration.children.find? fun (_, t) => t.declares name
  (declarator.child? .value).filter isPresent

/-- The initial value of a name that a file declares at its top level. The first declaration that
gives it a value counts. -/
def initial? (name : String) (file : Tree) : Option Tree :=
  file.children.findSome? fun (_, statement) => do initialIn? name (← statement.declaration?)

/-- The node is a wrapper that does not change the value inside it. -/
def isWrapper (t : Tree) : Bool :=
  t.kind = .parenthesized || t.kind = .asType || t.kind = .satisfiesType

/-- The value inside all wrappers around it, where the first node inside a wrapper is its value. -/
def unwrapped : Tree → Tree
  | ⟨kind, text, [], missing, repaired⟩ => ⟨kind, text, [], missing, repaired⟩
  | ⟨kind, text, (role, inner) :: rest, missing, repaired⟩ =>
    if isWrapper ⟨kind, text, (role, inner) :: rest, missing, repaired⟩ then unwrapped inner
    else ⟨kind, text, (role, inner) :: rest, missing, repaired⟩
termination_by t => sizeOf t

/-- The text between the quotes of a string literal, as it is written. -/
def unquoted? (literal : String) : Option String :=
  let isQuote (c : Char) : Bool := c = '"' || c = '\''
  match literal.toList with
  | [] => none
  | c :: rest =>
    match rest.getLast? with
    | some d => if isQuote c && isQuote d then some (String.ofList rest.dropLast) else none
    | none => none

/-- The key that a node is: a bare one, or a string literal. -/
def keyName? (t : Tree) : Option String :=
  match t.kind with
  | .propertyName => some t.text
  | .string => unquoted? t.text
  | _ => none

/-- A property of an object literal. -/
inductive Property where
  /-- A property with a value. -/
  | assigned (value : Tree)
  /-- A property that is only a name. -/
  | shorthand (name : String)

/-- The node is a property with the given name: a pair with this key, or the name alone. -/
def isProperty (name : String) (t : Tree) : Bool :=
  match t.kind with
  | .pair => (t.child? .key).bind keyName? = some name
  | .shorthand => t.text = name
  | _ => false

/-- What a property is; `none` when its value has a mistake or is missing. -/
def property? (t : Tree) : Option Property :=
  match t.kind with
  | .shorthand => some (.shorthand t.text)
  | _ => ((t.child? .value).filter (!·.hasError)).map .assigned

/-- The property of an object literal with the given name. Only the first one counts. -/
def find? (name : String) (object : Tree) : Option Property := do
  let (_, member) ← object.children.find? fun (_, t) => t.isProperty name
  member.property?

/-- The expression that makes a token store: a function that is named is called, an arrow function
that only makes a call gives this call, and anything else is taken as it stands. -/
def Property.construction : Property → Expr
  | .shorthand name => .call (.ident name) [] []
  | .assigned value =>
    match value.kind, value.child? .body with
    | .identifier, _ => .call (.ident value.text) [] []
    | .arrowFunction, some body => .raw (if body.kind = .call then body.text else value.text)
    | _, _ => .raw value.text

/-- The expression that makes the token store of a config file. -/
def tokenStore? (file : Tree) : Option Expr := do
  let object := unwrapped (← file.initial? configName)
  if object.kind = .object then
    return (← find? tokenStoreName object).construction
  else none

end Tree

end TypedLayouts.TypeScript
