import TypedLayouts.EnvFile.Value
import TypedLayouts.Environment

/-!
# Environment files

A file of lines `NAME=value`, each perhaps behind the word `export`, that sets environment
variables. A variable that is set already keeps its value, so of several lines for one variable the
first counts.
-/

namespace TypedLayouts.EnvFile

open Text (isBlank dropTrailing)

/-- A variable with the value that a line gives to it. -/
structure Assignment where
  /-- The name of the variable. -/
  name : String
  /-- The pieces of the value. -/
  value : List Piece
  deriving DecidableEq, Repr

/-! ## Reading -/

/-- A character that may open the name of a variable. -/
def isNameStart (c : Char) : Bool :=
  c.isAlpha || c = '_'

/-- A character that may continue the name of a variable. -/
def isNamePart (c : Char) : Bool :=
  c.isAlphanum || c = '_' || c = '.'

/-- Read the name of a variable and the blanks behind it. -/
def variableName (cs : List Char) : Option (String × List Char) :=
  match cs with
  | c :: _ =>
    if isNameStart c then
      some (String.ofList (cs.takeWhile isNamePart),
        (cs.dropWhile isNamePart).dropWhile isBlank)
    else none
  | [] => none

/-- Nothing but a comment is left. -/
def isOver (cs : List Char) : Bool :=
  cs.isEmpty || cs.head? = some '#'

/-- Read what stands before the value, from its first character on: the name, perhaps behind the
word `export`, and an equals sign. A problem is told by the text from its place on. -/
def target (cs : List Char) : Except (List Char) (String × List Char) :=
  match variableName cs with
  | none => .error cs
  | some (name, '=' :: rest) => .ok (name, rest.dropWhile isBlank)
  | some (name, rest) =>
    if name ≠ "export" then .error rest
    else
      match variableName rest with
      | none => .error rest
      | some (name, '=' :: rest) => .ok (name, rest.dropWhile isBlank)
      | some (_, rest) => .error rest

/-- Read a line, which may be empty. -/
def assignment (line : List Char) : Except BadLine (Option Assignment) :=
  let text := dropTrailing isBlank line
  let start := text.dropWhile isBlank
  if isOver start then .ok none
  else
    match target start with
    | .error rest => .error ⟨String.ofList line, byteSize text - byteSize rest⟩
    | .ok (name, rest) =>
      if isOver rest then .ok (some ⟨name, []⟩)
      else (value rest).map fun v => some ⟨name, v⟩

/-- Read lines in order. The first one that cannot be read is the one reported. -/
def assignments : List (Except BadLine (List Char)) → Except BadLine (List Assignment)
  | [] => .ok []
  | .error e :: _ => .error e
  | .ok line :: rest => do
    let first ← assignment line
    return first.toList ++ (← assignments rest)

/-- The text without a byte order mark. -/
def withoutMark (cs : List Char) : List Char :=
  match cs with
  | c :: rest => if c = '\uFEFF' then rest else cs
  | [] => []

/-- Read a file. -/
def ofText (text : String) : Except BadLine (List Assignment) :=
  assignments (joinLines [] .plain (rawLines (withoutMark text.toList)))

/-! ## Loading -/

/-- The variables whose values a piece needs. -/
def Piece.names : Piece → List String
  | .char _ => []
  | .reference name => [name]

/-- The variables whose values an assignment needs. -/
def Assignment.names (a : Assignment) : List String :=
  a.name :: a.value.flatMap Piece.names

/-- The text of a piece; a variable that is not set has none. -/
def Piece.text (env : Environment) : Piece → String
  | .char c => c.toString
  | .reference name => (env name).getD ""

/-- The value that an assignment gives. -/
def Assignment.text (env : Environment) (a : Assignment) : String :=
  String.join (a.value.map (Piece.text env))

/-- The environment with a variable set, unless it is already. -/
def Assignment.apply (env : Environment) (a : Assignment) : Environment := fun name =>
  if name = a.name then some ((env name).getD (a.text env)) else env name

/-- The environment after the assignments of a file, in their order. -/
def load (env : Environment) (file : List Assignment) : Environment :=
  file.foldl Assignment.apply env

end TypedLayouts.EnvFile
