import TypedLayouts.EnvFile.Line
import TypedLayouts.Text.Alphanumeric

/-!
# Values in environment files

Between single quotes every character stands for itself; elsewhere a backslash escapes some
characters, and `$NAME` or `${NAME}` stands for the value of a variable. What a variable is worth is
not known here: a value is read into pieces, which are characters and variables.
-/

namespace TypedLayouts.EnvFile

open Text (isAlphanumeric)

/-- A piece of a value. -/
inductive Piece where
  /-- A character. -/
  | char (c : Char)
  /-- The value of a variable. -/
  | reference (name : String)
  deriving DecidableEq, Repr

/-- What the next character of a value is part of. -/
inductive ValueState where
  /-- Text outside of quotes. -/
  | bare
  /-- Text between single quotes. -/
  | single
  /-- Text between double quotes. -/
  | double
  /-- An escape, perhaps between double quotes. -/
  | escape (quoted : Bool)
  /-- The name of a variable, perhaps between double quotes, as far as it is read. -/
  | name (quoted : Bool) (found : List Char)
  /-- The name of a variable in braces. -/
  | braced (quoted : Bool) (found : List Char)
  /-- What follows the value: blanks and a comment. -/
  | behind
  deriving DecidableEq, Repr

namespace ValueState

/-- Text, perhaps between double quotes. -/
def text (quoted : Bool) : ValueState :=
  if quoted then .double else .bare

/-- The variable with a name. -/
def reference (name : List Char) : Piece :=
  .reference (String.ofList name)

/-- The character that an escape stands for. -/
def escaped? (c : Char) : Option Char :=
  if c = 'n' then some '\n'
  else if c = '\\' || c = '\'' || c = '"' || c = '$' || c = ' ' then some c
  else none

/-- What a character adds to a value, and the state behind it; `none` where it may not stand. A
character that ends a name without braces always stands for itself. -/
def next (state : ValueState) (c : Char) : Option (List Piece × ValueState) :=
  match state with
  | .behind => if c = ' ' || c = '\t' then some ([], .behind) else none
  | .escape quoted => (escaped? c).map fun c => ([.char c], text quoted)
  | .single => some (if c = '\'' then ([], .bare) else ([.char c], .single))
  | .name quoted found =>
    some <|
      if isAlphanumeric c then ([], .name quoted (found ++ [c]))
      else if c = '\x7b' && found.isEmpty then ([], .braced quoted [])
      else if c = '$' then ([reference found], .name quoted [])
      else ([reference found, .char c], text quoted)
  | .braced quoted found =>
    some <|
      if c = '\x7d' then ([reference found], text quoted)
      else ([], .braced quoted (found ++ [c]))
  | .double =>
    some <|
      if c = '$' then ([], .name true [])
      else if c = '"' then ([], .bare)
      else if c = '\\' then ([], .escape true)
      else ([.char c], .double)
  | .bare =>
    some <|
      if c = '$' then ([], .name false [])
      else if c = '\'' then ([], .single)
      else if c = '"' then ([], .double)
      else if c = '\\' then ([], .escape false)
      else if c = ' ' || c = '\t' then ([], .behind)
      else ([.char c], .bare)

/-- What is left to add at the end of a value; `none` when something is still open. -/
def atEnd : ValueState → Option (List Piece)
  | .bare => some []
  | .behind => some []
  | .escape quoted => if quoted then none else some []
  | .name quoted found => if quoted then none else some [reference found]
  | .single => none
  | .double => none
  | .braced _ _ => none

end ValueState

/-- Read a value from a place on, where `text` is the whole of it. -/
def valueFrom (text : List Char) (position : Nat) (state : ValueState) :
    List Char → Except BadLine (List Piece)
  | [] =>
    match state.atEnd with
    | some last => .ok last
    | none => .error ⟨String.ofList text, byteSize text - 1⟩
  | c :: cs =>
    if state = .behind && c = '#' then .ok []
    else
      match state.next c with
      | some (added, state) => (valueFrom text (position + 1) state cs).map (added ++ ·)
      | none => .error ⟨String.ofList text, position⟩

/-- Read a value. -/
def value (text : List Char) : Except BadLine (List Piece) :=
  valueFrom text 0 .bare text

end TypedLayouts.EnvFile
