import TypedLayouts.Text.Blank

/-!
# Lines of environment files

An environment file is a list of lines. Quotes and backslashes may hold several lines of the text
together as one; a `#` at the start of a line or behind a blank opens a comment, which ends with its
line.
-/

namespace TypedLayouts.EnvFile

open Text (isBlank)

/-- A line that cannot be read. -/
structure BadLine where
  /-- The line, or its value when the problem is there. -/
  text : String
  /-- Where the problem is. -/
  position : Nat
  deriving DecidableEq, Repr

/-- The wording of a line that cannot be read. -/
def BadLine.message (e : BadLine) : String :=
  "Error parsing line: '" ++ e.text ++ "', error at line index: " ++ toString e.position

/-- The number of bytes of a text. -/
def byteSize (cs : List Char) : Nat :=
  (String.ofList cs).utf8ByteSize

/-- What the next character of a line is part of. -/
inductive LineState where
  /-- Nothing in particular. -/
  | plain
  /-- The first character behind a blank, where a comment may open. -/
  | behindBlank
  /-- An escape. -/
  | escape
  /-- Single quotes. -/
  | single
  /-- An escape between single quotes. -/
  | singleEscape
  /-- Double quotes. -/
  | double
  /-- An escape between double quotes. -/
  | doubleEscape
  deriving DecidableEq, Repr

namespace LineState

/-- The state behind a character that opens something, if it does. -/
def opened? (c : Char) : Option LineState :=
  if c = '\\' then some .escape
  else if c = '"' then some .double
  else if c = '\'' then some .single
  else none

/-- The state behind a character. -/
def next (state : LineState) (c : Char) : LineState :=
  match state with
  | .plain =>
    if isBlank c && c ≠ '\n' && c ≠ '\r' then .behindBlank else (opened? c).getD .plain
  | .behindBlank => (opened? c).getD .plain
  | .escape => .plain
  | .single => if c = '\\' then .singleEscape else if c = '\'' then .plain else .single
  | .singleEscape => .single
  | .double => if c = '\\' then .doubleEscape else if c = '"' then .plain else .double
  | .doubleEscape => .double

end LineState

/-- Follow a line up to its end, or up to a comment in it. The answer holds the text before the
comment, where there is one, and the state at the end. -/
def scan (before : List Char) (state : LineState) : List Char → Option (List Char) × LineState
  | [] => (none, state)
  | c :: cs =>
    if state = .behindBlank && c = '#' then (some before, state)
    else scan (before ++ [c]) (state.next c) cs

/-- The lines of a text with their line ends. -/
def rawLines : List Char → List (List Char)
  | [] => []
  | c :: cs =>
    if c = '\n' then ['\n'] :: rawLines cs
    else
      match rawLines cs with
      | [] => [[c]]
      | line :: rest => (c :: line) :: rest

/-- The line without its line end. -/
def withoutLineEnd (line : List Char) : List Char :=
  match line.reverse with
  | '\n' :: '\r' :: rest => rest.reverse
  | '\n' :: rest => rest.reverse
  | _ => line

/-- Join lines that quotes or backslashes hold together, and leave out comments. The text of the
lines before that are not complete yet is `pending`. -/
def joinLines (pending : List Char) (state : LineState) :
    List (List Char) → List (Except BadLine (List Char))
  | [] => if state = .plain then [] else [.error ⟨String.ofList pending, byteSize pending⟩]
  | line :: rest =>
    let all := pending ++ line
    if (all.dropWhile isBlank).head? = some '#' then joinLines [] .plain rest
    else
      match scan pending state line with
      | (some before, _) => .ok before :: joinLines [] .plain rest
      | (none, .plain) => .ok (withoutLineEnd all) :: joinLines [] .plain rest
      | (none, state) => joinLines all state rest

end TypedLayouts.EnvFile
