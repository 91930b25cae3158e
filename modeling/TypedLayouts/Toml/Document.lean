import TypedLayouts.Toml.Node
import TypedLayouts.Toml.Token

/-!
# Reading TOML

A document is read in two stages. Its lines are read into sections: a header, and the pairs of keys
and values below it. The sections are then added one after the other to the tree of tables, where a
key or header that is already taken is refused.
-/

namespace TypedLayouts.Toml

open Text (Reader)

/-- A key, its parts before the last one and the last one, with a value. -/
abbrev Pair := List String × String × Node

/-- The text behind blanks, line ends and comments. -/
def skipLayout : Nat → List Char → Option (List Char)
  | 0, _ => none
  | steps + 1, cs =>
    match skipBlanks cs with
    | '#' :: rest => skipLayout steps (skipComment ('#' :: rest))
    | rest =>
      match newline rest with
      | some (_, rest) => skipLayout steps rest
      | none => some rest

/-- The table that pairs between braces make. -/
def inlineTable (pairs : List Pair) : Option Node := do
  return .table .inline (← addPairs .inline [] pairs)

/-- Read a word, number or date. A date may go on behind a blank. -/
def scalar : Reader Node := fun cs =>
  let word := cs.takeWhile isScalarChar
  let rest := cs.dropWhile isScalarChar
  if word = "true".toList then some (.bool true, rest)
  else if word = "false".toList then some (.bool false, rest)
  else if isInteger word || isFloat word then some (.number, rest)
  else (dateTime cs).map fun (_, rest) => (.date, rest)

mutual

/-- Read a value in which so many arrays and inline tables may stand in each other. Of any two steps
in a row one takes a character, so twice as many steps as the text has characters are enough. -/
def value : Nat → Nat → Reader Node
  | _, 0, _ => none
  | levels, steps + 1, cs =>
    match levels, cs with
    | _, '"' :: _ => (stringValue cs).map fun (text, rest) => (.string text, rest)
    | _, '\'' :: _ => (stringValue cs).map fun (text, rest) => (.string text, rest)
    | 0, '[' :: _ => none
    | levels + 1, '[' :: rest =>
      (items levels steps rest).map fun (nodes, rest) => (.array nodes, rest)
    | 0, '\x7b' :: _ => none
    | levels + 1, '\x7b' :: rest =>
      match skipBlanks rest with
      | '\x7d' :: rest => some (.table .inline [], rest)
      | rest => do
        let (found, rest) ← pairs levels steps rest
        return (← inlineTable found, rest)
    | _, cs => scalar cs

/-- Read the values of an array up to its end. -/
def items : Nat → Nat → Reader (List Node)
  | _, 0, _ => none
  | levels, steps + 1, cs => do
    match ← skipLayout (cs.length + 1) cs with
    | ']' :: rest => return ([], rest)
    | rest =>
      let (node, rest) ← value levels steps rest
      match ← skipLayout (rest.length + 1) rest with
      | ',' :: rest =>
        let (nodes, rest) ← items levels steps rest
        return (node :: nodes, rest)
      | ']' :: rest => return ([node], rest)
      | _ => none

/-- Read the pairs of an inline table up to its end; at least one is still to come. -/
def pairs : Nat → Nat → Reader (List Pair)
  | _, 0, _ => none
  | levels, steps + 1, cs => do
    let ((path, key), rest) ← dottedKey cs
    match rest with
    | '=' :: rest =>
      let (node, rest) ← value levels steps (skipBlanks rest)
      match skipBlanks rest with
      | ',' :: rest =>
        let (more, rest) ← pairs levels steps rest
        return ((path, key, node) :: more, rest)
      | '\x7d' :: rest => return ([(path, key, node)], rest)
      | _ => none
    | _ => none

end

/-- One line of a document. -/
inductive Line where
  /-- Nothing, or a comment. -/
  | empty
  /-- A key with a value. -/
  | pair (pair : Pair)
  /-- The header `[path.key]`. -/
  | table (path : List String) (key : String)
  /-- The header `[[path.key]]`. -/
  | tableItem (path : List String) (key : String)
  deriving Repr

/-- Read a line up to its end, or to the comment behind it. -/
def lineBody (cs : List Char) : Option (Line × List Char) :=
  match cs with
  | '[' :: '[' :: rest => do
    let ((path, key), rest) ← dottedKey rest
    match rest with
    | ']' :: ']' :: rest => return (.tableItem path key, rest)
    | _ => none
  | '[' :: rest => do
    let ((path, key), rest) ← dottedKey rest
    match rest with
    | ']' :: rest => return (.table path key, rest)
    | _ => none
  | '#' :: _ => some (.empty, cs)
  | '\n' :: _ => some (.empty, cs)
  | '\r' :: _ => some (.empty, cs)
  | [] => some (.empty, cs)
  | cs => do
    let ((path, key), rest) ← dottedKey cs
    match rest with
    | '=' :: rest =>
      let (node, rest) ← value depthLimit (2 * rest.length + 2) (skipBlanks rest)
      return (.pair (path, key, node), rest)
    | _ => none

/-- Read all lines. Every step but the last takes a line end. -/
def lines : Nat → List Char → Option (List Line)
  | 0, _ => none
  | steps + 1, cs => do
    let (line, rest) ← lineBody (skipBlanks cs)
    match skipComment (skipBlanks rest) with
    | [] => return [line]
    | rest =>
      let (_, rest) ← newline rest
      return line :: (← lines steps rest)

/-- The pairs at the front of some lines, up to the next header. -/
def leadingPairs : List Line → List Pair
  | .pair p :: rest => p :: leadingPairs rest
  | .empty :: rest => leadingPairs rest
  | _ => []

/-- Add the sections that headers open; pairs before the first header are passed over. -/
def addSections (entries : Entries) : List Line → Option Entries
  | [] => some entries
  | .table path key :: rest => do
    addSections (← addTable entries path key (leadingPairs rest)) rest
  | .tableItem path key :: rest => do
    addSections (← addTableItem entries path key (leadingPairs rest)) rest
  | _ :: rest => addSections entries rest

/-- The text without a byte order mark. -/
def withoutMark : List Char → List Char
  | c :: rest => if c.toNat = 0xFEFF then rest else c :: rest
  | [] => []

/-- The tables of a document; `none` when the text is no TOML. -/
def ofText (text : String) : Option Entries := do
  let cs := withoutMark text.toList
  let read ← lines (cs.length + 1) cs
  addSections (← addPairs .header [] (leadingPairs read)) read

end TypedLayouts.Toml
