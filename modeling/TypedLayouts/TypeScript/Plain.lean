import TypedLayouts.Text.Identifier
import TypedLayouts.Text.Reader
import TypedLayouts.TypeScript.Language.Token
import TypedLayouts.TypeScript.Reading.Lexeme
import TypedLayouts.TypeScript.Tree

/-!
# Plain files

Most config files only declare constants, whose values are made of names, strings, `null`, property
accesses, calls, arrays and object literals. Such a file is read right away, in one pass from left
to right. Anything else, such as a comment or a mistake, makes a file no plain one.

The reader for the grammar of the whole language is meant to come to the same tree for a plain file.
That it does is not proved: what is known about plain files is known of this reader.

Each reader takes the text from the first character of what it reads, and gives the tree with the
text behind it. The readers of values call each other; `depth` bounds how deep.
-/

namespace TypedLayouts.TypeScript

namespace Plain

open Text (Reader between)

/-- A node from one place up to a later one. -/
def node (kind : Kind) (start stop : List Char) (children : List (Role × Tree)) : Tree :=
  ⟨kind, between start stop, children, false, false⟩

/-- Children without a role in particular. -/
def parts (trees : List Tree) : List (Role × Tree) :=
  trees.map (Role.part, ·)

/-- The text behind blanks. -/
def skipBlanks (cs : List Char) : List Char :=
  cs.dropWhile fun c => c = ' ' || c = '\n'

/-- The text behind a mark, if it comes next. -/
def mark? (c : Char) (cs : List Char) : Option (List Char) :=
  match skipBlanks cs with
  | d :: rest => if d = c then some rest else none
  | [] => none

/-! ## Words -/

/-- Read an ASCII word. -/
def word : Reader String
  | [] => none
  | c :: cs =>
    if Identifier.isStart c then
      let rest := cs.dropWhile Identifier.isContinue
      some (between (c :: cs) rest, rest)
    else none

/-- The text behind one particular word, if it comes next. -/
def keyword? (text : String) (cs : List Char) : Option (List Char) := do
  let (found, rest) ← word cs
  if found = text then some rest else none

/-- The words that are no names in a plain file, because they have a meaning somewhere. -/
def keywords : List String :=
  Token.vocabulary.filterMap fun
    | .text t => if (Token.text t).isWord && t ∉ ["target", "meta"] then some t else none
    | _ => none

/-- Read a name. -/
def name : Reader Tree := fun cs => do
  let (found, rest) ← word cs
  if found ∈ keywords then none else some (node .identifier cs rest [], rest)

/-- Read a property behind a point. Every word is one. -/
def property : Reader Tree := fun cs => do
  let (_, rest) ← word cs
  some (node .propertyName cs rest [], rest)

/-! ## Strings -/

/-- Read the pieces of a string and its end. A piece is a run of plain characters, or a backslash
with what it stands in front of; as many steps as the text has characters are enough. -/
def pieces : Nat → Reader (List Tree)
  | 0, _ => none
  | steps + 1, cs =>
    match cs with
    | '"' :: rest => some ([], rest)
    | _ => do
      let stop ← Lexeme.run (Lexeme.isPlain '"') cs <|> Lexeme.escape cs
      let (more, rest) ← pieces steps stop
      some (node .other cs stop [] :: more, rest)

/-- Read a string. -/
def string : Reader Tree
  | '"' :: cs => do
    let (found, rest) ← pieces cs.length cs
    some (node .string ('"' :: cs) rest (parts found), rest)
  | _ => none

/-! ## Values -/

/-- Read the key of a property. -/
def key : Reader Tree
  | '"' :: cs => string ('"' :: cs)
  | cs => property cs

/-- Read the rest of a dotted name, of which the first part has been read. -/
def dotted (start : List Char) : Nat → Tree → List Char → Option (Tree × List Char)
  | 0, _, _ => none
  | steps + 1, t, cs =>
    match skipBlanks cs with
    | '.' :: more => do
      let (p, rest) ← property (skipBlanks more)
      dotted start steps (node .other start rest (parts [t, p])) rest
    | _ => some (t, cs)

mutual

/-- Read a value. -/
def value : Nat → Reader Tree
  | 0, _ => none
  | depth + 1, cs => do
    let (t, rest) ← operand depth cs
    accesses depth cs t rest

/-- Read a value without what may follow it: property accesses and calls. -/
def operand : Nat → Reader Tree
  | 0, _ => none
  | depth + 1, cs =>
    match cs with
    | '"' :: _ => string cs
    | '[' :: more => do
      let (items, rest) ← values depth ']' more
      some (node .other cs rest (parts items), rest)
    | '\x7b' :: more => do
      let (members, rest) ← members depth more
      some (node .object cs rest (parts members), rest)
    | _ => do
      let (found, rest) ← word cs
      if found = "null" then some (node .other cs rest [], rest)
      else if found = "new" then creation depth cs rest
      else name cs

/-- Read what follows `new`: a dotted name, and values in parentheses. At the end of a line, `new`
could be a name. -/
def creation : Nat → List Char → Reader Tree
  | 0, _, _ => none
  | depth + 1, start, cs => do
    let cs := cs.dropWhile (· = ' ')
    let (t, rest) ← name cs
    let (t, rest) ← dotted cs rest.length t rest
    let rest := skipBlanks rest
    match rest with
    | '(' :: more =>
      let (items, stop) ← values depth ')' more
      let arguments := node .other rest stop (parts items)
      some (node .other start stop (parts [t, arguments]), stop)
    | _ => none

/-- Read the property accesses and calls behind a value. -/
def accesses : Nat → List Char → Tree → List Char → Option (Tree × List Char)
  | 0, _, _, _ => none
  | depth + 1, start, t, cs =>
    let next := skipBlanks cs
    match next with
    | '.' :: more => do
      let (p, rest) ← property (skipBlanks more)
      accesses depth start (node .other start rest (parts [t, p])) rest
    | '(' :: more => do
      let (items, rest) ← values depth ')' more
      let arguments := node .other next rest (parts items)
      accesses depth start (node .call start rest (parts [t, arguments])) rest
    | _ => some (t, cs)

/-- Read values with commas between, and the mark behind them. -/
def values : Nat → Char → Reader (List Tree)
  | 0, _, _ => none
  | depth + 1, close, cs =>
    match mark? close cs with
    | some rest => some ([], rest)
    | none => do
      let (t, rest) ← value depth (skipBlanks cs)
      match mark? ',' rest with
      | some more => do
        let (ts, stop) ← furtherValues depth close more
        some (t :: ts, stop)
      | none => do some ([t], ← mark? close rest)

/-- Read one or more values with commas between, and the mark behind them. -/
def furtherValues : Nat → Char → Reader (List Tree)
  | 0, _, _ => none
  | depth + 1, close, cs => do
    let (t, rest) ← value depth (skipBlanks cs)
    match mark? ',' rest with
    | some more => do
      let (ts, stop) ← furtherValues depth close more
      some (t :: ts, stop)
    | none => do some ([t], ← mark? close rest)

/-- Read the members of an object literal, each a key and a value, and its end. There may be a comma
behind the last one. -/
def members : Nat → Reader (List Tree)
  | 0, _ => none
  | depth + 1, cs =>
    match mark? '\x7d' cs with
    | some rest => some ([], rest)
    | none => do
      let cs := skipBlanks cs
      let (k, rest) ← key cs
      let (v, rest) ← value depth (skipBlanks (← mark? ':' rest))
      let t := node .pair cs rest [(.key, k), (.value, v)]
      match mark? ',' rest with
      | some more => do
        let (ts, stop) ← members depth more
        some (t :: ts, stop)
      | none => do some ([t], ← mark? '\x7d' rest)

end

/-! ## Files -/

/-- As deep as the readers of values call each other in a text. Of every four of them in a row one
takes a character. -/
def depthOf (cs : List Char) : Nat :=
  4 * cs.length + 4

/-- Read the declaration of a constant. -/
def declaration : Reader Tree := fun cs => do
  let start := skipBlanks (← keyword? "const" cs)
  let (n, rest) ← name start
  let (v, rest) ← value (depthOf rest) (skipBlanks (← mark? '=' rest))
  let declarator := node .declarator start rest [(.name, n), (.value, v)]
  let rest ← mark? ';' rest
  some (node .lexicalDeclaration cs rest (parts [declarator]), rest)

/-- Read a statement: the declaration of a constant, perhaps exported. At a line's end, `export`
would be a statement of its own. -/
def statement : Reader Tree := fun cs =>
  match keyword? "export" cs with
  | some more => do
    let (t, rest) ← declaration (more.dropWhile (· = ' '))
    some (node .exportStatement cs rest [(.declaration, t)], rest)
  | none => declaration cs

/-- Read statements up to the end of the text. Each takes some text, so as many steps as the text
has characters are enough. -/
def statements : Nat → List Char → Option (List Tree)
  | 0, _ => none
  | steps + 1, cs => do
    let (t, rest) ← statement cs
    match skipBlanks rest with
    | [] => some [t]
    | more => do some (t :: (← statements steps more))

/-- The tree of a plain file. -/
def file? (cs : List Char) : Option Tree := do
  let start := skipBlanks cs
  let ts ← statements start.length start
  some (node .file start [] (parts ts))

end Plain

end TypedLayouts.TypeScript
