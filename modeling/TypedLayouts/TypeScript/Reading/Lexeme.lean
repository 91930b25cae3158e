/-!
# Lexemes

The texts of the tokens that are not one fixed text. Each reader takes the text of one kind of token
from the front of a text, as long as possible, and gives what follows it.

A NUL character stands in no lexeme.

Names are made from all characters but blanks, control characters, and the ASCII marks with a
meaning of their own; a digit does not open a name. A character may be written as `\u0061` or
`\u{61}`.
-/

namespace TypedLayouts.TypeScript

/-- What is behind a lexeme, if there is one. -/
abbrev LexemeReader := List Char → Option (List Char)

namespace Lexeme

/-! ## Characters -/

/-- A blank, which may stand between tokens. -/
def isBlank (c : Char) : Bool :=
  let n := c.toNat
  (0x9 ≤ n && n ≤ 0xD) || n == 0x20 || n == 0x85 || n == 0xA0 || n == 0x1680
    || (0x2000 ≤ n && n ≤ 0x200B) || n == 0x2028 || n == 0x2029 || n == 0x202F || n == 0x205F
    || n == 0x2060 || n == 0x3000 || n == 0xFEFF

/-- A mark with a meaning of its own. -/
def isMark (c : Char) : Bool :=
  ":;\x60\"'@#.,|^&<=>+-*/\\%?!~()[]\x7b\x7d".toList.contains c

/-- A character that may continue a name. -/
def isNamePart (c : Char) : Bool :=
  0x20 < c.toNat && !isBlank c && !isMark c

/-- A hexadecimal digit. -/
def isHexDigit (c : Char) : Bool :=
  c.isDigit || ('a' ≤ c && c ≤ 'f') || ('A' ≤ c && c ≤ 'F')

/-- An octal digit. -/
def isOctalDigit (c : Char) : Bool :=
  '0' ≤ c && c ≤ '7'

/-- A binary digit. -/
def isBinaryDigit (c : Char) : Bool :=
  c = '0' || c = '1'

/-- A character that ends a line. -/
def isLineEnd (c : Char) : Bool :=
  c = '\n' || c = '\r' || c = '\u2028' || c = '\u2029'

/-! ## Names -/

/-- Behind a character code: four digits, or any number of them in braces. -/
def characterCode : LexemeReader
  | '\x7b' :: c :: cs =>
    if isHexDigit c then
      match cs.dropWhile isHexDigit with
      | '\x7d' :: rest => some rest
      | _ => none
    else none
  | a :: b :: c :: d :: rest =>
    if isHexDigit a && isHexDigit b && isHexDigit c && isHexDigit d then some rest else none
  | _ => none

/-- Behind one character of a name, if it fits. -/
def nameCharacter (fits : Char → Bool) : LexemeReader
  | '\\' :: 'u' :: cs => characterCode cs
  | c :: cs => if isNamePart c && fits c then some cs else none
  | [] => none

/-- Behind the rest of a name. Every character takes some text, so as many steps as the text has
characters are enough. -/
def nameRest : Nat → List Char → List Char
  | 0, cs => cs
  | steps + 1, cs =>
    match nameCharacter (fun _ => true) cs with
    | some rest => nameRest steps rest
    | none => cs

/-- A name. -/
def name : LexemeReader := fun cs => do
  let rest ← nameCharacter (!·.isDigit) cs
  return nameRest rest.length rest

/-- A name of a private member. -/
def privateName : LexemeReader
  | '#' :: cs => name cs
  | _ => none

/-! ## Numbers -/

/-- The longer one of two lexemes: the one with less behind it. -/
def longer (a b : Option (List Char)) : Option (List Char) :=
  match a, b with
  | some x, some y => if y.length < x.length then b else a
  | some _, none => a
  | none, _ => b

/-- Behind more digits, each of which may have an underscore in front. -/
def moreDigits (isDigit : Char → Bool) : List Char → List Char
  | '_' :: c :: cs => if isDigit c then moreDigits isDigit cs else '_' :: c :: cs
  | c :: cs => if isDigit c then moreDigits isDigit cs else c :: cs
  | [] => []

/-- Digits with single underscores between. -/
def digits (isDigit : Char → Bool) : LexemeReader
  | c :: cs => if isDigit c then some (moreDigits isDigit cs) else none
  | [] => none

/-- Digits behind a zero and a letter. -/
def digitsWithBase : LexemeReader
  | '0' :: letter :: cs =>
    if letter = 'x' || letter = 'X' then digits isHexDigit cs
    else if letter = 'b' || letter = 'B' then digits isBinaryDigit cs
    else if letter = 'o' || letter = 'O' then digits isOctalDigit cs
    else none
  | _ => none

/-- The part of a decimal number in front of the point: zero, or digits with at most one zero in
front. -/
def wholePart : LexemeReader
  | '0' :: c :: cs =>
    if c.isDigit && c ≠ '0' then some (moreDigits Char.isDigit cs) else some (c :: cs)
  | c :: cs =>
    if c = '0' then some cs
    else if c.isDigit then some (moreDigits Char.isDigit cs)
    else none
  | [] => none

/-- An exponent. -/
def exponent : LexemeReader
  | e :: cs =>
    if e = 'e' || e = 'E' then
      match cs with
      | sign :: rest =>
        if sign = '+' || sign = '-' then digits Char.isDigit rest else digits Char.isDigit cs
      | [] => none
    else none
  | [] => none

/-- Behind what may be there or not. -/
def orNothing (reader : LexemeReader) (cs : List Char) : List Char :=
  (reader cs).getD cs

/-- A number with a fraction or an exponent. -/
def fraction (cs : List Char) : Option (List Char) :=
  match cs with
  | '.' :: rest => (digits Char.isDigit rest).map (orNothing exponent)
  | _ =>
    match wholePart cs with
    | some ('.' :: rest) => some (orNothing exponent (orNothing (digits Char.isDigit) rest))
    | some rest => exponent rest
    | none => none

/-- A number that is whole, perhaps with the letter for large ones behind it. -/
def whole (cs : List Char) : Option (List Char) := do
  let rest ← longer (digitsWithBase cs) (digits Char.isDigit cs)
  match rest with
  | 'n' :: more => return more
  | _ => return rest

/-- A number. -/
def number : LexemeReader := fun cs =>
  longer (fraction cs) (whole cs)

/-! ## Texts -/

/-- One or more characters of a kind. -/
def run (fits : Char → Bool) : LexemeReader
  | c :: cs => if fits c then some (cs.dropWhile fits) else none
  | [] => none

/-- A character that stands for itself between the given quotes. -/
def isPlain (quote : Char) (c : Char) : Bool :=
  c ≠ quote && c ≠ '\\' && c ≠ '\r' && c ≠ '\n' && c ≠ '\x00'

/-- Behind at most as many octal digits. -/
def octalDigits : Nat → List Char → List Char
  | most + 1, c :: cs => if isOctalDigit c then octalDigits most cs else c :: cs
  | _, cs => cs

/-- A backslash with what it stands in front of. -/
def escape : LexemeReader
  | '\\' :: 'x' :: a :: b :: rest => if isHexDigit a && isHexDigit b then some rest else none
  | '\\' :: 'u' :: cs => characterCode cs
  | '\\' :: c :: cs =>
    if c = 'x' || c = '\x00' then none
    else if isOctalDigit c then some (octalDigits 2 cs)
    else if c = '\r' || c = '?' then
      match cs with
      | d :: rest => if d = '\n' || d = '\u2028' || d = '\u2029' then some rest else some cs
      | [] => some cs
    else some cs
  | _ => none

/-! ## Regular expressions -/

/-- A character that stands in no regular expression. -/
def endsPattern (c : Char) : Bool :=
  c = '\n' || c = '\x00'

/-- Behind the rest of a pair of brackets in a regular expression. -/
def bracketsRest : LexemeReader
  | [] => none
  | '\\' :: c :: cs => if endsPattern c then none else bracketsRest cs
  | c :: cs =>
    if c = ']' then some cs else if endsPattern c || c = '\\' then none else bracketsRest cs

/-- Behind one piece of a regular expression: a pair of brackets, a backslash with what it stands in
front of, or a character. -/
def patternPiece : LexemeReader
  | '\\' :: c :: cs => if endsPattern c then none else some cs
  | '[' :: cs => bracketsRest cs
  | c :: cs => if c = '/' || c = '\\' || endsPattern c then none else some cs
  | [] => none

/-- Behind the rest of the inside of a regular expression. Every piece takes some text, so as many
steps as the text has characters are enough. -/
def patternRest : Nat → List Char → List Char
  | 0, cs => cs
  | steps + 1, cs =>
    match patternPiece cs with
    | some rest => patternRest steps rest
    | none => cs

/-- The inside of a regular expression. -/
def pattern : LexemeReader := fun cs => do
  let rest ← patternPiece cs
  return patternRest rest.length rest

/-- The letters behind a regular expression. -/
def flags : LexemeReader :=
  run fun c => 'a' ≤ c && c ≤ 'z'

/-! ## Comments -/

/-- Behind the rest of a comment that has an end of its own. -/
def blockRest : LexemeReader
  | '*' :: '/' :: cs => some cs
  | c :: cs => if c = '\x00' then none else blockRest cs
  | [] => none

/-- A comment. -/
def comment : LexemeReader
  | '/' :: '/' :: cs => some (cs.dropWhile fun c => !isLineEnd c && c ≠ '\x00')
  | '/' :: '*' :: cs => blockRest cs
  | _ => none

/-- A first line that names the program to run a file with. -/
def interpreter : LexemeReader
  | '#' :: '!' :: cs => some (cs.dropWhile fun c => c ≠ '\n' && c ≠ '\x00')
  | _ => none

/-- A fixed text. -/
def fixed : List Char → LexemeReader
  | [], cs => some cs
  | t :: text, c :: cs => if t = c then fixed text cs else none
  | _ :: _, [] => none

end Lexeme

end TypedLayouts.TypeScript
