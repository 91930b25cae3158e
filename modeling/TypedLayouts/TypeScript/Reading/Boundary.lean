import TypedLayouts.TypeScript.Language.Grammar
import TypedLayouts.TypeScript.Reading.Lexeme

/-!
# Boundaries

Some tokens are not found by their text alone. A line that ends may end a statement; whether it does
depends on what comes behind it. A question mark is that of a choice only if no other mark that
begins with it fits. The plain characters of a template go on until something else begins. These
tokens are looked for first, where they can come next at all.

A NUL character counts as the end of the text here.
-/

namespace TypedLayouts.TypeScript

namespace Boundary

/-- The tokens that are looked for, of those that can come next. -/
structure Wanted where
  /-- The end of a statement. -/
  lineEnd : Bool
  /-- The end of a function without a body. -/
  signatureEnd : Bool
  /-- Plain characters of a template. -/
  templateText : Bool
  /-- The question mark of a choice. -/
  choiceMark : Bool
  /-- A comment as markup has them. -/
  markupComment : Bool
  /-- An expression may go on, as the mark for "or" shows. -/
  operator : Bool
  /-- Text with escapes is being read. -/
  escape : Bool
  /-- A regular expression is being read. -/
  pattern : Bool

/-- What is looked for when the given tokens can come next. A comment may come anywhere. -/
def Wanted.ofTokens (tokens : NumberSet) : Wanted :=
  let has (t : Token) : Bool := tokens.contains t.index
  { lineEnd := has .lineEnd, signatureEnd := has .signatureEnd, templateText := has .templateText
    choiceMark := has .choiceMark, markupComment := true, operator := has "||"
    escape := has .escape, pattern := has .pattern }

/-- A token that was found: how many characters stand in front of it, and how long it is. -/
structure Found where
  /-- The token. -/
  token : Token
  /-- The number of characters that are skipped. -/
  skipped : Nat
  /-- The number of its characters. -/
  length : Nat

/-- A character that is skipped. -/
def isSpace (c : Char) : Bool :=
  c = ' ' || ('\t' ≤ c && c ≤ '\r')

/-- An ASCII letter. -/
def isLetter (c : Char) : Bool :=
  c.isAlpha

/-- The character ends the line of a comment, or the text. -/
def endsComment (c : Char) : Bool :=
  c = '\n' || c = '\u2028' || c = '\u2029' || c = '\x00'

/-- The number of characters of a template up to its end, to a value in it, or to an escape. There
is no answer when the text ends first. -/
def templateLength : List Char → Option Nat
  | [] => none
  | '$' :: '\x7b' :: _ => some 0
  | c :: cs =>
    if c = '\x00' then none
    else if c = '\x60' || c = '\\' then some 0
    else (templateLength cs).map (· + 1)

/-- The plain characters of a template. -/
def templateText (cs : List Char) : Option Found := do
  let length ← templateLength cs
  if length = 0 then none else return ⟨.templateText, 0, length⟩

/-- Behind the rest of a comment that has an end of its own, or the end of the text. -/
def blockRest : List Char → List Char
  | '*' :: '/' :: cs => cs
  | c :: cs => if c = '\x00' then c :: cs else blockRest cs
  | [] => []

/-- What comes behind blanks and comments. -/
structure Gap where
  /-- The text there. -/
  rest : List Char
  /-- A comment that ends with its line was skipped. -/
  sawLineComment : Bool
  /-- There was a slash that opens no comment, and the text is the one behind it. -/
  brokeOff : Bool

/-- Skip blanks and comments. Every step skips a character, so as many steps as the text has
characters are enough. -/
def gap : Nat → Bool → List Char → Gap
  | 0, saw, cs => ⟨cs, saw, false⟩
  | steps + 1, saw, cs =>
    match cs with
    | '/' :: '/' :: more => gap steps true (more.dropWhile (!endsComment ·))
    | '/' :: '*' :: more => gap steps saw (blockRest more)
    | '/' :: more => ⟨more, saw, true⟩
    | c :: more => if isSpace c then gap steps saw more else ⟨cs, saw, false⟩
    | [] => ⟨[], saw, false⟩

/-- Whether a statement can end in front of some text, and where the search for that came to. -/
structure Verdict where
  /-- It can. -/
  ends : Bool
  /-- The text that is left. -/
  rest : List Char
  /-- A comment that ends with its line was skipped. -/
  sawLineComment : Bool

/-- Whether a word goes on with the given letters, and the text behind them. -/
def wordGoesOn : List Char → List Char → Bool × List Char
  | [], cs => (true, cs)
  | _ :: _, [] => (false, [])
  | w :: word, c :: cs => if c = w then wordGoesOn word cs else (false, c :: cs)

/-- The text begins with a letter. -/
def beginsWithLetter : List Char → Bool
  | c :: _ => isLetter c
  | [] => false

/-- Whether a statement can end at the end of a line in front of the given text. It cannot where the
text goes on with an operator, a mark that needs something in front of it, or the words `in` and
`instanceof`. -/
def endsBefore (wanted : Wanted) (saw : Bool) (cs : List Char) : Verdict :=
  let stays : Verdict := ⟨false, cs, saw⟩
  let twice (mark : Char) (rest : List Char) : Verdict :=
    ⟨rest.head? = some mark, rest, saw⟩
  match cs with
  | [] => ⟨true, cs, saw⟩
  | '\x7b' :: _ => ⟨!wanted.signatureEnd, cs, saw⟩
  | '(' :: _ | '[' :: _ => ⟨!wanted.operator, cs, saw⟩
  | '+' :: rest => twice '+' rest
  | '-' :: rest => twice '-' rest
  | '!' :: rest => ⟨rest.head? ≠ some '=', rest, saw⟩
  | 'i' :: 'n' :: rest =>
    if !beginsWithLetter rest then ⟨false, rest, saw⟩
    else
      match wordGoesOn "stanceof".toList rest with
      | (true, rest) => ⟨beginsWithLetter rest, rest, saw⟩
      | (false, rest) => ⟨true, rest, saw⟩
  | c :: _ =>
    if "\x60,.;*%><=?^|&/:".toList.contains c then stays else ⟨true, cs, saw⟩

/-- Whether a statement can end in front of a closing brace, with the text behind it. A brace with a
colon behind it closes a pattern in an expression, so that a statement ends there only where an
expression may. -/
def endsAtBrace (wanted : Wanted) (rest : List Char) : Verdict :=
  let rest := rest.dropWhile isSpace
  ⟨rest.head? ≠ some ':' || wanted.operator, rest, false⟩

/-- Whether a statement can end here. -/
def verdict (wanted : Wanted) : List Char → Verdict
  | [] => ⟨true, [], false⟩
  | c :: cs =>
    if c = '\x00' then ⟨true, c :: cs, false⟩
    else if c = '\x7d' then endsAtBrace wanted cs
    else if c = '\n' then
      let gap := gap (cs.length + 1) false cs
      if gap.brokeOff then ⟨false, gap.rest, gap.sawLineComment⟩
      else endsBefore wanted gap.sawLineComment gap.rest
    else if isSpace c then verdict wanted cs
    else ⟨false, c :: cs, false⟩

/-- The question mark of a choice, in the last part of a text. A mark that could stand behind an
optional parameter is none, nor is one that begins another mark. -/
def choiceMark (all cs : List Char) : Option Found :=
  match cs.dropWhile isSpace with
  | '?' :: rest =>
    let found : Found := ⟨.choiceMark, all.length - (rest.length + 1), 1⟩
    if rest.head? = some '?' then none
    else
      match rest.dropWhile isSpace with
      | '.' :: d :: _ => if d.isDigit then some found else none
      | c :: _ => if c = ':' || c = ')' || c = ',' || c = '.' then none else some found
      | [] => some found
  | _ => none

/-- A comment as markup has them: it goes to the end of the line. -/
def markupComment (cs : List Char) : Option Found :=
  let start := cs.dropWhile fun c => isSpace c || c = '\u2028' || c = '\u2029'
  let opens := (Lexeme.fixed "<!--".toList start).isSome || (Lexeme.fixed "-->".toList start).isSome
  if opens then
    some ⟨.markupComment, cs.length - start.length, (start.takeWhile (!endsComment ·)).length⟩
  else none

/-- The token without a text of its own that comes next. -/
def find? (wanted : Wanted) (cs : List Char) : Option Found :=
  if wanted.templateText then
    if wanted.lineEnd then none else templateText cs
  else if wanted.lineEnd || wanted.signatureEnd then
    let v := verdict wanted cs
    if v.ends then some ⟨.lineEnd, 0, 0⟩
    else if !v.sawLineComment && wanted.choiceMark && v.rest.head? = some '?' then
      choiceMark cs v.rest
    else none
  else if wanted.choiceMark then choiceMark cs cs
  else if wanted.markupComment && !wanted.operator && !wanted.escape && !wanted.pattern then
    markupComment cs
  else none

end Boundary

end TypedLayouts.TypeScript
