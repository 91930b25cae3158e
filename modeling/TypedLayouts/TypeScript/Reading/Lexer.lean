import Std.Data.HashMap
import TypedLayouts.TypeScript.Language.Grammar
import TypedLayouts.TypeScript.Reading.Lexeme

/-!
# Choosing a token

Several tokens may fit the text at a place. The one with the longest text is taken. What is more
important goes first, though: the inside of a string or of a regular expression takes all it can,
and a slash right behind a regular expression ends it. Of two that are equally long, a fixed text is
taken, and then the one that comes first in the vocabulary.

Blanks are skipped in front of a token, unless it has to stand right behind the one before.
-/

namespace TypedLayouts.TypeScript

namespace Lexer

/-- How a token is found. -/
structure Search where
  /-- The token. -/
  token : Nat
  /-- Its text. -/
  reader : LexemeReader
  /-- No blanks stand in front of it. -/
  isImmediate : Bool
  /-- How important it is. -/
  importance : Int
  /-- How exact its text is: fixed texts are more exact than others. -/
  exactness : Nat

/-- How a token is found, if that can be told from its text. -/
def search? (number : Nat) : Token → Option Search
  | .text t => some ⟨number, Lexeme.fixed t.toList, false, 0, 2⟩
  | .name => some ⟨number, Lexeme.name, false, 0, 0⟩
  | .privateName => some ⟨number, Lexeme.privateName, false, 0, 0⟩
  | .number => some ⟨number, Lexeme.number, false, 0, 0⟩
  | .doubleQuotedText => some ⟨number, Lexeme.run (Lexeme.isPlain '"'), true, 1, 1⟩
  | .singleQuotedText => some ⟨number, Lexeme.run (Lexeme.isPlain '\''), true, 1, 1⟩
  | .escape => some ⟨number, Lexeme.escape, true, 0, 1⟩
  | .pattern => some ⟨number, Lexeme.pattern, true, -1, 1⟩
  | .patternEnd => some ⟨number, Lexeme.fixed ['/'], true, 1, 3⟩
  | .flags => some ⟨number, Lexeme.flags, true, 0, 1⟩
  | .comment => some ⟨number, Lexeme.comment, false, 0, 0⟩
  | .interpreter => some ⟨number, Lexeme.interpreter, false, 0, 0⟩
  | _ => none

/-- How each token is found. Words are found as names. -/
def searches : List Search :=
  Token.vocabulary.zipIdx.filterMap fun (token, n) =>
    if token.isWord then none else search? n token

/-- The tokens that are words, by their texts. -/
def words : Std.HashMap String Nat :=
  Std.HashMap.ofList (Token.vocabulary.zipIdx.filterMap fun (token, n) =>
    match token with
    | .text t => if token.isWord then some (t, n) else none
    | _ => none)

/-- All words. -/
def allWords : NumberSet :=
  .ofList (words.toList.map (·.2))

/-- The words that are not given as names. -/
def reservedWords : NumberSet :=
  .ofList (Token.reserved.filterMap (words[·]?))

/-- The tokens to look for, when the given ones can come next: a name for any word, and comments
always. -/
def sought (next : NumberSet) : NumberSet :=
  let withName :=
    if next.bits &&& allWords.bits = 0 then next else next.union (.single Token.name.index)
  withName.union (.single Token.comment.index)

/-- What is not looked for where nothing is known about what comes next: what fits nearly all texts,
and a mark that is hardly ever meant. -/
def leftOut : List Token :=
  [.doubleQuotedText, .singleQuotedText, .pattern, .flags, "?:"]

/-- The tokens to look for where nothing is known about what comes next. -/
def soughtAnywhere : NumberSet :=
  .ofList ((searches.map (·.token)).filter (· ∉ leftOut.map Token.index))

/-- A token that fits. -/
structure Fit where
  /-- How it was found. -/
  search : Search
  /-- The number of characters from its first one on. -/
  start : Nat
  /-- The number of characters behind it. -/
  stop : Nat

/-- One fit is taken rather than another one that was found before. -/
def isBetter (new old : Fit) : Bool :=
  let n := new.search
  let o := old.search
  if n.importance ≠ o.importance && (n.isImmediate || o.isImmediate) then
    o.importance < n.importance
  else if new.stop ≠ old.stop then new.stop < old.stop
  else if n.importance ≠ o.importance then o.importance < n.importance
  else o.exactness < n.exactness

/-- The token that fits a text best, of those that are looked for. -/
def best? (tokens : NumberSet) (cs : List Char) : Option Fit :=
  let behindBlanks := cs.dropWhile Lexeme.isBlank
  searches.foldl (fun best search =>
    if tokens.contains search.token then
      let front := if search.isImmediate then cs else behindBlanks
      match search.reader front with
      | some rest =>
        let new : Fit := ⟨search, front.length, rest.length⟩
        match best with
        | some old => if isBetter new old then some new else best
        | none => some new
      | none => best
    else best) none

end Lexer

end TypedLayouts.TypeScript
