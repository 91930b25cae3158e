import TypedLayouts.TypeScript.Reading.Boundary
import TypedLayouts.TypeScript.Reading.Lexer
import TypedLayouts.TypeScript.Reading.Stack

/-!
# The next token of a reading

Which token comes next depends on the state of a reading: only those are looked for that can come
next there. When none of them fits, or the reading gave up before, any token will do. Text that is
none at all becomes a token of its own, up to where some token fits again.
-/

namespace TypedLayouts.TypeScript

namespace Scanner

/-- Every word counts as itself in a state where it can come next, or where it is not given as a
name. -/
def isReserved (next : Follow) (word : Nat) : Bool :=
  next.tokens.contains Token.name.index && !next.anyWord && Lexer.reservedWords.contains word

/-- The token of a name, which may be a word with a meaning of its own where `counts` says so. -/
def ofName (source : Source) (counts : Nat → Bool) (node : Node) : Node :=
  match Lexer.words[String.ofList (source.between node.start node.stop)]? with
  | some word =>
    { node with isWord := true, label := if counts word then .token word else node.label }
  | none => node

/-- The token that fits the text at a place best, of those that are looked for. At the end of the
text it is the end of the file. -/
def fitting? (source : Source) (sought : NumberSet) (counts : Nat → Bool) (place : Nat) :
    Option Node :=
  let cs := source.tail place
  let stop (behind : Nat) : Nat := place + cs.length - behind
  match Lexer.best? sought cs with
  | some fit =>
    let node := Node.ofToken fit.search.token place (stop fit.start) (stop fit.stop)
    some (if fit.search.token = Token.name.index then ofName source counts node else node)
  | none =>
    if cs.all Lexeme.isBlank then
      some (Node.ofToken Token.fileEnd.index place (stop 0) (stop 0))
    else none

/-- Any token at a place. -/
def any? (source : Source) (place : Nat) : Option Node :=
  fitting? source Lexer.soughtAnywhere (fun _ => true) place

/-- The number of characters up to where some token fits. -/
def unreadable (source : Source) (place : Nat) : List Char → Nat
  | [] => 0
  | _ :: cs =>
    1 + if (any? source (place + 1)).isSome then 0 else unreadable source (place + 1) cs

/-- The token at a place where nothing is known about what comes next. -/
def anywhere (source : Source) (place : Nat) : Node :=
  match any? source place with
  | some node => node
  | none =>
    let cs := (source.tail place).dropWhile Lexeme.isBlank
    let start := place + ((source.tail place).length - cs.length)
    .ofUnreadable place start (start + unreadable source start cs)

/-- A reading has come further since it gave up last, beginning with the given place. -/
def hasAdvancedFrom (s : Stack) (countBefore : Nat) : Nat → Nat → Bool
  | 0, _ => false
  | levels + 1, n =>
    let here := s.place n
    match here.links with
    | ⟨below, some node⟩ :: _ =>
      if node.before < node.stop then true
      else if countBefore < here.count && node.price = 0 then
        hasAdvancedFrom s countBefore levels below
      else false
    | _ => false

/-- A reading has come further since it gave up last, so that a token without text may come. -/
def hasAdvanced (s : Stack) (v : Nat) : Bool :=
  (s.top v).cost = 0 ||
    hasAdvancedFrom s (s.head v).countBefore s.places.size (s.head v).place

/-- A token without a text of its own, if it comes next. One that takes no text has to lead to
another state. -/
def boundary? (g : Grammar) (source : Source) (s : Stack) (v : Nat) (state : State) :
    Option Node := do
  let place := (s.top v).position
  let found ← Boundary.find? (.ofTokens state.next.tokens) (source.tail place)
  let token := found.token.index
  let start := place + found.skipped
  let leadsOn := 0 < found.skipped + found.length ||
    (hasAdvanced s v && g.behind? state (.token token) != some state)
  if leadsOn then some (.ofToken token place start (start + found.length)) else none

/-- The next token of a reading. -/
def next (g : Grammar) (source : Source) (s : Stack) (v : Nat) : Node :=
  let top := s.top v
  let known := do
    let state ← top.state
    let counts (word : Nat) : Bool := state.next.tokens.contains word || isReserved state.next word
    boundary? g source s v state <|>
      fitting? source (Lexer.sought state.next.tokens) counts top.position
  known.getD (anywhere source top.position)

end Scanner

end TypedLayouts.TypeScript
