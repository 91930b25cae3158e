import TypedLayouts.TypeScript.Reading.Recovery
import TypedLayouts.TypeScript.Reading.Scanner

/-!
# Reading a text

A text is read token by token. A reading does with a token whatever its state says. Where that is
several things, it becomes several readings; where it is nothing, the reading waits until all others
have come as far, and then recovers from the mistake if it is still among the best.

In the end there is always a tree. What it costs says how much of the text could not be read.
-/

namespace TypedLayouts.TypeScript

namespace Parse

variable (g : Grammar) (source : Source)

/-- What a reading has done with a token. -/
structure Progress where
  /-- The reading is done with the token. -/
  isDone : Bool := false
  /-- Something was put together. -/
  hasReduced : Bool := false
  /-- The first reading that came out when something was put together last. -/
  last : Option Nat := none

/-- Do with a token what the given actions say, one after the other. -/
def perform (v : Nat) (token : Node) (symbol : Symbol) : List Action → Progress → ParseM Progress
  | [], progress => return progress
  | .shift :: _, progress => do
    let state := (← getStack).top v |>.state |>.bind (g.advance? · symbol)
    change (·.push v (some { token with isExtra := false }) state)
    return { progress with isDone := true }
  | .prolong :: rest, progress => perform v token symbol rest progress
  | .pass :: _, progress => do
    let state := (← getStack).top v |>.state
    change (·.push v (some { token with isExtra := true }) state)
    return { progress with isDone := true }
  | .reduce p :: rest, progress => do
    let new ← reduce g source v p
    perform v token symbol rest { progress with hasReduced := true, last := new <|> progress.last }
  | .accept :: _, progress => do
    accept g source v token
    return { progress with isDone := true }

/-- The token as a name, if it is a word that can be one in the given state. -/
def asName? (state : Option State) (token : Node) : Option Node := do
  let state ← state
  let n ← tokenOf? token
  if token.isWord && n ≠ Token.name.index && state.next.tokens.contains Token.name.index &&
      !Scanner.isReserved state.next n then
    some { token with label := .token Token.name.index }
  else none

/-- A reading goes on with a token until it has taken it, or waits. -/
def goOn (v : Nat) : Nat → Node → ParseM Unit
  | 0, _ => setStatus v .halted
  | steps + 1, token => do
    let state := (← getStack).top v |>.state
    let actions := (tokenOf? token).map (actionsIn g state)
    let symbol := (tokenOf? token).map Symbol.token
    let progress ← perform g source v token (symbol.getD default) (actions.getD []) {}
    if progress.isDone then return
    match progress.last, asName? state token with
    | some new, _ =>
      change (·.replace new v)
      goOn v steps token
    | none, name? =>
      if progress.hasReduced then setStatus v .halted
      else if let some name := name? then goOn v steps name
      else if state.isNone then recover g source v token
      else
        change (·.modifyHead v fun head => { head with status := .paused token })
        change fun s => s.modifyHead v fun head => { head with countBefore := (s.top v).count }

/-- More steps than a reading takes with one token. -/
def tokenSteps : Nat := 100000

/-- A reading takes its next token. -/
def advance (v : Nat) : ParseM Unit := do
  let token := Scanner.next g source (← getStack) v
  goOn g source v tokenSteps token

/-- A reading takes tokens until it has come further than the furthest one so far. The answer is how
far that is now. -/
def catchUp (v : Nat) : Nat → Option Nat → ParseM (Option Nat)
  | 0, furthest => return furthest
  | steps + 1, furthest => do
    let s ← getStack
    if s.size ≤ v || !(s.head v).status.isActive then return furthest
    advance g source v
    let s ← getStack
    let position := (s.top v).position
    if s.size ≤ v then return furthest
    let isAhead := match furthest with
      | some furthest => furthest < position || (0 < v && position = furthest)
      | none => true
    if isAhead then return some position
    catchUp v steps furthest

/-- All readings take tokens, in their order. -/
def catchUpAll : Nat → Nat → Option Nat → ParseM (Option Nat)
  | 0, _, furthest => return furthest
  | steps + 1, v, furthest => do
    if (← getStack).size ≤ v then return furthest
    let furthest ← catchUp g source v tokenSteps furthest
    catchUpAll steps (v + 1) furthest

/-- Let the first of the readings that wait recover, if there is none in front of it that goes on,
and drop the others that wait. The answer is what the recovered one costs. -/
def wake : Nat → Nat → Bool → Option Nat → ParseM (Option Nat)
  | 0, _, _, least => return least
  | left + 1, i, isAwake, least => do
    let run ← get
    match (run.stack.head i).status with
    | .paused token =>
      if !isAwake && run.accepted < mostHeads then
        let cost := run.stack.cost i
        setStatus i .active
        handle g source i token
        wake left (i + 1) true (some cost)
      else
        change (·.remove i)
        wake left i isAwake least
    | _ => wake left (i + 1) true least

/-- Put the readings in order, drop those that are worse, and let one recover if it has to. The
answer is the least cost of a reading that goes on. -/
def condense : ParseM (Option Nat) := do
  let least ← arrangeFrom (← getStack).size 0 none
  change fun s => { s with heads := s.heads.extract 0 mostHeads }
  wake g source (← getStack).size 0 false least

/-- Read on in rounds, until no reading is left that could still become the best one. -/
def rounds : Nat → Option Nat → ParseM Unit
  | 0, _ => return
  | n + 1, furthest => do
    let furthest ← catchUpAll g source tokenSteps 0 furthest
    let least ← condense g source
    let run ← get
    let isSettled := match run.finished, least with
      | some node, some least => node.price < least
      | some _, none => true
      | none, _ => false
    if isSettled || run.stack.size = 0 then return
    rounds n furthest

/-- More rounds than reading a text with the given number of characters takes. -/
def mostRounds (length : Nat) : Nat := 16 * (length + 16)

end Parse

/-- The tree of a text. -/
def Grammar.parse? (g : Grammar) (source : Source) : Option Node :=
  let run := Parse.rounds g source (Parse.mostRounds source.behind.size) none
  (run.run { stack := .ofState g.start }).2.finished

end TypedLayouts.TypeScript
