import TypedLayouts.TypeScript.Language.Grammar
import TypedLayouts.TypeScript.Language.Precedence

/-!
# The automaton of a grammar

While a text is read, a *state* says which productions are being read and how far they are: its
items. Together they say which tokens can come next, and what to do with one: go on with it, or put
the parts of a production together that has been read to its end.

The states of a language are many and few of them are ever met, so that there is no table of them. A
state holds the items that were begun before; those that begin in it follow from the grammar.

Where several things can be done with a token, precedence decides. If it does not, all of them are
done side by side.
-/

namespace TypedLayouts.TypeScript

/-- A production that is being read. -/
structure Item where
  /-- The production. -/
  production : Nat
  /-- How many of its parts have been read. -/
  read : Nat
  /-- What can follow the production. -/
  follow : Follow
  deriving DecidableEq, Hashable, Repr, Inhabited

/-- What is being read. -/
structure State where
  /-- The productions that were begun before, those with the fewest parts read first. -/
  items : Array Item
  /-- A number that tells most states apart. -/
  mark : UInt64
  /-- The groups that come next in some item, with what follows them. -/
  awaited : List (Nat × Follow)
  /-- The tokens that can come next. -/
  next : Follow
  deriving Repr, Inhabited

/-- States are the same if their items are. -/
instance : BEq State := ⟨fun a b => a.mark == b.mark && a.items == b.items⟩

/-- What can be done with a token. -/
inductive Action where
  /-- Go on with it. -/
  | shift
  /-- It could go on with a series, but the series is put together first. -/
  | prolong
  /-- Keep it, for it may stand anywhere. -/
  | pass
  /-- Put the parts of a production together. -/
  | reduce (production : Nat)
  /-- The file has been read. -/
  | accept
  deriving DecidableEq, Repr

namespace Grammar

variable (g : Grammar)

/-- The next part of an item. -/
def nextStep? (item : Item) : Option Step :=
  g.step? item.production item.read

/-- The tokens that the next part of an item can begin with. -/
def nextTokens (item : Item) : NumberSet :=
  match g.nextStep? item with
  | some step => (firstOfStep g.first step).tokens
  | none => .empty

/-- What follows the next part of an item. -/
def followNext (item : Item) : Follow :=
  match g.step? item.production (item.read + 1) with
  | some step => firstOfStep g.first step
  | none => item.follow

/-- Add a group that comes next to those that are known. -/
def addAwaited (group : Nat) (follow : Follow) : List (Nat × Follow) → List (Nat × Follow)
  | [] => [(group, follow)]
  | (other, known) :: rest =>
    if other = group then (other, known.union follow) :: rest
    else (other, known) :: addAwaited group follow rest

/-- The groups that come next in some items, with what follows them. -/
def awaitedIn (items : Array Item) : List (Nat × Follow) :=
  items.foldl (fun awaited item =>
    match (g.nextStep? item).map Step.symbol with
    | some (.group n) => addAwaited n (g.followNext item) awaited
    | _ => awaited) []

/-- What follows a group that can begin, when the given groups come next. -/
def followOf? (awaited : List (Nat × Follow)) (group : Nat) : Option Follow :=
  awaited.foldl (fun found (outer, follow) =>
    match g.beginning? outer group with
    | some b =>
      let follow := b.followWith follow
      some (match found with
        | some known => known.union follow
        | none => follow)
    | none => found) none

/-- The productions without parts that can be put together, with what follows them. -/
def emptyItems (awaited : List (Nat × Follow)) : List Item :=
  g.empty.filterMap fun p => (g.followOf? awaited (g.groupOf p)).map (⟨p, 0, ·⟩)

/-- The state with the given items. -/
def stateOf (items : Array Item) : State :=
  let awaited := g.awaitedIn items
  let next := items.foldl (fun next item =>
    next.union (match g.nextStep? item with
      | some step => firstOfStep g.first step
      | none => item.follow)) {}
  let next := (g.emptyItems awaited).foldl (fun next item => next.union item.follow) next
  ⟨items, hash items, awaited, next⟩

/-- The state before anything has been read. -/
def start : State :=
  g.stateOf #[⟨0, 0, .ofToken Token.fileEnd.index false⟩]

/-- The items that begin with a part. -/
def begun (awaited : List (Nat × Follow)) (symbol : Symbol) : List Item :=
  (g.openedBySymbol symbol).flatMap fun (group, productions) =>
    match g.followOf? awaited group with
    | some follow => productions.map (⟨·, 1, follow⟩)
    | none => []

/-- The items of a state in which a part comes next, behind that part. -/
def continued (items : Array Item) (symbol : Symbol) : List Item :=
  items.toList.filterMap fun item =>
    match g.nextStep? item with
    | some step => if step.symbol = symbol then some { item with read := item.read + 1 } else none
    | none => none

/-- The state behind a part. -/
def advance? (s : State) (symbol : Symbol) : Option State :=
  match g.begun s.awaited symbol ++ g.continued s.items symbol with
  | [] => none
  | items => some (g.stateOf items.toArray)

/-! ## What to do with a token -/

/-- How tightly the last part that an item has read binds, and to which side. -/
def lastRead? (item : Item) : Option Step :=
  if item.read = 0 then none else g.step? item.production (item.read - 1)

/-- The construct of a group. -/
def constructs (group : Nat) : List Construct :=
  if group = 0 then [] else Construct.all[group - 1]?.toList

/-- The productions that can be put together in front of a token, and how tightly they bind. -/
structure Completion where
  /-- The productions, none of which binds tighter than another. -/
  productions : List Nat := []
  /-- The rank. -/
  rank : Option Rank := none
  /-- The groups. -/
  groups : List Nat := []
  /-- There is one that goes first on the left. -/
  left : Bool := false
  /-- There is one that goes first on the right. -/
  right : Bool := false
  /-- There is one without a side. -/
  neither : Bool := false
  deriving Inhabited

namespace Completion

/-- What is compared. -/
def strength (c : Completion) : Precedence.Strength :=
  ⟨c.rank, c.groups.flatMap constructs⟩

/-- One production. -/
def add (c : Completion) (production group : Nat) (last : Option Step) : Completion :=
  { productions := c.productions ++ [production]
    rank := last.bind (·.rank)
    groups := if group ∈ c.groups then c.groups else c.groups ++ [group]
    left := c.left || last.bind (·.side) = some .left
    right := c.right || last.bind (·.side) = some .right
    neither := c.neither || last.bind (·.side) = none }

end Completion

/-- Add an item that has been read to its end. Only what binds tightest is kept. -/
def complete (c : Completion) (item : Item) : Completion :=
  let group := g.groupOf item.production
  let last := g.lastRead? item
  if c.productions.isEmpty then c.add item.production group last
  else
    match Precedence.compare ⟨last.bind (·.rank), constructs group⟩ c.strength with
    | .gt => Completion.add {} item.production group last
    | .eq => c.add item.production group last
    | .lt => c

/-- What can be put together in front of a token. -/
def completion (s : State) (token : Nat) : Completion :=
  let ends (item : Item) : Bool :=
    (g.nextStep? item).isNone && item.follow.tokens.contains token
  let begun := (g.emptyItems s.awaited).filter (·.follow.tokens.contains token)
  begun.foldl g.complete ((s.items.filter ends).foldl g.complete {})

/-- The items for which a token comes next, of those that were begun before. -/
def waiting (s : State) (token : Nat) : List Item :=
  s.items.toList.filter fun item => 0 < item.read && (g.nextTokens item).contains token

/-- To put something together as an action. -/
def reduction (production : Nat) : Action :=
  if g.groupOf production = 0 then .accept else .reduce production

/-- What to do with a token that goes on with some items and comes behind others that have been read
to their end. If all of them are about one series, the series is put together. Otherwise the items
that bind tighter win, and then the side decides. -/
def decide (s : State) (token : Nat) (c : Completion) : List Action :=
  let reductions := c.productions.map g.reduction
  let waiting := g.waiting s token
  let groups := waiting.map (g.groupOf ·.production) ++
    (s.items.toList.filter fun item =>
      (g.nextStep? item).isNone && item.follow.tokens.contains token).map (g.groupOf ·.production)
  match groups with
  | group :: others =>
    if isSeries group && others.all (· = group) then reductions ++ [.prolong]
    else
      let orders := waiting.map fun item =>
        Precedence.compare
          ⟨(g.lastRead? item).bind (·.rank), constructs (g.groupOf item.production)⟩ c.strength
      match orders.contains .gt, orders.contains .lt with
      | true, false => [.shift]
      | false, true => reductions
      | true, true => reductions ++ [.shift]
      | false, false =>
        match c.left, c.neither, c.right with
        | true, false, false => reductions
        | false, false, true => [.shift]
        | _, _, _ => reductions ++ [.shift]
  | [] => reductions ++ [.shift]

/-- A token goes on with some item of a state. -/
def goesOn (s : State) (token : Nat) : Bool :=
  s.items.any fun item => (g.nextTokens item).contains token

/-- What can be done with a token. -/
def actions (s : State) (token : Nat) : List Action :=
  if !s.next.tokens.contains token then
    if Token.comments.contains token then [.pass] else []
  else
    let c := g.completion s token
    if !g.goesOn s token then c.productions.map g.reduction
    else if c.productions.isEmpty then [.shift]
    else g.decide s token c

/-- The state behind a token or group, when it is taken as the actions say: what may stand anywhere
changes nothing. -/
def behind? (s : State) (symbol : Symbol) : Option State :=
  match symbol with
  | .group _ => g.advance? s symbol
  | .token n =>
    match (g.actions s n).getLast? with
    | some .pass => some s
    | some .shift => g.advance? s symbol
    | some .prolong => g.advance? s symbol
    | _ => none

end Grammar

end TypedLayouts.TypeScript
