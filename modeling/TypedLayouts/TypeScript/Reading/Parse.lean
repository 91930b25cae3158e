import TypedLayouts.TypeScript.Reading.Stack

/-!
# Parses

A parse follows all readings of a text side by side. This module holds what a parse is, and what
happens to its readings apart from the text: how they are put together, compared and dropped.
-/

namespace TypedLayouts.TypeScript

/-- How far the readings of a text have come. -/
structure Parse where
  /-- The readings. -/
  stack : Stack
  /-- The best tree of those that have come to the end. -/
  finished : Option Node := none
  /-- How many have come to the end. -/
  accepted : Nat := 0
  deriving Inhabited

/-- A step of a parse. -/
abbrev ParseM := StateM Parse

namespace Parse

/-- The largest number of readings that are kept. -/
def mostHeads : Nat := 6

/-- How many more readings there may be for a moment. -/
def moreHeads : Nat := 4

/-- How much worse a reading may be than another one before it is dropped. -/
def patience : Nat := 1800

/-- The readings. -/
def getStack : ParseM Stack := do
  return (← get).stack

/-- Change the readings. -/
def change (f : Stack → Stack) : ParseM Unit :=
  modify fun run => { run with stack := f run.stack }

/-- Change the readings, with an answer. -/
def changeGet {α : Type} (f : Stack → Stack × α) : ParseM α :=
  modifyGet fun run =>
    let (s, answer) := f run.stack
    (answer, { run with stack := s })

/-- Say whether a reading goes on. -/
def setStatus (v : Nat) (status : Status) : ParseM Unit :=
  change (·.modifyHead v fun head => { head with status })

/-- Make the second of two readings a part of the first one, if that can be. -/
def merge (a b : Nat) : ParseM Bool := do
  match (← getStack).merge? a b with
  | some s => change fun _ => s; return true
  | none => return false

/-- Make a reading a part of the first one of some others for which that can be. -/
def mergeInto (v : Nat) : List Nat → ParseM Bool
  | [] => return false
  | other :: rest => do
    if ← merge other v then return true
    mergeInto v rest

/-- The second of two trees is better: it costs less, or is liked better, or comes earlier in the
order of trees. -/
def isBetter (old new : Node) : Bool :=
  if new.price ≠ old.price then new.price < old.price
  else if new.weight ≠ old.weight then old.weight < new.weight
  else 0 < old.price || old.order new = .gt

/-! ## Putting together -/

variable (g : Grammar) (source : Source)

/-- A way down from a reading as the parts of a group, with the nodes behind them that are no parts
of it. -/
def assemble (production group place : Nat) (way : List Node) : Node × List Node :=
  let (parts, extras) := Stack.splitExtras way
  (Node.ofChildren g source (.group group) (some production) parts place, extras)

/-- The best of several ways. -/
def bestWay (production group place : Nat) (ways : List (List Node)) : Option (Node × List Node) :=
  ways.foldl (fun best way =>
    let new := assemble g source production group place way
    match best with
    | some old => if isBetter old.1 new.1 then some new else best
    | none => some new) none

/-- The state behind a group. -/
def behindGroup (state : Option State) (group : Nat) : Option State :=
  state.bind (g.advance? · (.group group))

/-- Put the readings that came out of going down together, each with its node. There may be too
many of them. -/
def settle (v production : Nat) (limit : Nat) : List Stack.Popped → Nat → ParseM Unit
  | [], _ => return
  | popped :: rest, removed => do
    let head := popped.head - removed
    if limit < head then
      change (·.remove head)
      settle v production limit rest (removed + 1)
    else
      let top := (← getStack).top head
      let p := g.productions.getD production default
      match bestWay g source production p.group top.position popped.ways with
      | some (node, extras) =>
        let state := behindGroup g top.state p.group
        change (·.push head (some { node with weight := node.weight + p.weight }) state)
        for extra in extras do
          change (·.push head (some extra) state)
      | none => pure ()
      let merged ← mergeInto head ((List.range head).filter (· ≠ v))
      settle v production limit rest (if merged then removed + 1 else removed)

/-- Put the parts of a production together on top of a reading. The readings that come out are
behind all others; the answer is the first one, if there are any. -/
def reduce (v production : Nat) : ParseM (Option Nat) := do
  let before := (← getStack).size
  let popped ← changeGet (·.pop v (g.productions.getD production default).steps.size)
  let halted := ((← getStack).heads.filter (·.status.isHalted)).size
  settle g source v production (mostHeads + moreHeads + halted) popped 0
  return if before < (← getStack).size then some before else none

/-- A reading has come to the end: all of it becomes a tree, and the best tree is kept. -/
def accept (v : Nat) (token : Node) : ParseM Unit := do
  change (·.push v (some token) (some g.start))
  let popped ← changeGet (·.popAll v)
  for way in popped.flatMap (·.ways) do
    let (front, extras) := Stack.splitExtras way
    match front.getLast? with
    | some last =>
      let children := front.dropLast ++ last.children ++ extras
      let root := Node.ofChildren g source last.label none children last.start
      modify fun run => { run with
        accepted := run.accepted + 1
        finished := match run.finished with
          | some old => if isBetter old root then some root else some old
          | none => some root }
    | none => pure ()
  match popped with
  | first :: _ => change (·.remove first.head)
  | [] => pure ()
  setStatus v .halted

/-! ## Comparing readings -/

/-- How a reading stands. -/
structure Standing where
  /-- What its mistakes cost. -/
  cost : Nat
  /-- How many nodes speak for it since it gave up last. -/
  count : Nat
  /-- How much it is liked. -/
  weight : Int
  /-- It gave up, or cannot go on. -/
  gaveUp : Bool

/-- Which of two readings is better. -/
inductive Preference where
  /-- The first one, and the other one is dropped. -/
  | takeLeft
  /-- The first one. -/
  | preferLeft
  /-- Neither. -/
  | neither
  /-- The second one. -/
  | preferRight
  /-- The second one, and the first one is dropped. -/
  | takeRight

/-- How many nodes speak for a reading since it gave up last. -/
def countSince (v : Nat) : ParseM Nat :=
  changeGet fun s =>
    let (count, s) := s.countSince v
    (s, count)

/-- How a reading stands. -/
def standing (v : Nat) : ParseM Standing := do
  let s ← getStack
  let count ← countSince v
  let isPaused := (s.head v).status.isPaused
  return {
    cost := s.cost v + if isPaused then Price.skippedNode else 0
    count
    weight := (s.top v).weight
    gaveUp := isPaused || (s.top v).state.isNone }

/-- Which of two readings is better. One that goes on is better than one that gave up, unless it
cost more. The difference in costs weighs more, the more speaks for the cheaper one. -/
def compare (a b : Standing) : Preference :=
  if !a.gaveUp && b.gaveUp then if a.cost < b.cost then .takeLeft else .preferLeft
  else if a.gaveUp && !b.gaveUp then if b.cost < a.cost then .takeRight else .preferRight
  else if a.cost < b.cost then
    if patience < (b.cost - a.cost) * (1 + a.count) then .takeLeft else .preferLeft
  else if b.cost < a.cost then
    if patience < (a.cost - b.cost) * (1 + b.count) then .takeRight else .preferRight
  else if b.weight < a.weight then .preferLeft
  else if a.weight < b.weight then .preferRight
  else .neither

/-- Some of the given readings is better than a reading would be that stands as given. -/
def anyBetter (v : Nat) (own : Standing) (position : Nat) : List Nat → ParseM Bool
  | [] => return false
  | i :: rest => do
    let s ← getStack
    if i = v || !(s.head i).status.isActive || (s.top i).position < position then
      anyBetter v own position rest
    else
      match compare own (← standing i) with
      | .takeRight => return true
      | .preferRight =>
        if (← getStack).canMerge i v then return true
        anyBetter v own position rest
      | _ => anyBetter v own position rest

/-- There is something better than a reading that would go on at some cost. -/
def hasBetter (v cost : Nat) : ParseM Bool := do
  let run ← get
  if (run.finished.map fun node => Nat.ble node.price cost).getD false then return true
  let s := run.stack
  let count ← countSince v
  anyBetter v ⟨cost, count, (s.top v).weight, false⟩ (s.top v).position (List.range s.size)

/-! ## Dropping readings -/

/-- Compare a reading with those in front of it, from the last `distance` on. The worse one is
dropped, joined to the other one, or put behind it. The answer is the number of the last reading
that was looked at. -/
def arrange : Nat → Nat → ParseM Nat
  | 0, i => return i
  | distance + 1, i => do
    let j := i - (distance + 1)
    let a ← standing j
    let b ← standing i
    match compare a b with
    | .takeLeft =>
      change (·.remove i)
      return i - 1
    | .preferLeft | .neither =>
      if ← merge j i then return i - 1
      arrange distance i
    | .preferRight =>
      if ← merge j i then return i - 1
      change fun s => { s with heads := s.heads.swapIfInBounds i j }
      arrange distance i
    | .takeRight =>
      change (·.remove j)
      arrange distance (i - 1)

/-- The lesser of two costs, one of which may be unknown. -/
def cheaper (a : Option Nat) (b : Nat) : Option Nat :=
  some ((a.map (min · b)).getD b)

/-- Drop the readings that are over and put the others in order, from one on. Each step leaves fewer
of them, so as many steps as there are readings are enough. The answer is the least cost of a
reading that goes on. -/
def arrangeFrom : Nat → Nat → Option Nat → ParseM (Option Nat)
  | 0, _, least => return least
  | steps + 1, i, least => do
    let s ← getStack
    if s.size ≤ i then return least
    if (s.head i).status.isHalted then
      change (·.remove i)
      arrangeFrom steps i least
    else
      let now ← standing i
      let last ← arrange i i
      arrangeFrom steps (last + 1) (if now.gaveUp then least else cheaper least now.cost)

end Parse

end TypedLayouts.TypeScript
