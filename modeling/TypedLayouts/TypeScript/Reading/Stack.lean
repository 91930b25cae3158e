import TypedLayouts.TypeScript.Language.Automaton
import TypedLayouts.TypeScript.Reading.Node

/-!
# Stacks

Several readings of a text are followed side by side. Each has a stack: the states that it went
through, with the nodes between them. What the stacks have in common is kept once: a stack is a path
through *places*, each of which has links to places below it, and readings that come to the same
state at the same position become one reading again, whose place has links to both.

The readings are the *heads* of the stack. Their order matters: the first one is the best so far.
-/

namespace TypedLayouts.TypeScript

/-- A step down in the stack, with the node that lies there. There is none where a reading gave up.
-/
structure Link where
  /-- The place below. -/
  place : Nat
  /-- The node. -/
  node : Option Node
  deriving Inhabited

/-- A place in the stack. -/
structure Place where
  /-- The state; there is none where a reading gave up. -/
  state : Option State
  /-- The steps down. -/
  links : List Link
  /-- Where in the text it is. -/
  position : Nat
  /-- What the mistakes up to here cost. -/
  cost : Nat
  /-- How much the nodes up to here are liked. -/
  weight : Int
  /-- How many nodes up to here speak for the reading. -/
  count : Nat
  deriving Inhabited

/-- Whether a reading goes on. -/
inductive Status where
  /-- It goes on. -/
  | active
  /-- It cannot go on with the given token. -/
  | paused (token : Node)
  /-- It is over. -/
  | halted
  deriving Inhabited

namespace Status

/-- It goes on. -/
def isActive : Status → Bool
  | active => true
  | _ => false

/-- It waits. -/
def isPaused : Status → Bool
  | paused _ => true
  | _ => false

/-- It is over. -/
def isHalted : Status → Bool
  | halted => true
  | _ => false

end Status

/-- A state that a reading came through before it gave up. -/
structure Waypoint where
  /-- Where in the text it was. -/
  position : Nat
  /-- How many nodes lie above it. -/
  depth : Nat
  /-- The state. -/
  state : Option State
  deriving Inhabited

/-- A reading. -/
structure Head where
  /-- The place it has come to. -/
  place : Nat
  /-- Whether it goes on. -/
  status : Status := .active
  /-- How many nodes spoke for it when it gave up last. -/
  countBefore : Nat := 0
  /-- The states that it came through before it gave up. -/
  waypoints : Option (List Waypoint) := none
  deriving Inhabited

/-- The readings of a text. -/
structure Stack where
  /-- All places. -/
  places : Array Place
  /-- The readings. -/
  heads : Array Head
  deriving Inhabited

namespace Stack

/-- The place with a number. -/
def place (s : Stack) (n : Nat) : Place :=
  s.places.getD n default

/-- The reading with a number. -/
def head (s : Stack) (v : Nat) : Head :=
  s.heads.getD v default

/-- The place that a reading has come to. -/
def top (s : Stack) (v : Nat) : Place :=
  s.place (s.head v).place

/-- The number of readings. -/
def size (s : Stack) : Nat :=
  s.heads.size

/-- Change a reading. -/
def modifyHead (s : Stack) (v : Nat) (f : Head → Head) : Stack :=
  { s with heads := s.heads.modify v f }

/-- Drop a reading. -/
def remove (s : Stack) (v : Nat) : Stack :=
  { s with heads := s.heads.eraseIdxIfInBounds v }

/-- A new reading at some place, taken over from another one. -/
def addHead (s : Stack) (v place : Nat) : Stack :=
  { s with heads := s.heads.push { place, countBefore := (s.head v).countBefore } }

/-- The stack with one reading, in the given state. -/
def ofState (state : State) : Stack where
  places := #[⟨some state, [], 0, 0, 0, 0⟩]
  heads := #[{ place := 0 }]

/-- Put a node on top of a reading, or note that it gives up. -/
def push (s : Stack) (v : Nat) (node : Option Node) (state : Option State) : Stack :=
  let below := (s.head v).place
  let top := s.place below
  let links := [⟨below, node⟩]
  let new : Place :=
    match node with
    | some node =>
      { state, links, position := top.position + (node.stop - node.before)
        cost := top.cost + node.price, weight := top.weight + node.weight
        count := top.count + node.count }
    | none => { top with state, links }
  let s := { s with places := s.places.push new }
  s.modifyHead v fun head =>
    { head with
      place := s.places.size - 1
      countBefore := if node.isNone then new.count else head.countBefore }

/-- Put one reading in place of another one, which keeps what was noted about it if the first one
has no notes. -/
def replace (s : Stack) (new old : Nat) : Stack :=
  if new = old then s
  else
    let head := s.head new
    let waypoints := head.waypoints <|> (s.head old).waypoints
    { s with heads := (s.heads.setIfInBounds old { head with waypoints }).eraseIdxIfInBounds new }

/-! ## Joining readings -/

/-- Two nodes are as good as one another: both are damaged, or they cover the same text in the same
way. -/
def areAlike : Option Node → Option Node → Bool
  | some a, some b =>
    a.label = b.label &&
      ((0 < a.price && 0 < b.price) ||
        (a.start - a.before = b.start - b.before && a.stop - a.start = b.stop - b.start &&
          a.children.length = b.children.length && a.isExtra = b.isExtra))
  | none, none => true
  | _, _ => false

/-- Two places could be one. -/
def couldJoin (a b : Place) : Bool :=
  a.position = b.position && a.cost = b.cost && a.state == b.state

/-- The largest number of links of a place. -/
def mostLinks : Nat := 8

/-- The weight of a node, or nothing. -/
def weightOf (node : Option Node) : Int :=
  (node.map (·.weight)).getD 0

/-- What to do with a link that a place gets. -/
inductive Joining where
  /-- It is there already. -/
  | known
  /-- The given node takes the place of the one on that link. -/
  | exchange (link : Nat)
  /-- Its links go to the place below that link. -/
  | below (link : Nat)
  /-- It is new. -/
  | fresh

/-- What to do with a new link, beginning with the given number of a link. -/
def joining (s : Stack) (link : Link) : Nat → List Link → Joining
  | _, [] => .fresh
  | n, old :: rest =>
    if areAlike old.node link.node then
      if old.place = link.place then
        if old.node.isSome && weightOf old.node < weightOf link.node then .exchange n else .known
      else if couldJoin (s.place old.place) (s.place link.place) then .below n
      else joining s link (n + 1) rest
    else joining s link (n + 1) rest

/-- Give a place one more link. Links go down, so as many levels as there are places are enough. -/
def addLink : Nat → Stack → Nat → Link → Stack
  | 0, s, _, _ => s
  | levels + 1, s, n, link =>
    let here := s.place n
    let below := s.place link.place
    let weight := below.weight + weightOf link.node
    let put (s : Stack) (place : Place) : Stack :=
      { s with places := s.places.setIfInBounds n place }
    if link.place = n then s
    else
      match s.joining link 0 here.links with
      | .known => s
      | .exchange k =>
        put s { here with links := here.links.set k link, weight := weight }
      | .below k =>
        let target := (here.links.getD k default).place
        let s := below.links.foldl (fun s l => addLink levels s target l) s
        let here := s.place n
        put s { here with weight := max here.weight weight }
      | .fresh =>
        if mostLinks ≤ here.links.length then s
        else
          let count := below.count + (link.node.map (·.count)).getD 0
          put s { here with
            links := here.links ++ [link], count := max here.count count
            weight := max here.weight weight }

/-- Two readings could be one. -/
def canMerge (s : Stack) (a b : Nat) : Bool :=
  (s.head a).status.isActive && (s.head b).status.isActive && couldJoin (s.top a) (s.top b)

/-- Make the second of two readings a part of the first one, if that can be. -/
def merge? (s : Stack) (a b : Nat) : Option Stack :=
  if a = b || !s.canMerge a b then none
  else
    let n := (s.head a).place
    let s := (s.top b).links.foldl (fun s l => addLink s.places.size s n l) s
    let s :=
      if (s.top a).state.isNone then
        s.modifyHead a fun head => { head with countBefore := (s.top a).count }
      else s
    some (s.remove b)

/-! ## Going down -/

/-- A way down from the top of a reading. -/
structure Walker where
  /-- The place it has come to. -/
  place : Nat
  /-- The nodes above that place. -/
  nodes : List Node := []
  /-- The number of nodes above that place, without those that may stand anywhere. -/
  count : Nat := 0
  deriving Inhabited

/-- What to do with a way down. -/
structure Visit where
  /-- Keep it as an answer. -/
  take : Bool := false
  /-- Go no further. -/
  stop : Bool := false

/-- One step further down. -/
def Walker.follow (w : Walker) (link : Link) : Walker :=
  match link.node with
  | some node => ⟨link.place, node :: w.nodes, w.count + if node.isExtra then 0 else 1⟩
  | none => ⟨link.place, w.nodes, w.count + 1⟩

/-- The largest number of ways down that are followed at a time. -/
def mostWalkers : Nat := 64

/-- What a round of steps down has come to. -/
structure Round (σ : Type) where
  /-- The ways that go on. -/
  going : List Walker := []
  /-- The ways that branched off. -/
  branches : List Walker := []
  /-- The answers. -/
  taken : List Walker := []
  /-- What was noted. -/
  notes : σ

/-- One step down on each way. Where there are several links, the way goes on along the first one,
and others branch off along the rest. -/
def round {σ : Type} (s : Stack) (visit : σ → Walker → Visit × σ) :
    List Walker → Round σ → Round σ
  | [], r => r
  | w :: rest, r =>
    let (decision, notes) := visit r.notes w
    let r := { r with notes, taken := if decision.take then r.taken ++ [w] else r.taken }
    match (s.place w.place).links with
    | first :: others =>
      if decision.stop then round s visit rest r
      else
        let room := mostWalkers - (r.going.length + 1 + rest.length + r.branches.length)
        round s visit rest { r with
          going := r.going ++ [w.follow first]
          branches := r.branches ++ (others.take room).map w.follow }
    | [] => round s visit rest r

/-- Go down on all ways until each is stopped. Ways go down, so a round for each place is enough.
-/
def rounds {σ : Type} (s : Stack) (visit : σ → Walker → Visit × σ) :
    Nat → List Walker → List Walker → σ → List Walker × σ
  | 0, _, taken, notes => (taken, notes)
  | _, [], taken, notes => (taken, notes)
  | n + 1, walkers, taken, notes =>
    let r := round s visit walkers { notes }
    rounds s visit n (r.going ++ r.branches) (taken ++ r.taken) r.notes

/-- All answers on the ways down from a reading, and what was noted. -/
def walk {σ : Type} (s : Stack) (v : Nat) (visit : σ → Walker → Visit × σ) (notes : σ) :
    List Walker × σ :=
  s.rounds visit (s.places.size + 1) [{ place := (s.head v).place }] [] notes

/-- A reading that came out of going down, with the nodes that were on the ways there. -/
structure Popped where
  /-- The reading. -/
  head : Nat
  /-- The place it has come to. -/
  place : Nat
  /-- The nodes on each way. -/
  ways : List (List Node)
  deriving Inhabited

/-- Make the answers of a walk readings of their own, one for each place. -/
def popTo (s : Stack) (v : Nat) (taken : List Walker) : Stack × List Popped :=
  let places := (taken.map (·.place)).eraseDups
  let popped := places.zipIdx.map fun (p, k) =>
    ⟨s.size + k, p, (taken.filter (·.place = p)).map (·.nodes)⟩
  (places.foldl (fun s p => s.addHead v p) s, popped)

/-- Take a number of nodes from a reading, on all ways. -/
def pop (s : Stack) (v count : Nat) : Stack × List Popped :=
  let visit (_ : Unit) (w : Walker) : Visit × Unit :=
    if w.count = count then (⟨true, true⟩, ()) else (⟨false, false⟩, ())
  s.popTo v (s.walk v visit ()).1

/-- Take all nodes from a reading, on all ways. -/
def popAll (s : Stack) (v : Nat) : Stack × List Popped :=
  let visit (_ : Unit) (w : Walker) : Visit × Unit :=
    (⟨(s.place w.place).links.isEmpty, false⟩, ())
  s.popTo v (s.walk v visit ()).1

/-- Take the text that could not be read from a reading, if it lies on top. -/
def popError (s : Stack) (v : Nat) : Stack × List Popped :=
  let visit (found : Bool) (w : Walker) : Visit × Bool :=
    match w.nodes with
    | [] => (⟨false, false⟩, found)
    | node :: _ =>
      if !found && node.label = .error then (⟨true, true⟩, true) else (⟨false, true⟩, found)
  if (s.top v).links.any fun l => (l.node.map (·.label)) = some .error then
    s.popTo v (s.walk v visit false).1
  else (s, [])

/-- How far down the states are noted that a reading came through. -/
def deepestWaypoint : Nat := 16

/-- A state at the same depth has been noted already. -/
def isNoted (depth : Nat) (state : Option State) : List Waypoint → Bool
  | [] => false
  | w :: rest =>
    if w.depth < depth then false
    else (w.depth = depth && w.state == state) || isNoted depth state rest

/-- The states that a reading came through, from the top down. -/
def waypointsOf (s : Stack) (v : Nat) : List Waypoint :=
  let visit (found : List Waypoint) (w : Walker) : Visit × List Waypoint :=
    let here := s.place w.place
    if deepestWaypoint < w.count then (⟨false, true⟩, found)
    else if isNoted w.count here.state found then (⟨false, false⟩, found)
    else (⟨false, false⟩, ⟨here.position, w.count, here.state⟩ :: found)
  ((s.walk v visit []).2).reverse

/-! ## Comparing readings -/

/-- What the mistakes of a reading cost. One that has just given up owes the price of recovering.
-/
def cost (s : Stack) (v : Nat) : Nat :=
  let top := s.top v
  let justGaveUp := top.state.isNone && (top.links.head?.map (·.node.isNone)).getD false
  top.cost + if (s.head v).status.isPaused || justGaveUp then Price.recovery else 0

/-- How many nodes speak for a reading since it gave up last. If there are fewer nodes than then,
that is noted. -/
def countSince (s : Stack) (v : Nat) : Nat × Stack :=
  let count := (s.top v).count
  let before := min count (s.head v).countBefore
  (count - before, s.modifyHead v fun head => { head with countBefore := before })

/-- The last nodes among some that are no parts of anything, and those in front of them. -/
def splitExtras (nodes : List Node) : List Node × List Node :=
  let back := nodes.reverse
  ((back.dropWhile (·.isExtra)).reverse, (back.takeWhile (·.isExtra)).reverse)

end Stack

end TypedLayouts.TypeScript
