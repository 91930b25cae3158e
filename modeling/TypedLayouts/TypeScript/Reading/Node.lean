import TypedLayouts.TypeScript.Language.Grammar
import TypedLayouts.TypeScript.Reading.Source

/-!
# Nodes

What has been read is a tree of nodes. A node knows what it costs: mistakes in the text have a
price, and of several readings the cheapest one is kept. A node also knows how much of it is to be
seen in the end, for much that went well speaks for a reading.
-/

namespace TypedLayouts.TypeScript

/-- What a node is. -/
inductive Label where
  /-- A token. -/
  | token (n : Nat)
  /-- A group of the grammar. -/
  | group (n : Nat)
  /-- Text that could not be read. -/
  | error
  /-- A piece of such text. -/
  | errorPart
  deriving DecidableEq, Repr, Inhabited

/-- A node. -/
structure Node where
  /-- What it is. -/
  label : Label
  /-- The production that it was put together by. -/
  production : Option Nat := none
  /-- What it was put together from. -/
  children : List Node := []
  /-- Where the one in front of it ends. -/
  before : Nat
  /-- Where it begins. -/
  start : Nat
  /-- Where it ends. -/
  stop : Nat
  /-- It is no part of a production, but may stand anywhere. -/
  isExtra : Bool := false
  /-- It was put in where the text has nothing. -/
  isMissing : Bool := false
  /-- It is a token that is a word, and could be taken for a name. -/
  isWord : Bool := false
  /-- What the mistakes in it cost. -/
  cost : Nat := 0
  /-- How much it is liked. -/
  weight : Int := 0
  /-- The number of visible nodes inside of it. -/
  visibleInside : Nat := 0
  /-- The number of its visible children, where the children of hidden ones count as its own. -/
  visibleChildren : Nat := 0
  deriving Repr, Inhabited

namespace Price

/-- The price of giving up and going on. -/
def recovery : Nat := 500

/-- The price of putting in what is missing. -/
def missing : Nat := 110

/-- The price of each node that is passed over. -/
def skippedNode : Nat := 100

/-- The price of each byte that is passed over. -/
def skippedByte : Nat := 1

/-- The price of each line that is passed over. -/
def skippedLine : Nat := 30

/-- The price of the text between two places when it is passed over. -/
def skippedText (source : Source) (start stop : Nat) : Nat :=
  skippedByte * source.bytesBetween start stop + skippedLine * source.linesBetween start stop

end Price

/-- The tokens that are to be seen in the end. -/
def Token.visible : NumberSet :=
  .ofList ((List.range vocabulary.length).filter fun n =>
    (vocabulary[n]?.map (!·.isHidden)).getD false)

/-- The groups that are to be seen in the end: those of constructs that are not hidden. -/
def Construct.visibleGroups : NumberSet :=
  .ofList ((all.filter (!hidden.contains ·)).map group)

namespace Label

/-- A node of this kind is to be seen in the end. -/
def isVisible : Label → Bool
  | token n => Token.visible.contains n
  | group n => Construct.visibleGroups.contains n
  | error => true
  | errorPart => false

/-- A node of this kind is text that could not be read, or a piece of it. -/
def isUnread : Label → Bool
  | error | errorPart => true
  | _ => false

/-- The number by which nodes are ordered. -/
def rank : Label → Nat
  | token n => n
  | group n => Token.vocabulary.length + n
  | _ => 0

end Label

namespace Node

/-- A token. -/
def ofToken (token before start stop : Nat) : Node where
  label := .token token
  before := before
  start := start
  stop := stop
  isExtra := token = Token.fileEnd.index

/-- Text without any token. -/
def ofUnreadable (before start stop : Nat) : Node where
  label := .error
  before := before
  start := start
  stop := stop

/-- A token that is put in at some place. -/
def ofMissing (token place : Nat) : Node :=
  { ofToken token place place place with isMissing := true }

/-- What a node costs. -/
def price (node : Node) : Nat :=
  node.cost + if node.isMissing then Price.missing + Price.recovery else 0

/-- The number of nodes that speak for a reading with this node. -/
def count (node : Node) : Nat :=
  node.visibleInside + (if node.label.isVisible then 1 else 0) +
    (if node.label = .errorPart then 1 else 0)

/-- What a node costs for being passed over. -/
def skippedPrice (node : Node) : Nat :=
  if node.isExtra || (node.label = .error && node.children.isEmpty) then 0
  else if node.label.isVisible then Price.skippedNode
  else if node.children.isEmpty then 0
  else Price.skippedNode * node.visibleChildren

/-- Which children of a node are shown as something else than what they are: `steps` are the parts
of the production, of which those that may stand anywhere are no part. -/
def shownChildren (steps : List Step) : List Node → List (Node × Option Step)
  | [] => []
  | child :: rest =>
    if child.isExtra then (child, none) :: shownChildren steps rest
    else (child, steps.head?) :: shownChildren steps.tail rest

/-- The children of a node with the parts of the production that they are. -/
def parts (g : Grammar) (production : Option Nat) (children : List Node) :
    List (Node × Option Step) :=
  shownChildren (g.stepsOf production) children

/-- A node made of others. Without children it is at the given place. -/
def ofChildren (g : Grammar) (source : Source) (label : Label) (production : Option Nat)
    (children : List Node) (place : Nat) : Node :=
  let first := children.head?
  let start := (first.map (·.start)).getD place
  let stop := (children.getLast?.map (·.stop)).getD place
  let own := if label.isUnread then Price.recovery + Price.skippedText source start stop else 0
  let empty : Node :=
    { label, production, children, before := (first.map (·.before)).getD place, start, stop
      cost := own }
  (parts g production children).foldl (fun node (child, step) =>
    let isVisible := child.label.isVisible || (step.bind (·.shown)).isSome
    { node with
      cost := node.cost + (if child.label = .errorPart then 0 else child.price) +
        (if label.isUnread then child.skippedPrice else 0)
      weight := node.weight + child.weight
      visibleInside := node.visibleInside + child.visibleInside + if isVisible then 1 else 0
      visibleChildren := node.visibleChildren +
        if isVisible then 1 else if child.children.isEmpty then 0 else child.visibleChildren })
    empty

mutual

/-- The order of nodes by what they are made of. -/
def order (a b : Node) : Ordering :=
  (compare a.label.rank b.label.rank).then
    ((compare a.children.length b.children.length).then (orderLists a.children b.children))
termination_by sizeOf a
decreasing_by
  cases a
  simp_wf
  omega

/-- The order of lists of nodes: the first nodes that differ decide. -/
def orderLists : List Node → List Node → Ordering
  | a :: as, b :: bs => (order a b).then (orderLists as bs)
  | _, _ => .eq
termination_by as => sizeOf as

end

end Node

end TypedLayouts.TypeScript
