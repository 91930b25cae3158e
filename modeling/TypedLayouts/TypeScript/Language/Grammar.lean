import TypedLayouts.TypeScript.Language.Production
import TypedLayouts.TypeScript.Language.NumberSet

/-!
# Grammars

Productions with what reading needs to know about them: which tokens a group can begin with, which
groups can begin with another group, and what can follow it there.

A *follow* is what can come after something: some tokens, and whether every word counts as a name
where a name can come.
-/

namespace TypedLayouts.TypeScript

/-- The tokens that may stand anywhere. -/
def Token.comments : NumberSet :=
  .ofList ((List.range vocabulary.length).filter fun n =>
    (vocabulary[n]?.map isComment).getD false)

/-- What can come after something. -/
structure Follow where
  /-- The tokens. -/
  tokens : NumberSet := .empty
  /-- A name can come, and every word is one. -/
  anyWord : Bool := false
  deriving DecidableEq, Hashable, Repr, Inhabited

namespace Follow

/-- What can come after either of two things. -/
def union (a b : Follow) : Follow :=
  ⟨a.tokens.union b.tokens, a.anyWord || b.anyWord⟩

/-- One token. -/
def ofToken (token : Nat) (anyWord : Bool) : Follow :=
  ⟨.single token, anyWord && token = Token.name.index⟩

end Follow

/-- How a group can begin with another one. -/
structure Beginning where
  /-- What follows the other group there. -/
  follow : Follow := {}
  /-- The other group may be all there is, so that what follows the one follows the other. -/
  isWhole : Bool := false
  deriving DecidableEq, Repr, Inhabited

namespace Beginning

/-- Either of two ways to begin. -/
def union (a b : Beginning) : Beginning :=
  ⟨a.follow.union b.follow, a.isWhole || b.isWhole⟩

/-- What follows the other group, if `follow` follows the one that begins with it. -/
def followWith (b : Beginning) (follow : Follow) : Follow :=
  if b.isWhole then b.follow.union follow else b.follow

end Beginning

/-- Productions, and what is known about them. -/
structure Grammar where
  /-- The productions. -/
  productions : Array Production
  /-- The number of groups. -/
  groups : Nat
  /-- What each group can begin with. -/
  first : Array Follow
  /-- The ways in which each group can begin with others, in any number of steps. -/
  beginnings : Array (Thunk (Array (Option Beginning)))
  /-- For every token, the groups with productions that begin with it, and these. -/
  openedByToken : Array (List (Nat × List Nat))
  /-- For every group, the groups with productions that begin with it, and these. -/
  openedByGroup : Array (List (Nat × List Nat))
  /-- The productions without parts. -/
  empty : List Nat
  deriving Inhabited

/-- The part that a production begins with. -/
def Production.head? (p : Production) : Option Symbol :=
  p.steps[0]?.map Step.symbol

namespace Grammar

/-- What a part can begin with. -/
def firstOfStep (first : Array Follow) (step : Step) : Follow :=
  match step.symbol with
  | .token n => .ofToken n step.anyWord
  | .group n => first.getD n {}

/-- What each group can begin with, when its productions begin with what is known so far. -/
def grown (productions : Array Production) (first : Array Follow) : Array Follow :=
  productions.foldl (fun grown p =>
    match p.steps[0]? with
    | some step => grown.modify p.group (·.union (firstOfStep first step))
    | none => grown) first

/-- Go on until nothing new is known. Each round goes one step further, so a round for each group is
enough. -/
def firstFrom (productions : Array Production) : Nat → Array Follow → Array Follow
  | 0, first => first
  | rounds + 1, first =>
    let next := grown productions first
    if next = first then first else firstFrom productions rounds next

/-- What each group can begin with. -/
def firstOf (productions : Array Production) (groups : Nat) : Array Follow :=
  firstFrom productions groups (Array.replicate groups {})

/-- For each group, the groups that its productions begin with. -/
def directBeginnings (productions : Array Production) (groups : Nat) (first : Array Follow) :
    Array (List (Nat × Beginning)) :=
  let add (other : Nat) (b : Beginning) : List (Nat × Beginning) → List (Nat × Beginning)
    | known =>
      match known.lookup other with
      | some a => (other, a.union b) :: known.filter (·.1 ≠ other)
      | none => (other, b) :: known
  productions.foldl (fun direct (p : Production) =>
    match p.head? with
    | some (.group other) =>
      let b : Beginning :=
        match p.steps[1]? with
        | some next => ⟨firstOfStep first next, false⟩
        | none => ⟨{}, true⟩
      direct.modify p.group (add other b)
    | _ => direct) (Array.replicate groups [])

/-- Add the ways to begin that lead from some groups to others, over and over, as long as there is
something new. Each round goes one step further, so a round for each group is enough. -/
def spread (direct : Array (List (Nat × Beginning))) :
    Nat → List Nat → Array (Option Beginning) → Array (Option Beginning)
  | 0, _, known => known
  | _, [], known => known
  | rounds + 1, changed, known =>
    let (next, known) := changed.foldl (fun (next, known) x =>
      let outer := (known.getD x none).getD {}
      (direct.getD x []).foldl (fun (next, (known : Array (Option Beginning))) (y, b) =>
        let b : Beginning := ⟨b.followWith outer.follow, b.isWhole && outer.isWhole⟩
        match known.getD y none with
        | some old =>
          let both := old.union b
          if both = old then (next, known) else (y :: next, known.set! y (some both))
        | none => (y :: next, known.set! y (some b))) (next, known)) ([], known)
    spread direct rounds next.eraseDups known

/-- All ways in which a group can begin with others, and with itself. -/
def beginningsOf (direct : Array (List (Nat × Beginning))) (group : Nat) :
    Array (Option Beginning) :=
  let start := (Array.replicate direct.size none).set! group (some ⟨{}, true⟩)
  spread direct direct.size [group] start

/-- For every number, the groups with productions that begin with the part that has this number, and
these productions. -/
def openedBy (productions : Array Production) (size : Nat) (number : Symbol → Option Nat) :
    Array (List (Nat × List Nat)) :=
  let add (group p : Nat) : List (Nat × List Nat) → List (Nat × List Nat)
    | (g, ps) :: rest => if g = group then (g, p :: ps) :: rest else (group, [p]) :: (g, ps) :: rest
    | [] => [(group, [p])]
  (productions.size.fold (fun p _ opened =>
    match (productions.getD p default).head?.bind number with
    | some n => opened.modify n (add (productions.getD p default).group p)
    | none => opened) (Array.replicate size [])).map
      fun opened => opened.reverse.map fun (g, ps) => (g, ps.reverse)

/-- The grammar of some productions. -/
def ofProductions (list : List Production) (groups : Nat) : Grammar :=
  let productions := list.toArray
  let first := firstOf productions groups
  let direct := directBeginnings productions groups first
  { productions, groups, first
    beginnings := (Array.range groups).map fun g => Thunk.mk fun _ => beginningsOf direct g
    openedByToken := openedBy productions Token.vocabulary.length fun
      | .token n => some n
      | .group _ => none
    openedByGroup := openedBy productions groups fun
      | .token _ => none
      | .group n => some n
    empty := (List.range productions.size).filter fun p =>
      (productions.getD p default).steps.isEmpty }

/-- The part of a production at some place. -/
def step? (g : Grammar) (production place : Nat) : Option Step := do
  (← g.productions[production]?).steps[place]?

/-- The parts of a production, if there is one. -/
def stepsOf (g : Grammar) (production : Option Nat) : List Step :=
  ((production.bind fun p => g.productions[p]?).map (·.steps.toList)).getD []

/-- The group of a production. -/
def groupOf (g : Grammar) (production : Nat) : Nat :=
  match g.productions[production]? with
  | some p => p.group
  | none => 0

/-- How a group can begin with another one. -/
def beginning? (g : Grammar) (group other : Nat) : Option Beginning := do
  (← (← g.beginnings[group]?).get[other]?)

/-- The groups with productions that begin with a part, and these productions. -/
def openedBySymbol (g : Grammar) : Symbol → List (Nat × List Nat)
  | .token n => g.openedByToken.getD n []
  | .group n => g.openedByGroup.getD n []

/-- The group is a series. -/
def isSeries (group : Nat) : Bool :=
  seriesGroup 0 ≤ group

end Grammar

/-- The grammar of the language. -/
def language : Grammar :=
  .ofProductions Production.all (seriesGroup Production.series.length)

end TypedLayouts.TypeScript
