import TypedLayouts.TypeScript.Reading.Parse

/-!
# Recovery

What a reading does when it cannot go on with a token. First all productions are put together that
could be, so that it stands in as many states as possible. If putting in a single missing token lets
one of them go on, that is tried. Besides, the reading gives up: from then on it passes over tokens,
until one comes that fits a state it came through before. What lies in between becomes an error.
-/

namespace TypedLayouts.TypeScript

namespace Parse

variable (g : Grammar) (source : Source)

/-- What can be done with a token in a state. A reading that gave up can only pass over tokens, for
which there is no action. -/
def actionsIn (state : Option State) (token : Nat) : List Action :=
  match state with
  | some state => g.actions state token
  | none => if Token.comments.contains token then [.pass] else []

/-- The state can do something with a token. -/
def hasActions (state : Option State) (token : Option Nat) : Bool :=
  match token with
  | some token => !(actionsIn g state token).isEmpty
  | none => false

/-- The number of a token that a node is. -/
def tokenOf? (node : Node) : Option Nat :=
  match node.label with
  | .token n => some n
  | _ => none

/-! ## Putting together whatever can be -/

/-- The productions that could be put together in front of some tokens, one for each group and
number of parts, and whether there is a token to go on with. -/
def prospects (state : Option State) (tokens : List Nat) : List Nat × Bool :=
  let size (p : Nat) : Nat := (g.productions.getD p default).steps.size
  tokens.foldl (fun (found, goesOn) token =>
    match state with
    | none => (found, goesOn || !Token.comments.contains token)
    | some state =>
      (g.actions state token).foldl (fun (found, goesOn) action =>
        match action with
        | .shift => (found, true)
        | .reduce p =>
          if size p = 0 ||
              found.any fun q => g.groupOf q = g.groupOf p && size q = size p then
            (found, goesOn)
          else (found ++ [p], goesOn)
        | _ => (found, goesOn)) (found, goesOn)) ([], false)

/-- Put several productions together, all from one reading. The answer is the first reading that
came out of the last one. -/
def reduceAll (v : Nat) : List Nat → Option Nat → ParseM (Option Nat)
  | [], last => return last
  | p :: rest, _ => do reduceAll v rest (← reduce g source v p)

/-- Put together whatever can be in front of some tokens, over and over: in the reading `first`, and
in all readings from `init` on that come out. Where `onlyUseful` says so, a reading is dropped that
comes to an end without a token to go on with. The answer says whether some reading can go on. -/
def reduceOnward (tokens : List Nat) (onlyUseful : Bool) (first init : Nat) :
    Nat → Nat → Nat → Bool → ParseM Bool
  | 0, _, _, can => return can
  | steps + 1, round, v, can => do
    let s ← getStack
    let size := s.size
    if size ≤ v then return can
    if ← mergeInto v ((List.range v).filter (init ≤ ·)) then
      reduceOnward tokens onlyUseful first init steps (round + 1) v can
    else
      let (productions, goesOn) := prospects g (s.top v).state tokens
      let last ← reduceAll g source v productions none
      let after := if v = first then size else v + 1
      match goesOn, last with
      | true, _ => reduceOnward tokens onlyUseful first init steps (round + 1) after true
      | false, some new =>
        if round < mostHeads then
          change (·.replace new v)
          reduceOnward tokens onlyUseful first init steps (round + 1) v can
        else
          if onlyUseful then change (·.remove v)
          reduceOnward tokens onlyUseful first init steps (round + 1) after can
      | false, none =>
        if onlyUseful then change (·.remove v)
        reduceOnward tokens onlyUseful first init steps (round + 1) after can

/-- More steps than putting things together in front of a token takes. -/
def onwardSteps : Nat := 10000

/-- Put together whatever can be from a reading on, in front of one token, or of any. -/
def reduceFrom (v : Nat) (token : Option Nat) : ParseM Bool := do
  let init := (← getStack).size
  let tokens := match token with
    | some token => [token]
    | none => (List.range Token.vocabulary.length).filter (· ≠ Token.fileEnd.index)
  reduceOnward g source tokens token.isSome v init onwardSteps 0 v false

/-! ## Going on behind an error -/

/-- Make readings that came out of going down to a state go on from there: what was taken from them
becomes an error. Those that came to another state are over, and of several ways to the same place
only the first one counts. -/
def resume (goal : Option State) : List Stack.Popped → Bool → ParseM Bool
  | [], did => return did
  | popped :: rest, did => do
    let head := popped.head
    if (← getStack).top head |>.state |> (· != goal) then
      setStatus head .halted
      resume goal rest did
    else
      let way := popped.ways.headD []
      let errors ← changeGet (·.popError head)
      let way ← match errors with
        | [] => pure way
        | first :: _ => do
          change (·.replace first.head head)
          pure (((first.ways.headD []).headD default).children ++ way)
      let (parts, extras) := Stack.splitExtras way
      if !parts.isEmpty then
        let node := Node.ofChildren g source .error none parts 0
        change (·.push head (some { node with isExtra := true }) goal)
      for extra in extras do
        change (·.push head (some extra) goal)
      resume goal rest true

/-- Look for a state that a reading came through before, and that can go on with a token. -/
def resumeAt (v : Nat) (token : Option Nat) (before position cost count : Nat) :
    List Waypoint → ParseM Bool
  | [] => return false
  | w :: rest => do
    let s ← getStack
    let isKnown := (List.range before).any fun i =>
      (s.top i).state == w.state && (s.top i).position = position
    if w.state.isNone || w.position = position || isKnown then
      resumeAt v token before position cost count rest
    else if ← hasBetter v (cost + Price.skippedText source w.position position) then return false
    else if hasActions g w.state token then
      let popped ← changeGet (·.pop v (if 0 < count then w.depth + 1 else w.depth))
      if ← resume g source w.state popped false then return true
      resumeAt v token before position cost count rest
    else resumeAt v token before position cost count rest

/-- Drop the readings from one on that do not go on. -/
def dropIdle (first : Nat) : ParseM Unit :=
  change fun s => { s with
    heads := s.heads.extract 0 first ++ (s.heads.extract first).filter (·.status.isActive) }

/-- Pass over a token: it becomes a part of the error on top of a reading. -/
def skip (v count : Nat) (token : Node) : ParseM Unit := do
  let isComment := (tokenOf? token).any Token.comments.contains
  let token := if isComment then { token with isExtra := true } else token
  let part (nodes : List Node) : Node :=
    Node.ofChildren g source .errorPart none nodes token.start
  if 0 < count then
    let popped ← changeGet (·.pop v 1)
    match popped with
    | first :: _ =>
      change fun s => { s with heads := s.heads.extract 0 (first.head + 1) }
      change (·.replace first.head v)
      change (·.push v (some (part (first.ways.headD [] ++ [part [token]]))) none)
    | [] => change (·.push v (some (part [token])) none)
  else change (·.push v (some (part [token])) none)

/-- Let a reading that gave up go on with a token: in a state that it came through before, or behind
the token. At the end of the text, all that was read is an error. -/
def recover (v : Nat) (token : Node) : ParseM Unit := do
  let s ← getStack
  let before := s.size
  let position := (s.top v).position
  let count ← countSince v
  let cost := s.cost v
  let did ← match (s.head v).waypoints with
    | some waypoints =>
      if token.label = .error then pure false
      else resumeAt g source v (tokenOf? token) before position cost count waypoints
    | none => pure false
  dropIdle before
  if tokenOf? token = some Token.fileEnd.index then
    let rest := Node.ofChildren g source .error none [] position
    change (·.push v (some rest) (some g.start))
    accept g source v token
  else if did && mostHeads < (← getStack).size then setStatus v .halted
  else
    let skipped := cost + Price.skippedNode + Price.skippedText source token.before token.stop
    if ← hasBetter v skipped then setStatus v .halted
    else skip g source v count token

/-! ## Giving up -/

/-- Try to put in a token that is missing in a reading, one of the given ones. -/
def putIn (v : Nat) (next : Option Nat) : List Nat → ParseM Bool
  | [] => return false
  | missing :: rest => do
    let s ← getStack
    let top := s.top v
    match top.state.bind (g.behind? · (.token missing)) with
    | some state =>
      let fits := some state != top.state &&
        (next.map (g.actions state)).any fun actions => actions.any fun
          | .reduce _ => true
          | _ => false
      if !fits then putIn v next rest
      else
        let new := s.size
        change (·.addHead v (s.head v).place)
        change (·.push new (some (.ofMissing missing top.position)) (some state))
        if ← reduceFrom g source new next then return true
        putIn v next rest
    | none => putIn v next rest

/-- Let readings give up: first the given one, then those from `init` on. Once, a missing token may
be put in. -/
def giveUp (next : Option Nat) (init : Nat) : List Nat → Bool → ParseM Unit
  | [], _ => return
  | v :: rest, did => do
    let tokens := (List.range Token.vocabulary.length).filter (· ≠ Token.fileEnd.index)
    let did ← if did then pure true else putIn g source v next tokens
    change (·.push v none none)
    giveUp next init rest did

/-- A reading cannot go on with a token: let it give up, and go on behind an error. -/
def handle (v : Nat) (token : Node) : ParseM Unit := do
  let before := (← getStack).size
  let _ ← reduceFrom g source v none
  let after := (← getStack).size
  giveUp g source (tokenOf? token) before (v :: (List.range after).filter (before ≤ ·)) false
  for _ in List.range (after - before) do
    let _ ← merge v before
  let s ← getStack
  change (·.modifyHead v fun head => { head with waypoints := some (s.waypointsOf v) })
  recover g source v token

end Parse

end TypedLayouts.TypeScript
