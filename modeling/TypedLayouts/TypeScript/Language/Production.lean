import Std.Data.HashSet
import TypedLayouts.TypeScript.Language.Rules.Classes
import TypedLayouts.TypeScript.Language.Rules.Declarations
import TypedLayouts.TypeScript.Language.Rules.Expressions
import TypedLayouts.TypeScript.Language.Rules.Functions
import TypedLayouts.TypeScript.Language.Rules.Literals
import TypedLayouts.TypeScript.Language.Rules.Modules
import TypedLayouts.TypeScript.Language.Rules.Patterns
import TypedLayouts.TypeScript.Language.Rules.Statements
import TypedLayouts.TypeScript.Language.Rules.TypeParts
import TypedLayouts.TypeScript.Language.Rules.Types

/-!
# Productions

A rule with choices in it stands for several plain sequences of parts: its productions. What is
repeated becomes a group of its own, a *series*: two series one after the other, or a single part.
Constructs that are inlined are replaced by their parts.

Tokens and groups are numbers from here on. Group 0 is all that is read: a file, with nothing behind
it. The constructs follow in their order, and then the series.
-/

namespace TypedLayouts.TypeScript

/-- The rules of all constructs. -/
def Rules.all : List (Construct × Rule) :=
  Rules.ofStatements ++ Rules.ofModules ++ Rules.ofDeclarations ++ Rules.ofExpressions ++
    Rules.ofLiterals ++ Rules.ofPatterns ++ Rules.ofFunctions ++ Rules.ofClasses ++
    Rules.ofTypeParts ++ Rules.ofTypes

/-- The number of a token. -/
def Token.index (token : Token) : Nat :=
  Token.vocabulary.idxOf token

/-- The group of a construct. -/
def Construct.group (c : Construct) : Nat :=
  c.ctorIdx + 1

/-- The group of the series with the given number. -/
def seriesGroup (n : Nat) : Nat :=
  Construct.all.length + 1 + n

/-- A part of a production. -/
inductive Symbol where
  /-- The token with the given number. -/
  | token (n : Nat)
  /-- The group with the given number. -/
  | group (n : Nat)
  deriving DecidableEq, Hashable, Repr, Inhabited

/-- What the rules around a part say about it. -/
structure Setting where
  /-- How tightly it binds. -/
  rank : Option Rank := none
  /-- Which side goes first. -/
  side : Option Side := none
  /-- The role of its nodes. -/
  role : Option Role := none
  /-- What its nodes are shown as; inside, `none` is a mark. -/
  shown : Option (Option Kind) := none
  /-- Every word is a name. -/
  anyWord : Bool := false
  deriving DecidableEq, Hashable, Repr, Inhabited

/-- A part of a production with what is said about it. -/
structure Step extends Setting where
  /-- The part. -/
  symbol : Symbol
  deriving DecidableEq, Hashable, Repr, Inhabited

/-- One of the sequences that a rule stands for. -/
structure Sequence where
  /-- The parts. -/
  steps : List Step
  /-- How much a reading with it is liked. -/
  weight : Int
  deriving DecidableEq, Hashable, Repr, Inhabited

namespace Sequence

/-- The weight that counts of two: the one further from zero. -/
def heavier (a b : Int) : Int :=
  if a.natAbs < b.natAbs then b else a

/-- Two sequences one after the other. -/
def append (a b : Sequence) : Sequence :=
  ⟨a.steps ++ b.steps, heavier a.weight b.weight⟩

/-- The sequence with its last part changed. -/
def mapLast (f : Step → Step) (sequence : Sequence) : Sequence :=
  match sequence.steps.getLast? with
  | some last => { sequence with steps := sequence.steps.dropLast ++ [f last] }
  | none => sequence

/-- The sequence in place of a part with the given setting: roles and kinds hold for all its parts,
and the last part binds as the replaced one did, unless it says something else. -/
def inPlace (around : Setting) (sequence : Sequence) : Sequence :=
  let shared (s : Step) : Step :=
    { s with role := around.role <|> s.role, shown := around.shown <|> s.shown }
  let bound (s : Step) : Step :=
    { s with rank := s.rank <|> around.rank, side := s.side <|> around.side }
  ({ sequence with steps := sequence.steps.map shared }).mapLast bound

end Sequence

namespace Rule

/-- The rules of the series in a rule, with those inside of a series before it. -/
def series : Rule → List Rule
  | blank | token _ | construct _ => []
  | andThen a b | either a b => a.series ++ b.series
  | repeated r => r.series ++ [r]
  | ranked _ r | sided _ r | favoured _ r | role _ r | shown _ r | anyWord r => r.series

/-- The sequences that a rule stands for. A rank or side that ends inside of a larger rule is over
with its last part, so that this part binds as what is around it does.

`isLast` says that nothing follows the rule in the rule around it, `inlined` gives the sequences of
the constructs that are inlined, and `group` the groups of the series. -/
def sequences (inlined : Construct → Option (List Sequence)) (group : Rule → Nat)
    (around : Setting) (isLast : Bool) : Rule → List Sequence
  | blank => [⟨[], 0⟩]
  | token t => [⟨[{ around with symbol := .token t.index }], 0⟩]
  | construct c =>
    match inlined c with
    | some found => found.map (·.inPlace around)
    | none => [⟨[{ around with symbol := .group c.group }], 0⟩]
  | repeated r => [⟨[{ around with symbol := .group (group r) }], 0⟩]
  | andThen a b =>
    let seconds := b.sequences inlined group around isLast
    (a.sequences inlined group around false).flatMap fun first => seconds.map first.append
  | either a b =>
    a.sequences inlined group around isLast ++ b.sequences inlined group around isLast
  | ranked rank r =>
    let inside := r.sequences inlined group { around with rank := some rank } isLast
    if isLast then inside else inside.map (·.mapLast fun s => { s with rank := around.rank })
  | sided side r =>
    let inside := r.sequences inlined group { around with side := some side } isLast
    if isLast then inside else inside.map (·.mapLast fun s => { s with side := around.side })
  | favoured weight r =>
    (r.sequences inlined group around isLast).map fun x =>
      { x with weight := Sequence.heavier weight x.weight }
  | role what r => r.sequences inlined group { around with role := some what } isLast
  | shown kind r => r.sequences inlined group { around with shown := some kind } isLast
  | anyWord r => r.sequences inlined group { around with anyWord := true } isLast

end Rule

/-- A production: one of the sequences that a group stands for. -/
structure Production where
  /-- The group. -/
  group : Nat
  /-- The parts. -/
  steps : Array Step
  /-- How much this reading of the group is liked. -/
  weight : Int
  deriving Repr, Inhabited

namespace Production

/-- The rule of a construct. -/
def ruleOf (c : Construct) : Rule :=
  (Rules.all.lookup c).getD .blank

/-- The rules of all series. -/
def series : List Rule :=
  (Construct.all.flatMap fun c => (ruleOf c).series).eraseDups

/-- The group of the series of a rule. -/
def seriesOf (rule : Rule) : Nat :=
  seriesGroup (series.idxOf rule)

/-- The sequences of the constructs that are inlined. One may be inlined in another one; the depth
bounds how often. -/
def inlined : Nat → Construct → Option (List Sequence)
  | 0, _ => none
  | depth + 1, c =>
    if c ∈ Construct.inlined then
      some ((ruleOf c).sequences (inlined depth) seriesOf {} true)
    else none

/-- The sequences that a rule stands for. -/
def sequencesOf (rule : Rule) : List Sequence :=
  rule.sequences (inlined Construct.inlined.length) seriesOf {} true

/-- The sequences without those that were there before. -/
def distinct (sequences : List Sequence) : List Sequence :=
  let step := fun ((seen : Std.HashSet Sequence), (kept : List Sequence)) (sequence : Sequence) =>
    if seen.contains sequence then (seen, kept) else (seen.insert sequence, sequence :: kept)
  (sequences.foldl step (∅, [])).2.reverse

/-- The productions of a group with the given sequences. -/
def ofSequences (group : Nat) (sequences : List Sequence) : List Production :=
  (distinct sequences).map fun r => ⟨group, r.steps.toArray, r.weight⟩

/-- Everything is a file. -/
def ofAll : List Production :=
  [⟨0, #[{ symbol := .group Construct.file.group }], 0⟩]

/-- The productions of a construct. -/
def ofConstruct (c : Construct) : List Production :=
  if c ∈ Construct.inlined then [] else ofSequences c.group (sequencesOf (ruleOf c))

/-- The productions of a series: two series of the same kind, or one part. -/
def ofSeries (rule : Rule) : List Production :=
  let group := seriesOf rule
  let both : Sequence := ⟨[{ symbol := .group group }, { symbol := .group group }], 0⟩
  ofSequences group (both :: sequencesOf rule)

/-- All productions, with those of a group together and the groups in their order. -/
def all : List Production :=
  ofAll ++ Construct.all.flatMap ofConstruct ++ series.flatMap ofSeries

end Production

end TypedLayouts.TypeScript
