import TypedLayouts.TypeScript.Language.Construct
import TypedLayouts.TypeScript.Language.Token

/-!
# Rules

What a construct is made of: tokens and other constructs, one after the other, or one of several, or
many of a kind. A rule also says what decides between several readings of a text: how tightly its
parts bind, which side goes first, and which reading is liked better where all are possible.

Rules are data. What they mean for a text is a matter of the modules that read with them.
-/

namespace TypedLayouts.TypeScript

/-- How tightly the parts of a rule bind. Levels compare as numbers; for the others,
`Precedence.orderings` says which bind tighter. -/
inductive Rank where
  | level (n : Int)
  | member | templateCall | call | unary | power | times | plus | shift | compare | relation
  | equality | bitAnd | bitXor | bitOr | and | or | conditional | assign | creation | declare
  | literal | declaration | object | instantiation | typedUnary | typedBinary | heritage
  deriving DecidableEq, Hashable, Repr

/-- Which of two equally tight uses of a rule goes first. -/
inductive Side where
  /-- The one on the left. -/
  | left
  /-- The one on the right. -/
  | right
  deriving DecidableEq, Hashable, Repr

/-- What a construct is made of. -/
inductive Rule where
  /-- Nothing. -/
  | blank
  /-- A token. -/
  | token (token : Token)
  /-- Another construct. -/
  | construct (construct : Construct)
  /-- One rule, and then another one. -/
  | andThen (first second : Rule)
  /-- One of two rules. -/
  | either (first second : Rule)
  /-- A rule, once or more often. -/
  | repeated (rule : Rule)
  /-- The parts of the rule bind as tightly as the rank says. -/
  | ranked (rank : Rank) (rule : Rule)
  /-- Of two uses that are equally tight, the one on this side goes first. -/
  | sided (side : Side) (rule : Rule)
  /-- A reading with this rule is liked better, or less, than others. -/
  | favoured (weight : Int) (rule : Rule)
  /-- The nodes have a role. -/
  | role (role : Role) (rule : Rule)
  /-- The parts are nodes of the given kind, or marks if there is none. -/
  | shown (kind : Option Kind) (rule : Rule)
  /-- Every word is a name here. -/
  | anyWord (rule : Rule)
  deriving DecidableEq, Hashable, Repr

namespace Rule

instance : Coe Token Rule := ⟨.token⟩

instance : Coe Construct Rule := ⟨.construct⟩

instance : Coe String Rule := ⟨fun text => .token (.text text)⟩

/-- Rules one after the other. -/
def seq : List Rule → Rule
  | [] => blank
  | [rule] => rule
  | rule :: rest => andThen rule (seq rest)

/-- One of several rules. -/
def oneOf : List Rule → Rule
  | [] => blank
  | [rule] => rule
  | rule :: rest => either rule (oneOf rest)

/-- A rule or nothing. -/
def maybe (rule : Rule) : Rule :=
  either rule blank

/-- A rule any number of times. -/
def many (rule : Rule) : Rule :=
  maybe (repeated rule)

/-- A rule once or more often, with another rule between. -/
def separated (separator rule : Rule) : Rule :=
  andThen rule (many (andThen separator rule))

/-- A rule once or more often, with commas between. -/
def commas1 (rule : Rule) : Rule :=
  separated "," rule

/-- A rule any number of times, with commas between. -/
def commas (rule : Rule) : Rule :=
  maybe (commas1 rule)

/-- Of two uses the left one goes first. -/
def leftward (rule : Rule) : Rule :=
  sided .left rule

/-- Of two uses the right one goes first. -/
def rightward (rule : Rule) : Rule :=
  sided .right rule

/-- The parts are nodes of the given kind. -/
def shownAs (kind : Kind) (rule : Rule) : Rule :=
  shown (some kind) rule

/-- The parts are marks. -/
def shownAsMark (rule : Rule) : Rule :=
  shown none rule

end Rule

end TypedLayouts.TypeScript
