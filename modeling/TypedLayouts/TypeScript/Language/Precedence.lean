import TypedLayouts.TypeScript.Language.Rule

/-!
# Precedence

Where a text can be read in two ways, the one whose rule binds tighter is taken. Some rules bind by
number. The others are compared by lists, each of which goes from what binds tightest to what binds
loosest. A list is about ranks and about constructs, and only lists that hold both sides say
something about them; the first of these decides.
-/

namespace TypedLayouts.TypeScript

open Construct

namespace Precedence

/-- What a list is about. -/
inductive Entry where
  /-- Rules of a rank. -/
  | rank (rank : Rank)
  /-- The rules of a construct. -/
  | construct (construct : Construct)
  deriving DecidableEq

instance : Coe Rank Entry := ⟨.rank⟩

instance : Coe Construct Entry := ⟨.construct⟩

/-- What binds tighter in expressions and statements. -/
def ofExpressions : List (List Entry) := [
  [Rank.member, Rank.templateCall, Rank.call, updateExpression, Rank.unary, Rank.power, Rank.times,
   Rank.plus, Rank.shift, Rank.compare, Rank.relation, Rank.equality, Rank.bitAnd, Rank.bitXor,
   Rank.bitOr, Rank.and, Rank.or, Rank.conditional, sequenceExpression, arrowFunction],
  [Rank.assign, primaryExpression],
  [Rank.member, Rank.templateCall, Rank.creation, Rank.call, expression],
  [Rank.declaration, Rank.literal],
  [primaryExpression, statementBlock, Rank.object],
  [metaProperty, importCallee],
  [importStatement, importCallee],
  [exportStatement, primaryExpression],
  [lexicalDeclaration, primaryExpression]]

/-- What binds tighter in types, and in expressions with types. -/
def ofTypes : List (List Entry) := [
  [Rank.call, Rank.instantiation, Rank.typedUnary, Rank.typedBinary, awaitExpression,
   arrowFunction],
  [Rank.heritage, Rank.instantiation],
  [intersectionType, unionType, conditionalType, functionType, Rank.typedBinary, typePredicate,
   readonlyType],
  [mappedTypeClause, primaryExpression],
  [accessibilityModifier, primaryExpression],
  [Rank.unary, expression],
  [extendsClause, primaryExpression],
  [Rank.typedUnary, Rank.assign],
  [Rank.declare, expression],
  [predefinedType, unaryExpression],
  [type, maybeType],
  [tupleType, arrayType, pattern, type],
  [readonlyType, pattern],
  [readonlyType, primaryExpression],
  [typeQuery, subscriptExpression, expression],
  [typeQuery, queriedElement],
  [nestedTypeIdentifier, genericType, primaryType, lookupType, indexTypeQuery, type],
  [asExpression, satisfiesExpression, primaryType]]

/-- What binds tighter where types are taken from values, and in declarations of classes. -/
def ofQueries : List (List Entry) := [
  [queriedMember, memberExpression],
  [memberExpression, importTypeMember],
  [queriedMember, primaryExpression],
  [queriedElement, subscriptExpression],
  [queriedElement, primaryExpression],
  [queriedCall, primaryExpression],
  [queriedInstance, primaryExpression],
  [typeQuery, primaryExpression],
  [overrideModifier, primaryExpression],
  [decoratorCallExpression, decorator],
  [literalType, pattern],
  [predefinedType, pattern],
  [callExpression, queriedCall],
  [callExpression, importTypeCall],
  [newExpression, primaryExpression],
  [metaProperty, primaryExpression],
  [constructSignature, propertyKey]]

/-- All lists. -/
def orderings : List (List Entry) :=
  ofExpressions ++ ofTypes ++ ofQueries

/-- One side of a comparison: a rank, and the constructs whose rules have it. -/
structure Strength where
  /-- The rank, if there is one. -/
  rank : Option Rank
  /-- The constructs. -/
  constructs : List Construct

/-- An entry of a list is about one side. -/
def Entry.isAbout (side : Strength) : Entry → Bool
  | rank r => side.rank = some r
  | construct c => side.constructs.contains c

/-- What a list says about two sides, when it is known which of them it had already. -/
def ordering? (left right : Strength) : Bool → Bool → List Entry → Option Ordering
  | _, _, [] => none
  | sawLeft, sawRight, entry :: rest =>
    if entry.isAbout left then
      if sawRight then some .lt else ordering? left right true sawRight rest
    else if entry.isAbout right then
      if sawLeft then some .gt else ordering? left right sawLeft true rest
    else ordering? left right sawLeft sawRight rest

/-- The number of a rank; zero where there is none. -/
def level : Option Rank → Option Int
  | some (.level n) => some n
  | some _ => none
  | none => some 0

/-- Which of two sides binds tighter: `.gt` if the left one does. -/
def compare (left right : Strength) : Ordering :=
  let byLists := (orderings.findSome? (ordering? left right false false)).getD .eq
  match level left.rank, level right.rank with
  | some l, some r => if l = 0 && r = 0 then byLists else Ord.compare l r
  | _, _ => byLists

end Precedence

end TypedLayouts.TypeScript
