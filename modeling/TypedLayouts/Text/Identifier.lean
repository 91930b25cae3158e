/-!
# Identifiers

Which texts are identifiers of generated code, and how a name chosen by a user becomes a fragment of
one. A fragment keeps the letters, digits and underscores of the name, after everything before its
first and behind its last letter or underscore is cut away; so a digit never stands at either end,
and a letter put in front of a fragment always makes an identifier.

Only ASCII counts: a letter such as `é` is dropped from fragments and makes a text no identifier.
-/

namespace TypedLayouts

namespace Identifier

/-- A character that may stand at either end of a fragment. -/
def isEdge (c : Char) : Bool :=
  c.isAlpha || c == '_'

/-- A character that may stand inside a fragment. -/
def isInner (c : Char) : Bool :=
  isEdge c || c.isDigit

/-- A character that may open an identifier. -/
def isStart (c : Char) : Bool :=
  isEdge c || c == '$'

/-- A character that may continue an identifier. -/
def isContinue (c : Char) : Bool :=
  isInner c || c == '$'

/-- The text is an identifier: an opening character and then continuing ones. -/
def isValid (s : String) : Bool :=
  match s.toList with
  | [] => false
  | c :: cs => isStart c && cs.all isContinue

theorem isValid_iff {s : String} : isValid s = true ↔
    ∃ c cs, s.toList = c :: cs ∧ isStart c = true ∧ ∀ d ∈ cs, isContinue d = true := by
  unfold isValid
  cases s.toList with
  | nil => simp
  | cons c cs =>
    rw [Bool.and_eq_true, List.all_eq_true]
    constructor
    · intro h
      exact ⟨c, cs, rfl, h⟩
    · intro ⟨_, _, hlist, h⟩
      cases hlist
      exact h

/-- The characters from the first to the last one that satisfies `p`. -/
def trimTo (p : Char → Bool) (cs : List Char) : List Char :=
  ((cs.dropWhile (!p ·)).reverse.dropWhile (!p ·)).reverse

/-- The fragment of an identifier that a name gives: trimmed to its outermost letters or
underscores, and then without the characters that no identifier may hold. -/
def fragment (name : String) : String :=
  String.ofList ((trimTo isEdge name.toList).filter isInner)

end Identifier

end TypedLayouts
