/-!
# Sets of numbers

Tokens and groups are numbers, and a set of numbers is a number too: its binary digits say which
numbers are in it.
-/

namespace TypedLayouts.TypeScript

/-- A set of numbers, such as those of tokens. -/
structure NumberSet where
  /-- The number whose binary digits are the members. -/
  bits : Nat
  deriving DecidableEq, Hashable, Repr, Inhabited

namespace NumberSet

/-- The set without members. -/
def empty : NumberSet := ⟨0⟩

/-- The set with one member. -/
def single (n : Nat) : NumberSet := ⟨1 <<< n⟩

/-- The members of either set. -/
def union (a b : NumberSet) : NumberSet := ⟨a.bits ||| b.bits⟩

/-- The number is in the set. -/
def contains (s : NumberSet) (n : Nat) : Bool := s.bits.testBit n

/-- The set of the numbers in a list. -/
def ofList (numbers : List Nat) : NumberSet :=
  numbers.foldl (fun s n => s.union (single n)) empty

@[simp] theorem contains_empty (n : Nat) : empty.contains n = false := by
  simp [contains, empty]

@[simp] theorem contains_single (a b : Nat) : (single a).contains b = decide (a = b) := by
  simp [contains, single, Nat.one_shiftLeft, Nat.testBit_two_pow]

@[simp] theorem contains_union (a b : NumberSet) (n : Nat) :
    (a.union b).contains n = (a.contains n || b.contains n) := by
  simp [contains, union]

end NumberSet

end TypedLayouts.TypeScript
