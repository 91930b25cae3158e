import TypedLayouts.TypeScript.Syntax

/-!
# Types that say the same

The order in which a union lists its members, and how often it lists one, mean nothing; the members
of an object type are an ordered list, since their order is that of the fields. `TypeExpr.same`
compares types in this sense, and otherwise part by part.
-/

namespace TypedLayouts.TypeScript

namespace TypeExpr

mutual

/-- The types are equal but for the order and repetition of union members. -/
def same : TypeExpr → TypeExpr → Bool
  | .string, .string => true
  | .number, .number => true
  | .null, .null => true
  | .any, .any => true
  | .literal a, .literal b => a == b
  | .union ss, .union ts => eachAmong ss ts && ts.all fun t => someSame ss t
  | .array s, .array t => same s t
  | .reference m ss, .reference n ts => m == n && sameAll ss ts
  | .typeOf m, .typeOf n => m == n
  | .object ss, .object ts => sameMembers ss ts
  | _, _ => false
termination_by structural s => s

/-- Each of the first types is the same as one of the second. -/
def eachAmong : List TypeExpr → List TypeExpr → Bool
  | [], _ => true
  | s :: ss, ts => (ts.any fun t => same s t) && eachAmong ss ts
termination_by structural ss => ss

/-- One of the types is the same as the given one. -/
def someSame : List TypeExpr → TypeExpr → Bool
  | [], _ => false
  | s :: ss, t => same s t || someSame ss t
termination_by structural ss => ss

/-- The types are the same one by one. -/
def sameAll : List TypeExpr → List TypeExpr → Bool
  | [], [] => true
  | s :: ss, t :: ts => same s t && sameAll ss ts
  | _, _ => false
termination_by structural ss => ss

/-- The members have the same keys and types one by one. -/
def sameMembers : List (String × TypeExpr) → List (String × TypeExpr) → Bool
  | [], [] => true
  | (k, s) :: ss, (l, t) :: ts => k == l && same s t && sameMembers ss ts
  | _, _ => false
termination_by structural ss => ss

end

/-- Each of some types is among others when every one of them has its like there. -/
theorem eachAmong_iff {ss ts : List TypeExpr} :
    eachAmong ss ts = true ↔ ∀ s ∈ ss, ∃ t ∈ ts, same s t = true := by
  induction ss with
  | nil => simp [eachAmong]
  | cons s ss ih => simp [eachAmong, ih]

/-- Some type is the same as the given one when one of them is. -/
theorem someSame_iff {ss : List TypeExpr} {t : TypeExpr} :
    someSame ss t = true ↔ ∃ s ∈ ss, same s t = true := by
  induction ss with
  | nil => simp [someSame]
  | cons s ss ih => simp [someSame, ih]

/-- Unions are compared as sets: each member of either has its like in the other. -/
theorem same_union_iff {ss ts : List TypeExpr} :
    same (.union ss) (.union ts) = true ↔
      (∀ s ∈ ss, ∃ t ∈ ts, same s t = true) ∧ ∀ t ∈ ts, ∃ s ∈ ss, same s t = true := by
  rw [same, Bool.and_eq_true, eachAmong_iff, List.all_eq_true]
  simp only [someSame_iff]

/-- The order of members makes no difference, a lost member does. -/
example : same (.union [.string, .null]) (.union [.null, .string]) = true ∧
    same (.union [.string, .null]) (.union [.string]) = false :=
  ⟨by rfl, by rfl⟩

mutual

/-- Every type is the same as itself. -/
theorem same_refl : ∀ t : TypeExpr, same t t = true
  | .string => by rw [same]
  | .number => by rw [same]
  | .null => by rw [same]
  | .any => by rw [same]
  | .literal a => by
    rw [same]
    exact beq_self_eq_true a
  | .union ts => by
    rw [same_union_iff]
    exact ⟨fun t ht => ⟨t, ht, same_refl_of_mem ts t ht⟩,
      fun t ht => ⟨t, ht, same_refl_of_mem ts t ht⟩⟩
  | .array t => by
    rw [same]
    exact same_refl t
  | .reference n ts => by
    rw [same, sameAll_refl ts, beq_self_eq_true]
    rfl
  | .typeOf n => by
    rw [same]
    exact beq_self_eq_true n
  | .object ms => by
    rw [same]
    exact sameMembers_refl ms

/-- Every type of a list is the same as itself. -/
theorem same_refl_of_mem : ∀ ts : List TypeExpr, ∀ t ∈ ts, same t t = true
  | [] => by simp
  | s :: ts => by
    intro t h
    rcases List.mem_cons.mp h with h | h
    · rw [h]
      exact same_refl s
    · exact same_refl_of_mem ts t h

/-- Types are the same as themselves one by one. -/
theorem sameAll_refl : ∀ ts : List TypeExpr, sameAll ts ts = true
  | [] => by rw [sameAll]
  | t :: ts => by
    rw [sameAll, same_refl t, sameAll_refl ts]
    rfl

/-- Members are the same as themselves one by one. -/
theorem sameMembers_refl : ∀ ms : List (String × TypeExpr), sameMembers ms ms = true
  | [] => by rw [sameMembers]
  | (k, t) :: ms => by
    rw [sameMembers, same_refl t, sameMembers_refl ms, beq_self_eq_true]
    rfl

end

end TypeExpr

end TypedLayouts.TypeScript
