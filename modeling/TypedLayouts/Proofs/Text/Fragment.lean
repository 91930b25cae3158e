import TypedLayouts.Text.Identifier

/-!
# What a fragment depends on

A fragment does not see the characters that no identifier may hold: dropping them from a name before
or after trimming makes no difference.
-/

namespace TypedLayouts.Identifier

/-- The characters of a name that an identifier may hold. -/
def innerPart (cs : List Char) : List Char :=
  cs.filter isInner

theorem innerPart_append (cs ds : List Char) :
    innerPart (cs ++ ds) = innerPart cs ++ innerPart ds :=
  List.filter_append ..

theorem isInner_of_isEdge {c : Char} (h : isEdge c = true) : isInner c = true := by
  unfold isInner
  rw [h, Bool.true_or]

theorem innerPart_dropWhile (cs : List Char) :
    innerPart (cs.dropWhile (!isEdge ·)) = (innerPart cs).dropWhile (!isEdge ·) := by
  unfold innerPart
  induction cs with
  | nil => rfl
  | cons c cs ih =>
    by_cases hedge : isEdge c = true
    · have hinner := isInner_of_isEdge hedge
      simp [hedge, hinner]
    · rw [List.dropWhile_cons_of_pos (by simpa using hedge), ih]
      by_cases hinner : isInner c = true
      · simp [hinner, hedge]
      · simp [hinner]

theorem innerPart_trimTo (cs : List Char) :
    innerPart (trimTo isEdge cs) = trimTo isEdge (innerPart cs) := by
  have hreverse : ∀ ds, innerPart (List.reverse ds) = (innerPart ds).reverse :=
    fun ds => List.filter_reverse ..
  unfold trimTo
  rw [hreverse, innerPart_dropWhile, hreverse, innerPart_dropWhile]

/-- Names with the same characters for identifiers have the same fragment. -/
theorem fragment_congr {name name' : String}
    (h : innerPart name.toList = innerPart name'.toList) : fragment name = fragment name' := by
  have hfragment : ∀ s : String, fragment s = String.ofList (trimTo isEdge (innerPart s.toList)) :=
    fun s => congrArg String.ofList (innerPart_trimTo s.toList)
  rw [hfragment, hfragment, h]

end TypedLayouts.Identifier
