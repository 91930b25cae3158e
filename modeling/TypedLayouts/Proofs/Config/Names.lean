import TypedLayouts.Config.Check

/-!
# Accepted schema names

A config is accepted exactly when the fragments of its schema names are not empty and pairwise
distinct.
-/

namespace TypedLayouts

open Identifier (fragment)

/-- Schema names pass when their fragments are not empty, not taken and pairwise distinct. -/
theorem checkNames_ok_iff {taken : List String} {schemas : List SchemaConfig} :
    checkNames taken schemas = .ok () ↔
      (∀ schema ∈ schemas, fragment schema.name ≠ "" ∧ fragment schema.name ∉ taken) ∧
        (schemas.map fun schema => fragment schema.name).Nodup := by
  induction schemas generalizing taken with
  | nil => simp [checkNames]
  | cons schema rest ih =>
    unfold checkNames
    simp only [String.isEmpty_iff]
    by_cases hempty : fragment schema.name = ""
    · simp [hempty]
    by_cases htaken : fragment schema.name ∈ taken
    · simp [hempty, htaken]
    rw [if_neg hempty, if_neg htaken, ih, List.map_cons, List.nodup_cons]
    constructor
    · rintro ⟨hrest, hnodup⟩
      refine ⟨?_, ?_, hnodup⟩
      · intro s hs
        rcases List.mem_cons.mp hs with rfl | hs
        · exact ⟨hempty, htaken⟩
        · exact ⟨(hrest s hs).1, fun hmem => (hrest s hs).2 (List.mem_cons_of_mem _ hmem)⟩
      · intro hmem
        obtain ⟨s, hs, he⟩ := List.mem_map.mp hmem
        refine (hrest s hs).2 ?_
        rw [he]
        exact List.mem_cons_self
    · rintro ⟨hall, hne, hnodup⟩
      refine ⟨fun s hs => ?_, hnodup⟩
      obtain ⟨hs₁, hs₂⟩ := hall s (List.mem_cons_of_mem _ hs)
      refine ⟨hs₁, fun hmem => ?_⟩
      rcases List.mem_cons.mp hmem with he | hmem
      · exact hne (List.mem_map.mpr ⟨s, hs, he⟩)
      · exact hs₂ hmem

/-- A config is accepted when the fragments of its schema names are not empty and pairwise
distinct. -/
theorem Config.check_ok_iff {config : Config} :
    config.check = .ok () ↔
      (∀ schema ∈ config.schemas, fragment schema.name ≠ "") ∧
        (config.schemas.map fun schema => fragment schema.name).Nodup := by
  unfold check
  rw [checkNames_ok_iff]
  simp

end TypedLayouts
