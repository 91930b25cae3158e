import Mathlib.Data.List.Induction
import Mathlib.Data.List.Nodup
import TypedLayouts.Proofs.Config.Names

/-!
# Rejected schema names

A schema offends when its name has no fragment, or has that of a schema in front of it. A config is
rejected for the first schema that offends; the error tells how it does and names it as the config
does. Whether any schema offends does not depend on their order, and some of the schemas of an
accepted config make an accepted config.
-/

namespace TypedLayouts

open Identifier (fragment)

/-- What is wrong with the name of a schema behind others. -/
inductive SchemaConfig.Offends (front : List SchemaConfig) (schema : SchemaConfig) :
    ConfigError → Prop where
  /-- The name has no fragment. -/
  | unusable (h : fragment schema.name = "") : Offends front schema (.unusableName schema.name)
  /-- The name has the fragment of a schema in front. -/
  | duplicate {earlier : SchemaConfig} (hmem : earlier ∈ front)
    (h : fragment earlier.name = fragment schema.name) :
    Offends front schema (.duplicateName schema.name)

/-- No schema offends those in front of it. -/
def NoneOffends (schemas : List SchemaConfig) : Prop :=
  ∀ front schema rest e, schemas = front ++ schema :: rest → ¬ schema.Offends front e

/-- A schema that offends those in front of it, behind schemas of which none does. -/
structure FirstOffender (schemas front : List SchemaConfig) (schema : SchemaConfig)
    (e : ConfigError) : Prop where
  /-- The schema stands behind those in front. -/
  place : front ++ [schema] <+: schemas
  /-- None of these offends. -/
  before : NoneOffends front
  /-- The schema does. -/
  offends : schema.Offends front e

variable {taken : List String} {schemas front rest : List SchemaConfig} {schema : SchemaConfig}
  {e : ConfigError}

/-! ## Accepted names -/

/-- A schema is accepted behind accepted ones when it does not offend. -/
theorem checkNames_concat_ok_iff : checkNames [] (front ++ [schema]) = .ok () ↔
    checkNames [] front = .ok () ∧ ∀ e, ¬ schema.Offends front e := by
  have hoffends : (∀ e, ¬ schema.Offends front e) ↔
      fragment schema.name ≠ "" ∧
        ∀ earlier ∈ front, fragment earlier.name ≠ fragment schema.name := by
    constructor
    · exact fun h => ⟨fun he => h _ (.unusable he), fun _ hmem he => h _ (.duplicate hmem he)⟩
    · rintro ⟨hne, happart⟩ _ (he | ⟨hmem, he⟩)
      · exact hne he
      · exact happart _ hmem he
  have hnodup : ((front ++ [schema]).map fun schema => fragment schema.name).Nodup ↔
      (front.map fun schema => fragment schema.name).Nodup ∧
        ∀ earlier ∈ front, fragment earlier.name ≠ fragment schema.name := by
    simp [List.nodup_append]
  rw [hoffends, checkNames_ok_iff, checkNames_ok_iff, hnodup, List.forall_mem_append,
    List.forall_mem_singleton]
  simp only [List.not_mem_nil, not_false_eq_true, and_true]
  exact and_and_and_comm

theorem checkNames_ok_iff_noneOffends : checkNames [] schemas = .ok () ↔ NoneOffends schemas := by
  induction schemas using List.reverseRecOn with
  | nil =>
    refine iff_of_true rfl fun front schema rest e h => ?_
    simp at h
  | append_singleton front schema ih =>
    rw [checkNames_concat_ok_iff, ih]
    constructor
    · -- An offender is the last schema or has the last one behind it.
      rintro ⟨hfront, hlast⟩ front' schema' rest e h
      rcases List.eq_nil_or_concat rest with rfl | ⟨rest, last, rfl⟩
      · obtain ⟨rfl, hschema⟩ := List.append_inj' h rfl
        cases hschema
        exact hlast e
      · rw [List.concat_eq_append, ← List.cons_append, ← List.append_assoc] at h
        exact hfront front' schema' rest e (List.append_inj' h rfl).1
    · intro h
      refine ⟨fun front' schema' rest e he => ?_, fun e => h front schema [] e rfl⟩
      refine h front' schema' (rest ++ [schema]) e ?_
      rw [he, List.append_assoc, List.cons_append]

/-! ## The first offender -/

/-- Schemas behind accepted ones are checked against the fragments of these too. -/
theorem checkNames_append (h : checkNames taken front = .ok ()) :
    checkNames taken (front ++ rest) =
      checkNames ((front.map fun schema => fragment schema.name).reverse ++ taken) rest := by
  induction front generalizing taken with
  | nil => rfl
  | cons schema front ih =>
    simp only [checkNames] at h
    rw [List.cons_append, checkNames]
    split at h
    · cases h
    split at h
    · cases h
    rename_i hempty htaken
    rw [if_neg hempty, if_neg htaken, ih h, List.map_cons, List.reverse_cons, List.append_assoc,
      List.singleton_append]

/-- The error is that of a schema that offends accepted ones in front of it. -/
theorem checkNames_of_offends (hfront : checkNames [] front = .ok ())
    (h : schema.Offends front e) : checkNames [] (front ++ schema :: rest) = .error e := by
  have hnonempty := (checkNames_ok_iff.mp hfront).1
  rw [checkNames_append hfront, List.append_nil]
  simp only [checkNames, String.isEmpty_iff, List.mem_reverse]
  cases h with
  | unusable hempty => rw [if_pos hempty]
  | @duplicate earlier hmem hsame =>
    -- The first test passes: the fragment is that of an accepted schema.
    have hne : fragment schema.name ≠ "" := hsame ▸ (hnonempty earlier hmem).1
    have htaken : fragment schema.name ∈ front.map fun schema => fragment schema.name :=
      List.mem_map.mpr ⟨earlier, hmem, hsame⟩
    rw [if_neg hne, if_pos htaken]

theorem exists_firstOffender (h : checkNames [] schemas ≠ .ok ()) :
    ∃ front schema e, FirstOffender schemas front schema e := by
  induction schemas using List.reverseRecOn with
  | nil => exact absurd rfl h
  | append_singleton front schema ih =>
    by_cases hfront : checkNames [] front = .ok ()
    · rw [ne_eq, checkNames_concat_ok_iff, not_and, not_forall] at h
      obtain ⟨e, he⟩ := h hfront
      have hnone := checkNames_ok_iff_noneOffends.mp hfront
      exact ⟨front, schema, e, List.prefix_rfl, hnone, not_not.mp he⟩
    · obtain ⟨front', schema', e, hplace, hnone, hoffends⟩ := ih hfront
      exact ⟨front', schema', e, hplace.trans (List.prefix_append _ _), hnone, hoffends⟩

theorem checkNames_eq_error_iff :
    checkNames [] schemas = .error e ↔ ∃ front schema, FirstOffender schemas front schema e := by
  have herror : ∀ {front schema e}, FirstOffender schemas front schema e →
      checkNames [] schemas = .error e := by
    rintro front schema e ⟨⟨rest, rfl⟩, hnone, hoffends⟩
    rw [List.append_assoc, List.singleton_append]
    exact checkNames_of_offends (checkNames_ok_iff_noneOffends.mpr hnone) hoffends
  constructor
  · intro h
    obtain ⟨front, schema, e', hfirst⟩ := exists_firstOffender (h.trans_ne nofun)
    have he : e = e' := Except.error.inj (h.symm.trans (herror hfirst))
    exact ⟨front, schema, he ▸ hfirst⟩
  · rintro ⟨front, schema, hfirst⟩
    exact herror hfirst

/-- A config is accepted when the fragments of its schema names are not empty and pairwise distinct,
and is rejected for its first schema whose fragment is empty or that of an earlier one. So a config
with some of the schemas of an accepted one is accepted, and order plays no role. -/
theorem Config.check_outcome (config : Config) :
    (config.check = .ok () ↔
      (∀ schema ∈ config.schemas, fragment schema.name ≠ "") ∧
        config.schemas.Pairwise fun a b => fragment a.name ≠ fragment b.name) ∧
      (∀ e, config.check = .error e ↔
        ∃ front schema, FirstOffender config.schemas front schema e) ∧
      (∀ part : Config, part.schemas.Sublist config.schemas →
        config.check = .ok () → part.check = .ok ()) ∧
      ∀ reordered : Config, reordered.schemas.Perm config.schemas →
        (reordered.check = .ok () ↔ config.check = .ok ()) := by
  refine ⟨?_, fun e => checkNames_eq_error_iff, fun part hpart h => ?_, fun reordered hperm => ?_⟩
  · rw [check_ok_iff, List.Nodup, List.pairwise_map]
  · obtain ⟨hnonempty, hnodup⟩ := check_ok_iff.mp h
    refine check_ok_iff.mpr ⟨fun schema hs => hnonempty schema (hpart.subset hs), ?_⟩
    exact hnodup.sublist (hpart.map _)
  · rw [check_ok_iff, check_ok_iff, (hperm.map _).nodup_iff]
    simp only [hperm.mem_iff]

end TypedLayouts
