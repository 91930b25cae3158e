import Mathlib.Data.List.Nodup
import TypedLayouts.Proofs.Layout.Firsts

/-!
# Fields under a catalog and a mode

A schema has one entry for each field name, and the entry's kind is that of the first field with the
name. The mode of value lists has a say in the kind alone: a field that has choices when they are
strict has the same ones and the empty text when that is allowed, too.
-/

namespace TypedLayouts.Layout

variable {fields : List Field} {field : Field} {catalog : Option (List ValueList)}
  {mode : ValueListMode} {entry : Entry} {values : List String} {text : String}

theorem mem_ofFields :
    entry ∈ Schema.ofFields fields catalog mode ↔
      ∃ field ∈ firstsBy Field.name [] fields, ⟨field.name, field.kind catalog mode⟩ = entry :=
  List.mem_map

/-- The names of a schema are those of its fields, whatever the catalog and the mode. -/
theorem names_ofFields :
    (Schema.ofFields fields catalog mode).map Entry.name =
      (firstsBy Field.name [] fields).map Field.name := by
  unfold Schema.ofFields
  rw [List.map_map]
  rfl

theorem nodup_names_ofFields : ((Schema.ofFields fields catalog mode).map Entry.name).Nodup := by
  rw [names_ofFields]
  exact nodup_keys_firstsBy

/-- Entries of one schema with one name are the same. -/
theorem eq_of_mem_ofFields {entry' : Entry} (h : entry ∈ Schema.ofFields fields catalog mode)
    (h' : entry' ∈ Schema.ofFields fields catalog mode) (hn : entry.name = entry'.name) :
    entry = entry' :=
  List.inj_on_of_nodup_map nodup_names_ofFields h h' hn

/-! ## Choices -/

/-- A field is a choice exactly when it has choices. -/
theorem kind_eq_choice_iff :
    field.kind catalog mode = .choice values ↔ field.choices catalog mode = some values := by
  unfold Field.kind
  cases hc : field.choices catalog mode with
  | some found => simp
  | none =>
    have hplain : (if field.result = "number" then FieldKind.number else .text) ≠
        .choice values := by
      split <;> exact nofun
    simp [hplain]

theorem mem_permit_allowEmpty :
    text ∈ ValueListMode.permit .allowEmpty values ↔ text ∈ values ∨ text = "" := by
  unfold ValueListMode.permit
  split
  · simp
  · rename_i hpermitted
    have hempty : "" ∈ values := by
      by_contra hnone
      exact hpermitted ⟨rfl, hnone⟩
    constructor
    · intro h
      exact .inl h
    · rintro (h | rfl)
      · exact h
      · exact hempty

/-- Where the empty text is allowed, too, a field has the choices that it has when they are
strict, with the empty text among them. -/
theorem choices_allowEmpty (h : field.choices catalog .strict = some values) :
    field.choices catalog .allowEmpty = some (ValueListMode.permit .allowEmpty values) := by
  have hstrict : ∀ listed, ValueListMode.permit .strict listed = listed := by
    intro listed
    simp [ValueListMode.permit]
  unfold Field.choices at h ⊢
  rw [if_neg (by decide)] at h ⊢
  cases hname : field.valueList with
  | none => simp [hname] at h
  | some name =>
    cases catalog with
    | none => simp [hname] at h
    | some lists =>
      simp only [hname, Option.bind_eq_bind, Option.bind_some, hstrict] at h ⊢
      obtain ⟨list, hfind, hlisted⟩ := Option.bind_eq_some_iff.mp h
      rw [hfind]
      cases hlisted
      rfl

end TypedLayouts.Layout
