import TypedLayouts.Proofs.Layout.Fields

/-!
# Entries of a schema

What a schema says in terms of its fields alone: which names it has and in which order, and which
field decides about the kind of an entry. A later field of the same name never counts, whatever its
kind and however far behind; so the schema of a longer list of fields begins with that of its first
part, and has of the second part the entries whose names are new.
-/

namespace TypedLayouts.Layout

variable {field : Field} {catalog : Option (List ValueList)} {mode : ValueListMode}
  {values : List String}

/-- What a field with a value list is restricted to: the values of the first list of its name in the
catalog, and behind them the empty text if that is permitted and not among them. -/
def Field.RestrictedTo (field : Field) (catalog : Option (List ValueList)) (mode : ValueListMode)
    (values : List String) : Prop :=
  mode ≠ .ignore ∧ ∃ lists list, catalog = some lists ∧ field.valueList = some list.name ∧
    IsFirst ValueList.name list lists ∧
    values = list.values ++ if mode = .allowEmpty ∧ "" ∉ list.values then [""] else []

theorem permit_eq_append (mode : ValueListMode) (values : List String) :
    mode.permit values = values ++ if mode = .allowEmpty ∧ "" ∉ values then [""] else [] := by
  unfold ValueListMode.permit
  split
  · rfl
  · exact (List.append_nil values).symm

theorem choices_eq_some_iff :
    field.choices catalog mode = some values ↔ field.RestrictedTo catalog mode values := by
  unfold Field.choices Field.RestrictedTo
  by_cases hmode : mode = .ignore
  · simp [hmode]
  rw [if_neg hmode]
  constructor
  · intro h
    obtain ⟨name, hname, h⟩ := Option.bind_eq_some_iff.mp h
    obtain ⟨lists, hlists, h⟩ := Option.bind_eq_some_iff.mp h
    obtain ⟨list, hlist, h⟩ := Option.bind_eq_some_iff.mp h
    cases h
    obtain ⟨hfirst, rfl⟩ := find?_eq_some_iff_isFirst.mp hlist
    exact ⟨hmode, lists, list, hlists, hname, hfirst, permit_eq_append mode list.values⟩
  · rintro ⟨-, lists, list, hlists, hname, hfirst, rfl⟩
    rw [hname, hlists, ← permit_eq_append]
    have hlist := find?_eq_some_iff_isFirst.mpr ⟨hfirst, rfl⟩
    simp [hlist]

/-- What the entry says that a field gives under a catalog and a mode. -/
structure Entry.Describes (entry : Entry) (field : Field) (catalog : Option (List ValueList))
    (mode : ValueListMode) : Prop where
  name : entry.name = field.name
  choice : ∀ values, entry.kind = .choice values ↔ field.RestrictedTo catalog mode values
  number : entry.kind = .number ↔
    (¬ ∃ values, field.RestrictedTo catalog mode values) ∧ field.result = "number"
  text : entry.kind = .text ↔
    (¬ ∃ values, field.RestrictedTo catalog mode values) ∧ field.result ≠ "number"

theorem describes_of_field (field : Field) (catalog : Option (List ValueList))
    (mode : ValueListMode) :
    Entry.Describes ⟨field.name, field.kind catalog mode⟩ field catalog mode := by
  have hchoice : ∀ values, field.kind catalog mode = .choice values ↔
      field.RestrictedTo catalog mode values :=
    fun values => kind_eq_choice_iff.trans choices_eq_some_iff
  by_cases hrestricted : ∃ values, field.RestrictedTo catalog mode values
  · obtain ⟨values, hvalues⟩ := hrestricted
    have hkind := (hchoice values).mpr hvalues
    refine ⟨rfl, hchoice, ?_, ?_⟩
    · simpa [hkind] using fun hnone => absurd hvalues (hnone values)
    · simpa [hkind] using fun hnone => absurd hvalues (hnone values)
  · have hnone : field.choices catalog mode = none := by
      rw [Option.eq_none_iff_forall_ne_some]
      exact fun values h => hrestricted ⟨values, choices_eq_some_iff.mp h⟩
    have hkind : field.kind catalog mode = if field.result = "number" then .number else .text := by
      unfold Field.kind
      rw [hnone]
    refine ⟨rfl, hchoice, ?_, ?_⟩
    · rw [hkind]
      by_cases hnumber : field.result = "number"
      · simp [hnumber, hrestricted]
      · simp [hnumber]
    · rw [hkind]
      by_cases hnumber : field.result = "number"
      · simp [hnumber]
      · simp [hnumber, hrestricted]

theorem ofFields_append (fields fields' : List Field) :
    Schema.ofFields (fields ++ fields') catalog mode =
      Schema.ofFields fields catalog mode ++
        (Schema.ofFields fields' catalog mode).filter fun entry =>
          entry.name ∉ fields.map Field.name := by
  unfold Schema.ofFields
  rw [firstsBy_append, List.map_append, List.filter_map]
  rfl

/-- A schema has one entry for each name of a field, in the order in which the names come first, and
each describes the first field of its name. Fields behind others add the entries whose names are
new. The names depend on the fields alone. -/
theorem schema_of_first_fields (fields fields' : List Field) (catalog : Option (List ValueList))
    (mode : ValueListMode) :
    (Schema.ofFields fields catalog mode).map Entry.name = (fields.map Field.name).eraseDups ∧
      (∀ entry ∈ Schema.ofFields fields catalog mode,
        ∃ field, IsFirst Field.name field fields ∧ entry.Describes field catalog mode) ∧
      Schema.ofFields (fields ++ fields') catalog mode =
        Schema.ofFields fields catalog mode ++
          (Schema.ofFields fields' catalog mode).filter (fun entry =>
            entry.name ∉ fields.map Field.name) ∧
      ∀ catalog' mode', (Schema.ofFields fields catalog' mode').map Entry.name =
        (Schema.ofFields fields catalog mode).map Entry.name := by
  refine ⟨?_, ?_, ofFields_append fields fields', fun catalog' mode' => ?_⟩
  · rw [names_ofFields, keys_firstsBy]
  · intro entry hentry
    obtain ⟨field, hfield, rfl⟩ := mem_ofFields.mp hentry
    exact ⟨field, (mem_firstsBy_iff.mp hfield).1, describes_of_field field catalog mode⟩
  · rw [names_ofFields, names_ofFields]

end TypedLayouts.Layout
