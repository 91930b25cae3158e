import Mathlib.Data.Set.Insert
import TypedLayouts.Proofs.Layout.Fields
import TypedLayouts.Proofs.Module.Backends
import TypedLayouts.Proofs.TypeScript.Induction

/-!
# Texts that generated types accept

A mode of value lists is used in two places: it says which values a field is restricted to, and a
field restricted to no values at all gets the type of any text. Both together decide which texts the
generated type of a field accepts. Where a value list has values, allowing the empty text adds just
that. Where it has none, the strict type accepts every text and the other one only the empty text.

Both backends give a field the same type. Where there are validators it is the inferred type that
counts, and it accepts the same texts.
-/

namespace TypedLayouts

namespace TypeScript.TypeExpr

mutual

/-- The type accepts a text. A named type is not looked up, so it accepts none. -/
def accepts (text : String) : TypeExpr → Bool
  | .string | .any => true
  | .literal value => text == value
  | .union members => someAccepts text members
  | .number | .null | .array _ | .reference _ _ | .typeOf _ | .object _ => false

/-- One of the types accepts a text. -/
def someAccepts (text : String) : List TypeExpr → Bool
  | [] => false
  | t :: ts => accepts text t || someAccepts text ts

end

theorem someAccepts_iff {text : String} {ts : List TypeExpr} :
    someAccepts text ts = true ↔ ∃ t ∈ ts, t.accepts text = true := by
  induction ts with
  | nil => simp [someAccepts]
  | cons t ts ih => simp [someAccepts, ih]

/-- Types that say the same accept the same texts. -/
theorem accepts_of_same {text : String} {s t : TypeExpr} (h : s.same t = true) :
    s.accepts text = t.accepts text := by
  induction s using TypeExpr.memInduction generalizing t with
  | union ss ih =>
    cases t with
    | union ts =>
      obtain ⟨hleft, hright⟩ := same_union_iff.mp h
      rw [Bool.eq_iff_iff, accepts, accepts, someAccepts_iff, someAccepts_iff]
      constructor
      · rintro ⟨s, hs, htext⟩
        obtain ⟨t, ht, hsame⟩ := hleft s hs
        exact ⟨t, ht, (ih s hs hsame).symm.trans htext⟩
      · rintro ⟨t, ht, htext⟩
        obtain ⟨s, hs, hsame⟩ := hright t ht
        exact ⟨s, hs, (ih s hs hsame).trans htext⟩
    | _ => simp [same] at h
  | literal a =>
    cases t with
    | literal b =>
      have hab : a = b := by simpa [same] using h
      rw [hab]
    | _ => simp [same] at h
  -- The other types accept every text or none, whatever is inside of them.
  | string | number | null | any => cases t <;> simp_all [same, accepts]
  | array | reference | typeOf | object => cases t <;> simp_all [same, accepts]

end TypeScript.TypeExpr

namespace Module

open Layout

variable {fields : List Field} {catalog : Option (List ValueList)} {mode : ValueListMode}
  {backend : Backend} {strictNumbers : Bool} {name : String} {values : List String}

/-- The texts that generated code accepts for the field of a name. -/
def acceptedTexts (backend : Backend) (strictNumbers : Bool) (schema : Schema) (name : String) :
    Set String :=
  {text | ∃ entry ∈ schema, entry.name = name ∧
    (FieldCode.ofKind backend strictNumbers entry.kind).type.accepts text = true}

/-- Where there are validators, the type inferred from that of a field accepts what the type of the
field accepts. -/
theorem mem_acceptedTexts_validator_iff {schema : Schema} {text : String} :
    text ∈ acceptedTexts .validator strictNumbers schema name ↔
      ∃ entry ∈ schema, entry.name = name ∧ ∃ validator type,
        (FieldCode.ofKind .validator strictNumbers entry.kind).validator = some validator ∧
          infer validator = some type ∧ type.accepts text = true := by
  have hfield : ∀ kind, (fieldType strictNumbers kind).accepts text = true ↔
      ∃ type, infer (fieldValidator strictNumbers kind) = some type ∧ type.accepts text = true := by
    intro kind
    obtain ⟨type, htype, hsame⟩ := infer_fieldValidator strictNumbers kind
    rw [← TypeScript.TypeExpr.accepts_of_same hsame, htype]
    simp
  constructor
  · rintro ⟨entry, hentry, hname, htext⟩
    obtain ⟨type, htype, haccepts⟩ := (hfield entry.kind).mp htext
    exact ⟨entry, hentry, hname, _, type, rfl, htype, haccepts⟩
  · rintro ⟨entry, hentry, hname, validator, type, hvalidator, htype, haccepts⟩
    cases hvalidator
    exact ⟨entry, hentry, hname, (hfield entry.kind).mpr ⟨type, htype, haccepts⟩⟩

/-- A choice accepts its values, and one without values accepts everything. -/
theorem accepts_choice (strictNumbers : Bool) {text : String} :
    (fieldType strictNumbers (.choice values)).accepts text = true ↔
      values = [] ∨ text ∈ values := by
  cases values with
  | nil => simp [fieldType, TypeScript.TypeExpr.accepts]
  | cons value rest =>
    have htype : fieldType strictNumbers (.choice (value :: rest)) = choiceType (value :: rest) :=
      rfl
    rw [htype, choiceType, TypeScript.TypeExpr.accepts, TypeScript.TypeExpr.someAccepts_iff]
    simp [TypeScript.TypeExpr.accepts]

theorem mem_acceptedTexts {text : String}
    (h : ⟨name, .choice values⟩ ∈ Schema.ofFields fields catalog mode) :
    text ∈ acceptedTexts backend strictNumbers (.ofFields fields catalog mode) name ↔
      values = [] ∨ text ∈ values := by
  rw [← accepts_choice strictNumbers]
  constructor
  · rintro ⟨entry, hentry, hname, htext⟩
    rw [eq_of_mem_ofFields hentry h hname] at htext
    exact htext
  · intro htext
    exact ⟨_, h, rfl, htext⟩

/-- A field that is a choice where choices are strict is one where the empty text is allowed. -/
theorem choice_mem_ofFields_allowEmpty
    (h : ⟨name, .choice values⟩ ∈ Schema.ofFields fields catalog .strict) :
    ⟨name, .choice (ValueListMode.permit .allowEmpty values)⟩ ∈
      Schema.ofFields fields catalog .allowEmpty := by
  obtain ⟨field, hfield, hentry⟩ := mem_ofFields.mp h
  obtain ⟨rfl, hkind⟩ := Entry.mk.inj hentry
  have hchoices := choices_allowEmpty (kind_eq_choice_iff.mp hkind)
  refine mem_ofFields.mpr ⟨field, hfield, ?_⟩
  rw [kind_eq_choice_iff.mpr hchoices]

/-- Allowing the empty text adds just that to what a choice accepts, exactly if the choice has
values. Without any it turns a type that accepts everything into one that accepts nothing else. -/
theorem acceptedTexts_allowEmpty (backend : Backend) (strictNumbers : Bool)
    (h : ⟨name, .choice values⟩ ∈ Schema.ofFields fields catalog .strict) :
    let accepted := fun mode =>
      acceptedTexts backend strictNumbers (.ofFields fields catalog mode) name
    (accepted .allowEmpty = insert "" (accepted .strict) ↔ values ≠ []) ∧
      (values = [] → accepted .strict = Set.univ ∧ accepted .allowEmpty = {""}) := by
  intro accepted
  have hpermitted : ValueListMode.permit .allowEmpty values ≠ [] :=
    List.ne_nil_of_mem (mem_permit_allowEmpty.mpr (.inr rfl))
  have hstrict : ∀ text, text ∈ accepted .strict ↔ values = [] ∨ text ∈ values :=
    fun text => mem_acceptedTexts h
  have hallow : ∀ text, text ∈ accepted .allowEmpty ↔ text ∈ values ∨ text = "" := by
    intro text
    rw [mem_acceptedTexts (choice_mem_ofFields_allowEmpty h), or_iff_right hpermitted]
    exact mem_permit_allowEmpty
  refine ⟨⟨fun heq => ?_, fun hne => ?_⟩, fun hnone => ⟨?_, ?_⟩⟩
  · rintro rfl
    -- Any text but the empty one tells the two apart.
    have hmem : "a" ∈ accepted .allowEmpty := by
      rw [heq]
      exact .inr ((hstrict "a").mpr (.inl rfl))
    have hfalse := (hallow "a").mp hmem
    simp at hfalse
  · ext text
    rw [hallow, Set.mem_insert_iff, hstrict, or_iff_right hne, or_comm]
  · ext text
    simp [hstrict, hnone]
  · ext text
    simp [hallow, hnone]

/-- What a field with two statuses accepts, and the empty text where it is allowed. -/
theorem acceptedTexts_allowEmpty_of_statuses :
    let fields : List Field := [⟨"Status", "text", some "Statuses"⟩, ⟨"Status", "number", none⟩]
    let catalog : Option (List ValueList) := some [⟨"Statuses", ["Open", "Closed"]⟩]
    ⟨"Status", .choice ["Open", "Closed"]⟩ ∈ Schema.ofFields fields catalog .strict ∧
      acceptedTexts .validator false (.ofFields fields catalog .allowEmpty) "Status" =
        insert "" (acceptedTexts .validator false (.ofFields fields catalog .strict) "Status") := by
  intro fields catalog
  have h : ⟨"Status", .choice ["Open", "Closed"]⟩ ∈ Schema.ofFields fields catalog .strict := by
    decide
  exact ⟨h, (acceptedTexts_allowEmpty .validator false h).1.mpr (by decide)⟩

/-- A value list without values: the strict type accepts what the other one refuses. -/
theorem acceptedTexts_of_emptyList :
    let fields : List Field := [⟨"Status", "text", some "Statuses"⟩]
    let catalog : Option (List ValueList) := some [⟨"Statuses", []⟩]
    ⟨"Status", .choice []⟩ ∈ Schema.ofFields fields catalog .strict ∧
      acceptedTexts .typesOnly false (.ofFields fields catalog .allowEmpty) "Status" ≠
        insert "" (acceptedTexts .typesOnly false (.ofFields fields catalog .strict) "Status") := by
  intro fields catalog
  have hstrict : ⟨"Status", .choice []⟩ ∈ Schema.ofFields fields catalog .strict := by decide
  have hallow : ⟨"Status", .choice [""]⟩ ∈ Schema.ofFields fields catalog .allowEmpty := by decide
  refine ⟨hstrict, fun heq => ?_⟩
  have hopen : "Open" ∈ acceptedTexts .typesOnly false (.ofFields fields catalog .allowEmpty)
      "Status" := by
    rw [heq]
    exact .inr ((mem_acceptedTexts hstrict).mpr (.inl rfl))
  have hfalse := (mem_acceptedTexts hallow).mp hopen
  simp at hfalse

end Module

end TypedLayouts
