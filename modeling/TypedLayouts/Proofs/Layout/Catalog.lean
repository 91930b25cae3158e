import TypedLayouts.Module.SchemaModule
import TypedLayouts.Proofs.Layout.Entries

/-!
# The catalog without repetitions

Value lists are looked up by name in the catalog, and the first of a name is found. That is the one
which stays when repetitions are dropped, so dropping them shows in no field and in no portal. For
the same reason a catalog may come without them already, or with further lists of known names at its
end.
-/

namespace TypedLayouts.Layout

variable {field : Field} {fields : List Field} {lists extra : List ValueList} {mode : ValueListMode}

theorem mem_distinctLists_iff {list : ValueList} :
    list ∈ distinctLists lists ↔ IsFirst ValueList.name list lists := by
  unfold distinctLists
  rw [mem_firstsBy_iff]
  simp

theorem distinctLists_distinctLists : distinctLists (distinctLists lists) = distinctLists lists :=
  firstsBy_firstsBy

/-- Lists of known names behind a catalog are dropped again. -/
theorem distinctLists_append (h : ∀ list ∈ extra, list.name ∈ lists.map ValueList.name) :
    distinctLists (lists ++ extra) = distinctLists lists := by
  unfold distinctLists
  rw [firstsBy_append, List.filter_eq_nil_iff.mpr, List.append_nil]
  intro list hlist
  have hknown := h list (firstsBy_sublist.mem hlist)
  simpa using hknown

theorem choices_distinctLists (catalog : Option (List ValueList)) :
    field.choices (catalog.map distinctLists) mode = field.choices catalog mode := by
  unfold Field.choices
  cases catalog with
  | none => rfl
  | some lists =>
    have hfind : ∀ name, ((distinctLists lists).find? fun list => list.name = name) =
        lists.find? fun list => list.name = name :=
      fun name => find?_firstsBy List.not_mem_nil
    simp only [Option.map_some, Option.bind_eq_bind, Option.bind_some, hfind]

/-- A schema is the same under the catalog without repetitions. -/
theorem ofFields_distinctLists (fields : List Field) (catalog : Option (List ValueList)) :
    Schema.ofFields fields (catalog.map distinctLists) mode =
      Schema.ofFields fields catalog mode := by
  unfold Schema.ofFields Field.kind
  simp only [choices_distinctLists]

/-- Metadata with another catalog. -/
def Metadata.withCatalog (metadata : Metadata) (catalog : Option (List ValueList)) : Metadata :=
  { metadata with valueLists := catalog }

/-- The value lists that the schema module of a layout declares. -/
def Metadata.declaredLists (metadata : Metadata) (mode : ValueListMode) : List ValueList :=
  Module.declaredLists (metadata.schemas mode).valueLists

/-- Only the catalog without repetitions counts. -/
theorem schemas_withCatalog {metadata : Metadata} {catalog : Option (List ValueList)}
    (h : catalog.map distinctLists = metadata.valueLists.map distinctLists) :
    (metadata.withCatalog catalog).schemas mode = metadata.schemas mode ∧
      (metadata.withCatalog catalog).declaredLists mode = metadata.declaredLists mode := by
  have hschemas : (metadata.withCatalog catalog).schemas mode = metadata.schemas mode := by
    unfold Metadata.schemas Metadata.withCatalog
    simp only [h]
  refine ⟨hschemas, ?_⟩
  unfold Metadata.declaredLists
  rw [hschemas]

/-- Fields and portals have the schemas that the catalog gives them as it came. The catalog without
repetitions has each name once, with the first list that came with it, and dropping repetitions from
it once more changes nothing. So a layout has the same schemas, and its module declares the same
lists, when its catalog comes without repetitions or with more of them at the end. -/
theorem repetitions_have_no_effect (metadata : Metadata) (mode : ValueListMode) :
    (metadata.schemas mode).schema = .ofFields metadata.fields metadata.valueLists mode ∧
      (metadata.schemas mode).portals = metadata.portals.entries.map (fun (name, fields) =>
        ⟨name, .ofFields fields metadata.valueLists mode⟩) ∧
      (∀ lists, distinctLists (distinctLists lists) = distinctLists lists ∧
        (distinctLists lists).Sublist lists ∧ ((distinctLists lists).map ValueList.name).Nodup ∧
        ∀ list ∈ lists, ∃ first ∈ distinctLists lists,
          first.name = list.name ∧ IsFirst ValueList.name first lists) ∧
      ((metadata.withCatalog (metadata.valueLists.map distinctLists)).schemas mode =
          metadata.schemas mode ∧
        (metadata.withCatalog (metadata.valueLists.map distinctLists)).declaredLists mode =
          metadata.declaredLists mode) ∧
      ∀ lists extra, metadata.valueLists = some lists →
        (∀ list ∈ extra, list.name ∈ lists.map ValueList.name) →
        (metadata.withCatalog (some (lists ++ extra))).schemas mode = metadata.schemas mode ∧
          (metadata.withCatalog (some (lists ++ extra))).declaredLists mode =
            metadata.declaredLists mode := by
  refine ⟨?_, ?_, fun lists => ⟨distinctLists_distinctLists, firstsBy_sublist,
    nodup_keys_firstsBy, fun list hlist => ?_⟩, ?_, fun lists extra hlists hknown => ?_⟩
  · exact ofFields_distinctLists metadata.fields metadata.valueLists
  · refine List.map_congr_left fun portal _ => ?_
    exact congrArg (Portal.mk portal.1) (ofFields_distinctLists portal.2 metadata.valueLists)
  · obtain ⟨first, hfirst, hname⟩ :
        ∃ first, IsFirst ValueList.name first lists ∧ first.name = list.name := exists_isFirst hlist
    exact ⟨first, mem_distinctLists_iff.mpr hfirst, hname, hfirst⟩
  · refine schemas_withCatalog ?_
    cases metadata.valueLists with
    | none => rfl
    | some lists => exact congrArg some distinctLists_distinctLists
  · refine schemas_withCatalog ?_
    rw [hlists]
    exact congrArg some (distinctLists_append hknown)

end TypedLayouts.Layout
