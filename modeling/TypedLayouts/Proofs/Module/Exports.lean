import Mathlib.Data.List.Nodup
import TypedLayouts.Config.Check
import TypedLayouts.Proofs.Layout.Firsts
import TypedLayouts.Proofs.Module.Backends
import TypedLayouts.Proofs.TypeScript.Scope
import TypedLayouts.Run.Generation

/-!
# Exports of schema modules

A schema module exports the names of its declarations. Each is a letter and a stem: the letter tells
a type from a validator, the stem is made from the fragment of a layout, portal or value list. So no
name is exported twice exactly when no stem comes twice.

Between value lists that is seen to when they are chosen for declaration. All other stems come as
the server names the portals and lists. When these are apart from one another and from the stems of
the layout is said by `NamesApart`.
-/

namespace TypedLayouts.Module

open Identifier (fragment)
open Layout TypeScript

namespace Blueprint

variable (b : Blueprint)

/-! ## What a schema module exports -/

/-- A module with types alone exports the types of its declarations. -/
theorem exports_typesModule : b.typesModule.exports = b.declarations.map Declaration.name := by
  unfold Document.exports
  rw [typesModule_body, List.flatMap_map, List.map_eq_flatMap]
  rfl

/-- A module with validators exports the validators and types of its declarations. -/
theorem exports_validatorModule (hv : b.backend = .validator) :
    b.validatorModule.exports = b.declarations.flatMap fun d => [d.constant, d.name] := by
  unfold Document.exports
  rw [validatorModule_body b hv, List.flatMap_cons, List.flatMap_assoc]
  rfl

/-- The type of a declaration is exported by either backend. -/
theorem name_mem_exports {d : Declaration} (h : d ∈ b.declarations) :
    d.name ∈ b.schemaModule.exports := by
  unfold schemaModule
  cases hbackend : b.backend with
  | validator =>
    show d.name ∈ b.validatorModule.exports
    rw [exports_validatorModule b hbackend]
    exact List.mem_flatMap.mpr ⟨d, h, List.mem_cons_of_mem _ List.mem_cons_self⟩
  | typesOnly =>
    show d.name ∈ b.typesModule.exports
    rw [exports_typesModule]
    exact List.mem_map_of_mem h

/-- The validator of a declaration is exported where there are validators. -/
theorem constant_mem_exports (hv : b.backend = .validator) {d : Declaration}
    (h : d ∈ b.declarations) : d.constant ∈ b.schemaModule.exports := by
  unfold schemaModule
  rw [hv]
  show d.constant ∈ b.validatorModule.exports
  rw [exports_validatorModule b hv]
  exact List.mem_flatMap.mpr ⟨d, h, List.mem_cons_self⟩

/-- The records of the layout are declared. -/
theorem recordDeclaration_mem :
    b.recordDeclaration b.name b.schemas.schema ∈ b.declarations :=
  List.mem_append_left _ (List.mem_append_left _ List.mem_cons_self)

/-- The table of portals is declared where there are portals. -/
theorem portalsDeclaration_mem (hp : b.hasPortals = true) :
    b.portalsDeclaration ∈ b.declarations := by
  unfold declarations
  rw [if_pos hp]
  exact List.mem_append_left _ (List.mem_append_right _ List.mem_cons_self)

/-! ## Stems -/

/-- The stems of the records of the layout and of each portal. -/
def recordStems : List String :=
  fragment b.name :: b.schemas.portals.map fun portal => fragment portal.name

/-- The stem of the table of all portals, where there are portals. -/
def tableStems : List String :=
  if b.hasPortals then [fragment b.name ++ "Portals"] else []

/-- The stems of the value lists that are declared. -/
def listStems : List String :=
  (declaredLists b.schemas.valueLists).map fun list => "VL" ++ fragment list.name

/-- The stems of everything that the schema module of a layout declares, in order. -/
def stems : List String :=
  b.recordStems ++ b.tableStems ++ b.listStems

/-- The declaration of a value list is named by its stem. -/
theorem listDeclaration_stem (list : ValueList) :
    ((listDeclaration list).constant, (listDeclaration list).name) =
      ("Z" ++ ("VL" ++ fragment list.name), "T" ++ ("VL" ++ fragment list.name)) := by
  rw [← String.append_assoc, ← String.append_assoc]
  rfl

/-- A declaration is named by its stem, with a letter for the validator and one for the type. -/
theorem declarations_stems :
    b.declarations.map (fun d => (d.constant, d.name)) =
      b.stems.map fun stem => ("Z" ++ stem, "T" ++ stem) := by
  have htable : (portalsValidatorName b.name, portalsTypeName b.name) =
      ("Z" ++ (fragment b.name ++ "Portals"), "T" ++ (fragment b.name ++ "Portals")) := by
    unfold portalsValidatorName portalsTypeName
    rw [String.append_assoc, String.append_assoc]
  unfold declarations stems
  rw [List.map_append, List.map_append, List.map_append, List.map_append]
  congr 1
  · congr 1
    · unfold recordDeclarations recordStems
      rw [List.map_cons, List.map_cons, List.map_map, List.map_map]
      rfl
    · unfold tableStems
      cases b.hasPortals with
      | true => exact congrArg (fun names => [names]) htable
      | false => rfl
  · unfold listStems
    rw [List.map_map, List.map_map]
    exact List.map_congr_left fun list _ => listDeclaration_stem list

/-- One letter in front keeps stems apart. -/
theorem letter_injective (letter : String) : Function.Injective (letter ++ ·) :=
  fun _ _ h => (String.append_right_inj letter).mp h

/-- The letters keep types and validators apart. -/
theorem validator_ne_type (s t : String) : "Z" ++ s ≠ "T" ++ t := by
  intro h
  have hlist := congrArg String.toList h
  rw [String.toList_append, String.toList_append] at hlist
  exact absurd (List.head_eq_of_cons_eq hlist) (by decide)

/-- Validators and types together come once each when their stems do. -/
theorem nodup_pairs_iff (stems : List String) :
    (stems.flatMap fun stem => ["Z" ++ stem, "T" ++ stem]).Nodup ↔ stems.Nodup := by
  have hpair : ∀ s t : String,
      List.Disjoint ["Z" ++ s, "T" ++ s] ["Z" ++ t, "T" ++ t] ↔ s ≠ t := by
    intro s t
    constructor
    · rintro hd rfl
      exact hd List.mem_cons_self List.mem_cons_self
    · intro hne name hs ht
      simp only [List.mem_cons, List.not_mem_nil, or_false] at hs ht
      rcases hs with rfl | rfl
      · rcases ht with ht | ht
        · exact hne (letter_injective "Z" ht)
        · exact validator_ne_type s t ht
      · rcases ht with ht | ht
        · exact validator_ne_type t s ht.symm
        · exact hne (letter_injective "T" ht)
  rw [List.nodup_flatMap]
  constructor
  · intro h
    exact h.2.imp fun {s t} hd => (hpair s t).mp hd
  · intro h
    refine ⟨fun stem _ => ?_, h.imp fun {s t} hne => (hpair s t).mpr hne⟩
    rw [List.nodup_cons]
    refine ⟨?_, List.nodup_singleton _⟩
    rw [List.mem_singleton]
    exact validator_ne_type stem stem

/-- A name is exported twice when a stem comes twice, whatever the backend. -/
theorem nodup_exports_iff_stems : b.schemaModule.exports.Nodup ↔ b.stems.Nodup := by
  unfold schemaModule
  cases hbackend : b.backend with
  | validator =>
    show b.validatorModule.exports.Nodup ↔ _
    have hexports : b.validatorModule.exports =
        b.stems.flatMap fun stem => ["Z" ++ stem, "T" ++ stem] := by
      have hpairs := congrArg (List.flatMap fun names => [names.1, names.2]) b.declarations_stems
      rw [List.flatMap_map, List.flatMap_map] at hpairs
      rw [exports_validatorModule b hbackend]
      exact hpairs
    rw [hexports]
    exact nodup_pairs_iff b.stems
  | typesOnly =>
    show b.typesModule.exports.Nodup ↔ _
    have hexports : b.typesModule.exports = b.stems.map ("T" ++ ·) := by
      have hpairs := congrArg (List.map Prod.snd) b.declarations_stems
      rw [List.map_map, List.map_map] at hpairs
      rw [exports_typesModule]
      exact hpairs
    rw [hexports]
    exact List.nodup_map_iff (letter_injective "T")

/-! ## When the stems are apart -/

/-- A value list that has values gives its stem, whether or not it is the one declared by it. -/
theorem mem_listStems {stem : String} :
    stem ∈ b.listStems ↔
      ∃ list ∈ b.schemas.valueLists, list.values ≠ [] ∧ stem = "VL" ++ fragment list.name := by
  have hstems : b.listStems =
      ((declaredLists b.schemas.valueLists).map fun list => fragment list.name).map
        ("VL" ++ ·) := by
    unfold listStems
    rw [List.map_map]
    rfl
  unfold declaredLists at hstems
  rw [hstems, List.mem_map]
  constructor
  · rintro ⟨key, hkey, rfl⟩
    obtain ⟨list, hlist, rfl⟩ := List.mem_map.mp (mem_keys_firstsBy.mp hkey).1
    obtain ⟨hmem, hvalues⟩ := List.mem_filter.mp hlist
    exact ⟨list, hmem, by simpa using hvalues, rfl⟩
  · rintro ⟨list, hmem, hvalues, rfl⟩
    refine ⟨fragment list.name, mem_keys_firstsBy.mpr ⟨?_, List.not_mem_nil⟩, rfl⟩
    refine List.mem_map.mpr ⟨list, List.mem_filter.mpr ⟨hmem, ?_⟩, rfl⟩
    simpa using hvalues

/-- No stem comes from two of the declared value lists. -/
theorem nodup_listStems : b.listStems.Nodup := by
  have hkeys : ((declaredLists b.schemas.valueLists).map fun list => fragment list.name).Nodup :=
    nodup_keys_firstsBy
  have hstems := hkeys.map (letter_injective "VL")
  rw [List.map_map] at hstems
  exact hstems

/-- The table of all portals has a stem where there are portals. -/
theorem mem_tableStems {stem : String} :
    stem ∈ b.tableStems ↔ b.schemas.portals ≠ [] ∧ stem = fragment b.name ++ "Portals" := by
  unfold tableStems hasPortals
  cases b.schemas.portals with
  | nil => simp
  | cons portal portals => simp

/-- The names that the server gives to portals and value lists are apart from one another and from
the name of the layout, as far as generated modules go. -/
structure NamesApart (b : Blueprint) : Prop where
  /-- No two portals have one fragment. -/
  portals : (b.schemas.portals.map fun portal => fragment portal.name).Nodup
  /-- No portal is called like the layout. -/
  layout : ∀ portal ∈ b.schemas.portals, fragment portal.name ≠ fragment b.name
  /-- No portal is called like the table of all portals. -/
  table : ∀ portal ∈ b.schemas.portals, fragment portal.name ≠ fragment b.name ++ "Portals"
  /-- No value list with values is called like the layout. -/
  listsLayout : ∀ list ∈ b.schemas.valueLists, list.values ≠ [] →
    "VL" ++ fragment list.name ≠ fragment b.name
  /-- No value list with values is called like a portal. -/
  listsPortals : ∀ list ∈ b.schemas.valueLists, list.values ≠ [] →
    ∀ portal ∈ b.schemas.portals, "VL" ++ fragment list.name ≠ fragment portal.name
  /-- No value list with values is called like the table of all portals. -/
  listsTable : ∀ list ∈ b.schemas.valueLists, list.values ≠ [] → b.schemas.portals ≠ [] →
    "VL" ++ fragment list.name ≠ fragment b.name ++ "Portals"

/-- The name of the table of all portals is never that of the layout. -/
theorem table_ne_layout (stem : String) : stem ++ "Portals" ≠ stem := by
  intro h
  have hlength := congrArg String.length h
  rw [String.length_append] at hlength
  have hsuffix : "Portals".length = 7 := by decide
  omega

/-- The records of a portal have a stem. -/
theorem mem_recordStems {portal : Portal} (h : portal ∈ b.schemas.portals) :
    fragment portal.name ∈ b.recordStems :=
  List.mem_cons_of_mem _ (List.mem_map_of_mem h)

/-- There is at most one table of all portals. -/
theorem nodup_tableStems : b.tableStems.Nodup := by
  unfold tableStems
  split
  · exact List.nodup_singleton _
  · exact List.nodup_nil

/-- The names are apart when no stem comes twice. -/
theorem namesApart_of_nodup (h : b.stems.Nodup) : b.NamesApart := by
  obtain ⟨hfront, _, hlists⟩ := List.nodup_append.mp h
  obtain ⟨hrecords, _, htable⟩ := List.nodup_append.mp hfront
  obtain ⟨hlayout, hportals⟩ := List.nodup_cons.mp hrecords
  have hstem : ∀ list ∈ b.schemas.valueLists, list.values ≠ [] →
      "VL" ++ fragment list.name ∈ b.listStems :=
    fun list hmem hvalues => b.mem_listStems.mpr ⟨list, hmem, hvalues, rfl⟩
  refine ⟨hportals, ?layout, ?table, ?listsLayout, ?listsPortals, ?listsTable⟩
  case layout =>
    intro portal hportal he
    exact hlayout (List.mem_map.mpr ⟨portal, hportal, he⟩)
  case table =>
    intro portal hportal
    have hne : b.schemas.portals ≠ [] := List.ne_nil_of_mem hportal
    exact htable _ (b.mem_recordStems hportal) _ (b.mem_tableStems.mpr ⟨hne, rfl⟩)
  case listsLayout =>
    intro list hmem hvalues he
    exact hlists _ (List.mem_append_left _ List.mem_cons_self) _ (hstem list hmem hvalues) he.symm
  case listsPortals =>
    intro list hmem hvalues portal hportal he
    exact hlists _ (List.mem_append_left _ (b.mem_recordStems hportal)) _
      (hstem list hmem hvalues) he.symm
  case listsTable =>
    intro list hmem hvalues hne he
    exact hlists _ (List.mem_append_right _ (b.mem_tableStems.mpr ⟨hne, rfl⟩)) _
      (hstem list hmem hvalues) he.symm

/-- No stem comes twice when the names are apart. -/
theorem NamesApart.nodup {b : Blueprint} (h : b.NamesApart) : b.stems.Nodup := by
  refine List.nodup_append.mpr ⟨?_, b.nodup_listStems, ?_⟩
  · refine List.nodup_append.mpr ⟨?_, b.nodup_tableStems, ?_⟩
    · refine List.nodup_cons.mpr ⟨?_, h.portals⟩
      intro hmem
      obtain ⟨portal, hportal, he⟩ := List.mem_map.mp hmem
      exact h.layout portal hportal he
    · intro stem hrecord stem' htable
      obtain ⟨_, rfl⟩ := b.mem_tableStems.mp htable
      rcases List.mem_cons.mp hrecord with rfl | hrecord
      · exact (table_ne_layout (fragment b.name)).symm
      · obtain ⟨portal, hportal, rfl⟩ := List.mem_map.mp hrecord
        exact h.table portal hportal
  · intro stem hfront stem' hlist he
    obtain ⟨list, hmem, hvalues, rfl⟩ := b.mem_listStems.mp hlist
    rcases List.mem_append.mp hfront with hrecord | htable
    · rcases List.mem_cons.mp hrecord with rfl | hrecord
      · exact h.listsLayout list hmem hvalues he.symm
      · obtain ⟨portal, hportal, rfl⟩ := List.mem_map.mp hrecord
        exact h.listsPortals list hmem hvalues portal hportal he.symm
    · obtain ⟨hne, rfl⟩ := b.mem_tableStems.mp htable
      exact h.listsTable list hmem hvalues hne he.symm

/-- A schema module exports no name twice exactly when the names of the layout, its portals and its
value lists are apart, which nothing checks. -/
theorem nodup_exports_iff : b.schemaModule.exports.Nodup ↔ b.NamesApart :=
  b.nodup_exports_iff_stems.trans ⟨b.namesApart_of_nodup, NamesApart.nodup⟩

end Blueprint

/-- A schema of orders. -/
def orders : SchemaConfig where
  layout := "API_Orders"
  name := "Orders"

/-- Metadata with two portals on one table. The second is called as the first but for a number,
which its fragment does not keep. -/
def numberedPortals : Metadata where
  fields := [{ name := "Id" }]
  portals :=
    ⟨[("Line Items", [{ name := "LineItems::Part" }]),
        ("Line Items 2", [{ name := "LineItems 2::Amount", result := "number" }])],
      by unfold KeysIncreasing; decide⟩

/-- That a config is accepted does not keep the names apart. -/
theorem exports_not_nodup :
    ¬ ∀ (run : Run) (schema : SchemaConfig) (metadata : Metadata),
      run.config.check = .ok () → schema ∈ run.config.schemas →
        (run.blueprint schema metadata).schemaModule.exports.Nodup := by
  intro h
  have hrun := h { config := { schemas := [orders] }, envNames := {} } orders numberedPortals
    (by decide) List.mem_cons_self
  revert hrun
  decide

end TypedLayouts.Module
