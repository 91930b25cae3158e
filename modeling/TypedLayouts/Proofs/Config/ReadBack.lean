import TypedLayouts.Proofs.Config.Written

/-!
# Configs are read back

A config is read back from its text, whichever of the settings with their default are left out. A
key that no setting has makes a text malformed, wherever it stands.
-/

namespace TypedLayouts.Config

open Toml (Document Entries KeyLine Node)

/-! ## Unknown keys -/

/-- A key that no setting has stands in a document. -/
inductive HasUnknownKey (d : Document) : Prop where
  /-- It is that of a line at the top. -/
  | line {line : KeyLine} (hline : line ∈ d.top) (hkey : line.key ∉ topKeys)
  /-- It is that of a header. -/
  | header {s : Toml.Section} (hs : s ∈ d.sections) (hkey : s.key ∉ topKeys)
  /-- It is among the names of variables. -/
  | name {lines : List KeyLine} {line : KeyLine} (hs : ⟨false, "env_names", lines⟩ ∈ d.sections)
      (hline : line ∈ lines) (hkey : line.key ∉ nameKeys)
  /-- It is in a schema. -/
  | schema {lines : List KeyLine} {line : KeyLine} (hs : ⟨true, "schemas", lines⟩ ∈ d.sections)
      (hline : line ∈ lines) (hkey : line.key ∉ schemaKeys)

section Unknown

variable {σ α : Type} {keys : List (Key σ)} {record : σ} {entries : Entries} {key : String}
  {node : Node}

theorem readEntries_of_unknown (hmem : (key, node) ∈ entries) (hkey : key ∉ keys.map Key.name) :
    readEntries keys record entries = none := by
  refine readEntries_eq_none hmem (fun k hfind => ?_) record
  have hname := List.find?_some hfind
  refine absurd (List.mem_map.mpr ⟨k, List.mem_of_find?_eq_some hfind, ?_⟩) hkey
  exact of_decide_eq_true hname

theorem variableNames_of_unknown (hmem : (key, node) ∈ entries) (hkey : key ∉ nameKeys) :
    variableNames (.table .header entries) = none :=
  readEntries_of_unknown hmem hkey

theorem schema_of_unknown (hmem : (key, node) ∈ entries) (hkey : key ∉ schemaKeys) :
    schema (.table .header entries) = none :=
  Option.bind_eq_none_iff.mpr fun draft hdraft =>
    absurd (hdraft.symm.trans (readEntries_of_unknown hmem hkey)) (Option.some_ne_none draft)

theorem listOf_eq_none {setting : Setting α} {items : List Node} (hmem : node ∈ items)
    (hnone : setting node = none) : listOf setting (.tables items) = none := by
  change items.mapM setting = none
  induction items with
  | nil => cases hmem
  | cons item items ih =>
    rw [List.mapM_cons]
    rcases List.mem_cons.mp hmem with rfl | hmem
    · rw [hnone]
      rfl
    · rw [ih hmem]
      exact Option.bind_eq_none_iff.mpr fun _ _ => rfl

end Unknown

/-- A text with a key that no setting has is no config. -/
theorem ofText_of_hasUnknownKey {d : Document} (h : HasUnknownKey d) (path : Path) :
    ofText d.text path = .error (.malformed path d.text) := by
  have hnone : ofToml? d.text = none := by
    refine Option.bind_eq_none_iff.mpr fun entries hread => ?_
    obtain ⟨htop, hwithin⟩ := Toml.of_ofText_text hread
    cases h with
    | line hline hkey =>
      obtain ⟨node, hfind⟩ := Option.isSome_iff_exists.mp (htop _ hline)
      exact readEntries_of_unknown (Toml.Entries.mem_of_find? hfind) hkey
    | header hs hkey =>
      obtain ⟨node, hfind⟩ := Option.isSome_iff_exists.mp (hwithin _ hs).isSome
      exact readEntries_of_unknown (Toml.Entries.mem_of_find? hfind) hkey
    | name hs hline hkey =>
      obtain ⟨table, hfind, hlines⟩ := hwithin _ hs
      refine readEntries_eq_none (Toml.Entries.mem_of_find? hfind) (fun k hk record => ?_) _
      cases hk
      change (variableNames _).bind _ = none
      rw [variableNames_of_unknown (hlines _ hline) hkey]
      rfl
    | schema hs hline hkey =>
      obtain ⟨items, table, hfind, htable, hlines⟩ := hwithin _ hs
      refine readEntries_eq_none (Toml.Entries.mem_of_find? hfind) (fun k hk record => ?_) _
      cases hk
      change (listOf schema _).bind _ = none
      rw [listOf_eq_none htable (schema_of_unknown (hlines _ hline) hkey)]
      rfl
  unfold ofText
  rw [hnone]

/-- A document and the same with one more key, which no setting has. -/
inductive AddsUnknownKey : Document → Document → Prop where
  /-- The key is that of a line at the top. -/
  | line {above below : List KeyLine} {line : KeyLine} {sections : List Toml.Section}
      (hkey : line.key ∉ topKeys) :
      AddsUnknownKey ⟨above ++ below, sections⟩ ⟨above ++ line :: below, sections⟩
  /-- The key is that of a section. -/
  | header {top : List KeyLine} {front behind : List Toml.Section} {s : Toml.Section}
      (hkey : s.key ∉ topKeys) :
      AddsUnknownKey ⟨top, front ++ behind⟩ ⟨top, front ++ s :: behind⟩
  /-- The key is added to the names of variables. -/
  | name {top above below : List KeyLine} {line : KeyLine} {front behind : List Toml.Section}
      (hkey : line.key ∉ nameKeys) :
      AddsUnknownKey ⟨top, front ++ ⟨false, "env_names", above ++ below⟩ :: behind⟩
        ⟨top, front ++ ⟨false, "env_names", above ++ line :: below⟩ :: behind⟩
  /-- The key is added to names of variables that were left out. -/
  | onlyName {top : List KeyLine} {line : KeyLine} {front behind : List Toml.Section}
      (hkey : line.key ∉ nameKeys) :
      AddsUnknownKey ⟨top, front ++ behind⟩
        ⟨top, front ++ ⟨false, "env_names", [line]⟩ :: behind⟩
  /-- The key is added to a schema. -/
  | schema {top above below : List KeyLine} {line : KeyLine} {front behind : List Toml.Section}
      (hkey : line.key ∉ schemaKeys) :
      AddsUnknownKey ⟨top, front ++ ⟨true, "schemas", above ++ below⟩ :: behind⟩
        ⟨top, front ++ ⟨true, "schemas", above ++ line :: below⟩ :: behind⟩

theorem AddsUnknownKey.hasUnknownKey {d d' : Document} (h : AddsUnknownKey d d') :
    HasUnknownKey d' := by
  cases h with
  | @line above _ _ _ hkey =>
    exact .line (List.mem_append_right above List.mem_cons_self) hkey
  | @header _ front _ _ hkey =>
    exact .header (List.mem_append_right front List.mem_cons_self) hkey
  | @name _ above _ _ front _ hkey =>
    exact .name (List.mem_append_right front List.mem_cons_self)
      (List.mem_append_right above List.mem_cons_self) hkey
  | @onlyName _ _ front _ hkey =>
    exact .name (List.mem_append_right front List.mem_cons_self) List.mem_cons_self hkey
  | @schema _ above _ _ front _ hkey =>
    exact .schema (List.mem_append_right front List.mem_cons_self)
      (List.mem_append_right above List.mem_cons_self) hkey

/-! ## Known keys -/

theorem ofToml?_document (c : Config) (omitted : Omitted) :
    ofToml? (c.document omitted).text = some c := by
  unfold ofToml?
  rw [ofText_document]
  exact readEntries_document c omitted

/-- A config is read back from its text, whichever keys with a default are left out of this, as long
as the names of its schemas can be used. With one more key, which no setting has, the text is
refused. -/
theorem ofText_written (c : Config) (omitted : Omitted) (path : Path) :
    ofText (c.document omitted).text path =
        (match c.check with
        | .ok () => .ok c
        | .error e => .error e) ∧
      ∀ d, AddsUnknownKey (c.document omitted) d →
        ofText d.text path = .error (.malformed path d.text) := by
  refine ⟨?_, fun d hadds => ofText_of_hasUnknownKey hadds.hasUnknownKey path⟩
  unfold ofText
  rw [ofToml?_document]
  cases hcheck : c.check <;> simp only [hcheck]

/-- A schema with a key that it does not take. -/
theorem ofText_written_customer :
    let customer : SchemaConfig :=
      { layout := "API \"Customer\"\n", name := "Customer", strictNumbers := some true }
    let config : Config := { path := ⟨"src\\fm"⟩, schemas := [customer] }
    let omitted : Omitted := ⟨fun _ => true, fun _ => true⟩
    let path : Path := ⟨"layoutgen.toml"⟩
    let refused : Document :=
      ⟨[.setting "path" (.text "src\\fm")],
        [⟨true, "schemas", .setting "use zod" (.flag true) :: schemaLines customer⟩]⟩
    AddsUnknownKey (config.document omitted) refused ∧
      ofText (config.document omitted).text path = .ok config ∧
      ofText refused.text path = .error (.malformed path refused.text) := by
  intro customer config omitted path refused
  have hdocument : config.document omitted =
      ⟨[.setting "path" (.text "src\\fm")], [⟨true, "schemas", schemaLines customer⟩]⟩ := rfl
  have hadds : AddsUnknownKey (config.document omitted) refused := by
    rw [hdocument]
    exact @AddsUnknownKey.schema _ [] _ _ [] [] (by decide)
  have hcheck : config.check = .ok () := by decide +kernel
  obtain ⟨hread, hrefused⟩ := ofText_written config omitted path
  rw [hcheck] at hread
  exact ⟨hadds, hread, hrefused refused hadds⟩

end TypedLayouts.Config
