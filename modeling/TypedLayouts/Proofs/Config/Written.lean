import TypedLayouts.Config.Format
import TypedLayouts.Proofs.Toml.Tables

/-!
# Configs as documents

A config is written with a line for each of its settings, a section with the names of variables and
one for each schema. A setting that has its default may be left out. Reading the entries of such a
document gives the config again.
-/

namespace TypedLayouts.Config

open Layout (ValueListMode)
open TypedLayouts.Module (Backend)
open Toml (Document Entries KeyLine Node Value)

/-! ## Writing -/

/-- The word for a backend. -/
def backendWord : Backend → String
  | .typesOnly => "types-only"
  | .validator => "validator"

/-- The word for a value list mode. -/
def valueListWord : ValueListMode → String
  | .strict => "strict"
  | .allowEmpty => "allow-empty"
  | .ignore => "ignore"

section Lines

variable {α : Type} [DecidableEq α]

/-- The line of a setting. Keys that are left out have none if the setting is the default. -/
def settingLine (left : String → Bool) (key : String) (written : α → Value) (a default : α) :
    List KeyLine :=
  if left key ∧ a = default then [] else [.setting key (written a)]

/-- The line of a setting that may have no value, and has no line then. -/
def optionalLine (key : String) (written : α → Value) (a : Option α) : List KeyLine :=
  (a.map fun a => .setting key (written a)).toList

end Lines

/-- Which keys are left out if they have their default. -/
structure Omitted where
  /-- Of the config itself. -/
  top : String → Bool
  /-- Of the names of variables. -/
  names : String → Bool

/-- The lines of the settings of a config. -/
def settingLines (c : Config) (left : String → Bool) : List KeyLine :=
  let default : Config := {}
  settingLine left "path" .text c.path.text default.path.text ++
    settingLine left "generate_client" .flag c.generateClient default.generateClient ++
    settingLine left "backend" (.text <| backendWord ·) c.backend default.backend ++
    settingLine left "strict_numbers" .flag c.strictNumbers default.strictNumbers ++
    settingLine left "value_lists" (.text <| valueListWord ·) c.valueLists default.valueLists ++
    optionalLine "webviewer_script_name" .text c.webViewerScript ++
    optionalLine "token_store_config" .text (c.tokenStoreFile.map Path.text)

/-- The lines of the names of variables. -/
def nameLines (v : VariableNames) (left : String → Bool) : List KeyLine :=
  let default : VariableNames := {}
  settingLine left "server" .text v.server default.server ++
    settingLine left "db" .text v.database default.database ++
    settingLine left "api_key" .text v.apiKey default.apiKey ++
    settingLine left "username" .text v.username default.username ++
    settingLine left "password" .text v.password default.password ++
    settingLine left "otto_port" .text v.proxyPort default.proxyPort

/-- The lines of a schema. -/
def schemaLines (s : SchemaConfig) : List KeyLine :=
  .setting "layout" (.text s.layout) :: .setting "schema_name" (.text s.name) ::
    (optionalLine "backend" (.text <| backendWord ·) s.backend ++
      optionalLine "strict_numbers" .flag s.strictNumbers ++
      optionalLine "value_lists" (.text <| valueListWord ·) s.valueLists ++
      optionalLine "generate_client" .flag s.generateClient)

/-- A config without schemas says so in a line, unless this is left out. -/
def noSchemasLine (c : Config) (left : String → Bool) : List KeyLine :=
  if c.schemas = [] ∧ ¬ left "schemas" then [.setting "schemas" .nothing] else []

/-- The section with the names of variables, unless it is left out. -/
def nameSection (c : Config) (omitted : Omitted) : List Toml.Section :=
  if omitted.top "env_names" ∧ c.environment = {} then []
  else [⟨false, "env_names", nameLines c.environment omitted.names⟩]

/-- A config as a document. -/
def document (c : Config) (omitted : Omitted) : Document where
  top := settingLines c omitted.top ++ noSchemasLine c omitted.top
  sections := nameSection c omitted ++ (c.schemas.map schemaLines).map (.mk true "schemas")

/-! ## Reading entries -/

section Reading

variable {σ α : Type} {keys : List (Key σ)} {record next : σ}

theorem readEntries_cons {key : String} {k : Key σ} {node : Node}
    (hkey : keys.find? (·.name = key) = some k) (hread : k.read node record = some next)
    (rest : Entries) :
    readEntries keys record ((key, node) :: rest) = readEntries keys next rest := by
  rw [readEntries, hkey]
  simp only [Option.bind_eq_bind, Option.bind_some, hread]

theorem readEntries_setting {setting : Setting α} {written : α → Value}
    (hwritten : ∀ a, setting (written a).node = some a) {key : String} {k : Key σ} {set : α → σ}
    (hkey : keys.find? (·.name = key) = some k)
    (hread : ∀ node, k.read node record = (setting node).bind fun a => some (set a)) (a : α)
    (rest : Entries) :
    readEntries keys record ((KeyLine.setting key (written a)).entry :: rest) =
      readEntries keys (set a) rest := by
  refine readEntries_cons hkey ?_ rest
  rw [hread]
  change (setting (written a).node).bind _ = _
  rw [hwritten]
  rfl

theorem readEntries_settingLine [DecidableEq α] {setting : Setting α} {written : α → Value}
    (hwritten : ∀ a, setting (written a).node = some a) {key : String} {k : Key σ} {set : α → σ}
    (hkey : keys.find? (·.name = key) = some k)
    (hread : ∀ node, k.read node record = (setting node).bind fun a => some (set a))
    {default : α} (hdefault : set default = record) (left : String → Bool) (a : α)
    (rest : Entries) :
    readEntries keys record
      ((settingLine left key written a default).map KeyLine.entry ++ rest) =
        readEntries keys (set a) rest := by
  unfold settingLine
  split
  · rename_i hleft
    rw [hleft.2, hdefault]
    rfl
  · exact readEntries_setting hwritten hkey hread a rest

theorem readEntries_optionalLine {setting : Setting α} {written : α → Value}
    (hwritten : ∀ a, setting (written a).node = some a) (set : Option α → σ) {key : String}
    {k : Key σ} (hkey : keys.find? (·.name = key) = some k)
    (hread : ∀ node, k.read node record = (setting node).bind fun a => some (set (some a)))
    (hnone : set none = record) (a : Option α) (rest : Entries) :
    readEntries keys record ((optionalLine key written a).map KeyLine.entry ++ rest) =
      readEntries keys (set a) rest := by
  cases a with
  | none =>
    rw [hnone]
    rfl
  | some a => exact readEntries_setting hwritten hkey hread a rest

/-- Entries cannot be read if one of them has a key without a setting, or a value that the setting
does not take. -/
theorem readEntries_eq_none {entries : Entries} {key : String} {node : Node}
    (hmem : (key, node) ∈ entries)
    (hread : ∀ k, keys.find? (·.name = key) = some k → ∀ record, k.read node record = none)
    (record : σ) : readEntries keys record entries = none := by
  induction entries generalizing record with
  | nil => cases hmem
  | cons e entries ih =>
    obtain ⟨name, found⟩ := e
    rw [readEntries]
    rcases List.mem_cons.mp hmem with heq | hmem
    · obtain ⟨rfl, rfl⟩ := Prod.mk.inj heq
      cases hkey : keys.find? (·.name = key) with
      | none => rfl
      | some k =>
        simp only [Option.bind_eq_bind, Option.bind_some, hread k hkey record, Option.bind_none]
    · refine Option.bind_eq_none_iff.mpr fun k _ => ?_
      exact Option.bind_eq_none_iff.mpr fun next _ => ih hmem next

end Reading

theorem word_backendWord (b : Backend) :
    word backendOf (Value.text (backendWord b)).node = some b := by
  cases b <;> rfl

theorem word_valueListWord (m : ValueListMode) :
    word valueListModeOf (Value.text (valueListWord m)).node = some m := by
  cases m <;> rfl

theorem text_text (s : String) : text (Value.text s).node = some s :=
  rfl

theorem flag_flag (b : Bool) : flag (Value.flag b).node = some b :=
  rfl

theorem readEntries_settingLines (c : Config) (left : String → Bool) (rest : Entries) :
    readEntries keys {} ((settingLines c left).map KeyLine.entry ++ rest) =
      readEntries keys { c with environment := {}, schemas := [] } rest := by
  unfold settingLines
  simp only [List.map_append, List.append_assoc]
  rw [readEntries_settingLine text_text (by rfl) (fun _ => by rfl) (by rfl),
    readEntries_settingLine flag_flag (by rfl) (fun _ => by rfl) (by rfl),
    readEntries_settingLine word_backendWord (by rfl) (fun _ => by rfl) (by rfl),
    readEntries_settingLine flag_flag (by rfl) (fun _ => by rfl) (by rfl),
    readEntries_settingLine word_valueListWord (by rfl) (fun _ => by rfl) (by rfl)]
  rw [readEntries_optionalLine text_text
      (fun o => { c with
        webViewerScript := o, tokenStoreFile := none, environment := {}, schemas := [] })
      (by rfl) (fun _ => by rfl) (by rfl),
    readEntries_optionalLine text_text
      (fun o => { c with tokenStoreFile := o.map Path.mk, environment := {}, schemas := [] })
      (by rfl) (fun _ => by rfl) (by rfl)]
  cases c.tokenStoreFile <;> rfl

theorem variableNames_nameLines (v : VariableNames) (left : String → Bool) :
    variableNames (.table .header ((nameLines v left).map KeyLine.entry)) = some v := by
  rw [← List.append_nil (List.map _ _)]
  unfold variableNames readRecord nameLines
  simp only [List.map_append, List.append_assoc]
  rw [readEntries_settingLine text_text (by rfl) (fun _ => by rfl) (by rfl),
    readEntries_settingLine text_text (by rfl) (fun _ => by rfl) (by rfl),
    readEntries_settingLine text_text (by rfl) (fun _ => by rfl) (by rfl),
    readEntries_settingLine text_text (by rfl) (fun _ => by rfl) (by rfl),
    readEntries_settingLine text_text (by rfl) (fun _ => by rfl) (by rfl),
    readEntries_settingLine text_text (by rfl) (fun _ => by rfl) (by rfl)]
  rfl

theorem schema_schemaLines (s : SchemaConfig) :
    schema (.table .header ((schemaLines s).map KeyLine.entry)) = some s := by
  rw [← List.append_nil (List.map _ _)]
  unfold schema readRecord schemaLines
  simp only [List.map_cons, List.map_append, List.cons_append, List.append_assoc,
    KeyLine.entry_setting]
  rw [readEntries_cons (by rfl) (by rfl), readEntries_cons (by rfl) (by rfl),
    readEntries_optionalLine word_backendWord
      (fun o => (⟨some s.layout, some s.name, o, none, none, none⟩ : SchemaDraft))
      (by rfl) (fun _ => by rfl) (by rfl),
    readEntries_optionalLine flag_flag
      (fun o => (⟨some s.layout, some s.name, s.backend, o, none, none⟩ : SchemaDraft))
      (by rfl) (fun _ => by rfl) (by rfl),
    readEntries_optionalLine word_valueListWord
      (fun o => (⟨some s.layout, some s.name, s.backend, s.strictNumbers, o, none⟩ : SchemaDraft))
      (by rfl) (fun _ => by rfl) (by rfl),
    readEntries_optionalLine flag_flag
      (fun o => (⟨some s.layout, some s.name, s.backend, s.strictNumbers, s.valueLists, o⟩ :
        SchemaDraft))
      (by rfl) (fun _ => by rfl) (by rfl)]
  rfl

theorem listOf_schemaLines (schemas : List SchemaConfig) :
    listOf schema (.tables (schemas.map fun s =>
      .table .header ((schemaLines s).map KeyLine.entry))) = some schemas := by
  change (schemas.map _).mapM schema = _
  induction schemas with
  | nil => rfl
  | cons s schemas ih =>
    rw [List.map_cons, List.mapM_cons, schema_schemaLines, ih]
    rfl

/-! ## Keys -/

/-- The keys of a config with single values. -/
def settingKeys : List String :=
  ["path", "generate_client", "backend", "strict_numbers", "value_lists", "webviewer_script_name",
    "token_store_config"]

/-- The keys of a config. -/
def topKeys : List String :=
  settingKeys ++ ["env_names", "schemas"]

/-- The keys of the names of variables. -/
def nameKeys : List String :=
  ["server", "db", "api_key", "username", "password", "otto_port"]

/-- The keys of a schema. -/
def schemaKeys : List String :=
  ["layout", "schema_name", "backend", "strict_numbers", "value_lists", "generate_client"]

section Sublists

variable {α : Type} (key : String) (written : α → Value)

theorem keys_settingLine [DecidableEq α] (left : String → Bool) (a default : α) :
    List.Sublist ((settingLine left key written a default).map KeyLine.key) [key] := by
  unfold settingLine
  split
  · exact List.nil_sublist _
  · exact List.Sublist.refl _

theorem keys_optionalLine (a : Option α) :
    List.Sublist ((optionalLine key written a).map KeyLine.key) [key] := by
  cases a with
  | none => exact List.nil_sublist _
  | some a => exact List.Sublist.refl _

end Sublists

theorem keys_settingLines (c : Config) (left : String → Bool) :
    List.Sublist ((settingLines c left).map KeyLine.key) settingKeys := by
  unfold settingLines
  simp only [List.map_append]
  exact (((((((keys_settingLine ..).append (keys_settingLine ..)).append
    (keys_settingLine ..)).append (keys_settingLine ..)).append (keys_settingLine ..)).append
    (keys_optionalLine ..)).append (keys_optionalLine ..))

theorem keys_nameLines (v : VariableNames) (left : String → Bool) :
    List.Sublist ((nameLines v left).map KeyLine.key) nameKeys := by
  unfold nameLines
  simp only [List.map_append]
  exact (((((keys_settingLine ..).append (keys_settingLine ..)).append
    (keys_settingLine ..)).append (keys_settingLine ..)).append (keys_settingLine ..)).append
    (keys_settingLine ..)

theorem keys_schemaLines (s : SchemaConfig) :
    List.Sublist ((schemaLines s).map KeyLine.key) schemaKeys := by
  unfold schemaLines
  simp only [List.map_cons, List.map_append]
  exact ((((keys_optionalLine ..).append (keys_optionalLine ..)).append
    (keys_optionalLine ..)).append (keys_optionalLine ..)).cons_cons _ |>.cons_cons _

/-! ## Whole configs -/

/-- The table with the names of variables, unless it is left out. -/
def nameEntries (c : Config) (omitted : Omitted) : Entries :=
  (nameSection c omitted).map fun s => (s.key, .table .header (s.lines.map KeyLine.entry))

/-- The tables of the schemas, if there are any. -/
def schemaEntries (c : Config) : Entries :=
  if c.schemas = [] then []
  else [("schemas", .tables (c.schemas.map fun s =>
    .table .header ((schemaLines s).map KeyLine.entry)))]

theorem keys_noSchemasLine (c : Config) (left : String → Bool) :
    List.Sublist ((noSchemasLine c left).map KeyLine.key) ["schemas"] := by
  unfold noSchemasLine
  split
  · exact List.Sublist.refl _
  · exact List.nil_sublist _

theorem keys_nameEntries (c : Config) (omitted : Omitted) :
    List.Sublist ((nameEntries c omitted).map Prod.fst) ["env_names"] := by
  unfold nameEntries nameSection
  split
  · exact List.nil_sublist _
  · exact List.Sublist.refl _

theorem keys_top (c : Config) (omitted : Omitted) :
    List.Sublist ((c.document omitted).top.map KeyLine.key) (settingKeys ++ ["schemas"]) := by
  unfold document
  rw [List.map_append]
  exact (keys_settingLines c omitted.top).append (keys_noSchemasLine c omitted.top)

theorem addTo_nameSection (c : Config) (omitted : Omitted) {entries : Entries}
    (h : "env_names" ∉ entries.map Prod.fst) :
    (nameSection c omitted).foldlM Toml.Section.addTo entries =
      some (entries ++ nameEntries c omitted) := by
  unfold nameEntries nameSection
  split
  · exact congrArg some (List.append_nil entries).symm
  · have hlines := (keys_nameLines c.environment omitted.names).nodup (by decide)
    rw [List.foldlM_cons, Toml.addTo_table h hlines]
    rfl

theorem addTo_schemaSections (c : Config) {entries : Entries}
    (h : c.schemas ≠ [] → "schemas" ∉ entries.map Prod.fst) :
    ((c.schemas.map schemaLines).map (.mk true "schemas")).foldlM Toml.Section.addTo entries =
      some (entries ++ schemaEntries c) := by
  unfold schemaEntries
  cases hschemas : c.schemas with
  | nil => exact congrArg some (List.append_nil entries).symm
  | cons s schemas =>
    have hlines : ∀ lines ∈ schemaLines s :: schemas.map schemaLines,
        (lines.map KeyLine.key).Nodup := by
      intro lines hmem
      obtain ⟨s', -, rfl⟩ := List.mem_map.mp (show lines ∈ (s :: schemas).map schemaLines from hmem)
      exact (keys_schemaLines s').nodup (by decide)
    have hnew := h (hschemas ▸ List.cons_ne_nil s schemas)
    rw [if_neg (List.cons_ne_nil s schemas), List.map_cons, Toml.addTo_tables hnew hlines,
      List.map_cons, List.map_map]
    rfl

theorem ofText_document (c : Config) (omitted : Omitted) :
    Toml.ofText (c.document omitted).text =
      some ((c.document omitted).top.map KeyLine.entry ++ nameEntries c omitted ++
        schemaEntries c) := by
  have htop := Toml.addPairs_empty ((keys_top c omitted).nodup (by decide))
  have hnames : "env_names" ∉ ((c.document omitted).top.map KeyLine.entry).map Prod.fst := by
    rw [List.map_map]
    intro hmem
    exact absurd ((keys_top c omitted).subset hmem) (by decide)
  have hschemas : c.schemas ≠ [] → "schemas" ∉
      ((c.document omitted).top.map KeyLine.entry ++ nameEntries c omitted).map Prod.fst := by
    intro hne hmem
    have hline : noSchemasLine c omitted.top = [] := if_neg fun hempty => hne hempty.1
    unfold document at hmem
    rw [hline, List.append_nil, List.map_append, List.map_map] at hmem
    have hkeys := (keys_settingLines c omitted.top).append (keys_nameEntries c omitted)
    exact absurd (hkeys.subset hmem) (by decide)
  rw [Toml.ofText_text, htop, Option.bind_some]
  change (nameSection c omitted ++ (c.schemas.map schemaLines).map _).foldlM _ _ = _
  rw [List.foldlM_append, addTo_nameSection c omitted hnames]
  exact addTo_schemaSections c hschemas

/-- A text from which all keys with their default are left out but the database. -/
example :
    let customer : SchemaConfig :=
      { layout := "API \"Customer\"", name := "Customer", strictNumbers := some true }
    let config : Config :=
      { path := ⟨"src\\fm"⟩, environment := { apiKey := "MY_KEY" }, schemas := [customer] }
    (config.document ⟨fun _ => true, (· ≠ "db")⟩).text =
      "path = \"src\\\\fm\"\n" ++
      "\n" ++
      "[env_names]\n" ++
      "db = \"FM_DATABASE\"\n" ++
      "api_key = \"MY_KEY\"\n" ++
      "\n" ++
      "[[schemas]]\n" ++
      "layout = \"API \\\"Customer\\\"\"\n" ++
      "schema_name = \"Customer\"\n" ++
      "strict_numbers = true\n" := by
  decide +kernel

theorem readEntries_document (c : Config) (omitted : Omitted) :
    readEntries keys {} ((c.document omitted).top.map KeyLine.entry ++ nameEntries c omitted ++
      schemaEntries c) = some c := by
  have hnone : ∀ rest, readEntries keys { c with environment := {}, schemas := [] }
      ((noSchemasLine c omitted.top).map KeyLine.entry ++ rest) =
        readEntries keys { c with environment := {}, schemas := [] } rest := by
    intro rest
    unfold noSchemasLine
    split
    · exact readEntries_cons (by rfl) (by rfl) rest
    · rfl
  have hnames : ∀ rest, readEntries keys { c with environment := {}, schemas := [] }
      (nameEntries c omitted ++ rest) = readEntries keys { c with schemas := [] } rest := by
    intro rest
    unfold nameEntries nameSection
    split
    · rename_i hleft
      rw [← hleft.2]
      rfl
    · refine readEntries_cons (by rfl) ?_ rest
      change (variableNames _).bind _ = _
      rw [variableNames_nameLines]
      rfl
  have hschemas : readEntries keys { c with schemas := [] } (schemaEntries c) = some c := by
    unfold schemaEntries
    split
    · rename_i hempty
      rw [← hempty]
      rfl
    · refine (readEntries_cons (by rfl) ?_ []).trans (by rfl)
      change (listOf schema _).bind _ = _
      rw [listOf_schemaLines]
      rfl
  unfold document
  simp only [List.map_append, List.append_assoc]
  rw [readEntries_settingLines, hnone, hnames, hschemas]

end TypedLayouts.Config
