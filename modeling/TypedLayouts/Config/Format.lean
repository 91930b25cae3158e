import TypedLayouts.Config.Check
import TypedLayouts.Toml.Document

/-!
# Configs as TOML

Every key of a config may be left out, and has its default then; only a schema needs its layout and
its name. A key that no setting has is refused. A table of settings may also be written as an array
of its values in the order of the settings.
-/

namespace TypedLayouts

open Layout (ValueListMode)
open TypedLayouts.Module (Backend)
open Toml (Node Entries)

namespace Config

/-- A reader of one kind of setting. -/
abbrev Setting (α : Type) := Node → Option α

/-- A text. -/
def text : Setting String
  | .string s => some s
  | _ => none

/-- A truth value. -/
def flag : Setting Bool
  | .bool b => some b
  | _ => none

/-- One of several words, written as a string or as the only key of a table that holds nothing. -/
def word {α : Type} (meaning : String → Option α) : Setting α
  | .string s => meaning s
  | .table _ [(key, .table _ [])] => meaning key
  | .table _ [(key, .array [])] => meaning key
  | _ => none

/-- The spellings of backends. -/
def backendOf : String → Option Backend
  | "types-only" => some .typesOnly
  | "ts" => some .typesOnly
  | "validator" => some .validator
  | "zod" => some .validator
  | _ => none

/-- The spellings of value list modes. -/
def valueListModeOf : String → Option ValueListMode
  | "strict" => some .strict
  | "allow-empty" => some .allowEmpty
  | "allowEmpty" => some .allowEmpty
  | "ignore" => some .ignore
  | _ => none

/-- A setting of a record under construction. -/
structure Key (σ : Type) where
  /-- The key of the setting. -/
  name : String
  /-- How its value changes the record. -/
  read : Node → σ → Option σ

/-- Read the entries of a table into a record; every key must be one of the settings. -/
def readEntries {σ : Type} (keys : List (Key σ)) (record : σ) : Entries → Option σ
  | [] => some record
  | (name, node) :: rest => do
    let key ← keys.find? (·.name = name)
    readEntries keys (← key.read node record) rest

/-- Read the values of an array into the settings of a record in order. Further values are passed
over. -/
def readValues {σ : Type} (record : σ) : List (Key σ) → List Node → Option σ
  | key :: keys, node :: nodes => do readValues (← key.read node record) keys nodes
  | _, _ => some record

/-- Read a record of settings. -/
def readRecord {σ : Type} (keys : List (Key σ)) (start : σ) : Setting σ
  | .table _ entries => readEntries keys start entries
  | .array nodes => readValues start keys nodes
  | .tables nodes => readValues start keys nodes
  | _ => none

/-- A sequence of settings. -/
def listOf {α : Type} (setting : Setting α) : Setting (List α)
  | .array nodes => nodes.mapM setting
  | .tables nodes => nodes.mapM setting
  | _ => none

/-- The names of environment variables. -/
def variableNames : Setting VariableNames :=
  readRecord
    [⟨"server", fun n v => return { v with server := ← text n }⟩,
      ⟨"db", fun n v => return { v with database := ← text n }⟩,
      ⟨"api_key", fun n v => return { v with apiKey := ← text n }⟩,
      ⟨"username", fun n v => return { v with username := ← text n }⟩,
      ⟨"password", fun n v => return { v with password := ← text n }⟩,
      ⟨"otto_port", fun n v => return { v with proxyPort := ← text n }⟩]
    {}

/-- A schema under construction. -/
structure SchemaDraft where
  /-- The name of the layout, once it is read. -/
  layout : Option String := none
  /-- The name of the schema, once it is read. -/
  name : Option String := none
  /-- What the schema module declares. -/
  backend : Option Backend := none
  /-- Whether numbers exclude texts. -/
  strictNumbers : Option Bool := none
  /-- Which use is made of value lists. -/
  valueLists : Option ValueListMode := none
  /-- Whether a client is generated. -/
  generateClient : Option Bool := none

/-- A schema. -/
def schema : Setting SchemaConfig := fun node => do
  let draft ← readRecord
    [⟨"layout", fun n d => return { d with layout := some (← text n) }⟩,
      ⟨"schema_name", fun n d => return { d with name := some (← text n) }⟩,
      ⟨"backend", fun n d => return { d with backend := some (← word backendOf n) }⟩,
      ⟨"strict_numbers", fun n d => return { d with strictNumbers := some (← flag n) }⟩,
      ⟨"value_lists", fun n d => return { d with valueLists := some (← word valueListModeOf n) }⟩,
      ⟨"generate_client", fun n d => return { d with generateClient := some (← flag n) }⟩]
    ({} : SchemaDraft) node
  return { draft with layout := ← draft.layout, name := ← draft.name }

/-- The keys of a config. -/
def keys : List (Key Config) :=
  [⟨"path", fun n c => return { c with path := ⟨← text n⟩ }⟩,
    ⟨"generate_client", fun n c => return { c with generateClient := ← flag n }⟩,
    ⟨"backend", fun n c => return { c with backend := ← word backendOf n }⟩,
    ⟨"strict_numbers", fun n c => return { c with strictNumbers := ← flag n }⟩,
    ⟨"value_lists", fun n c => return { c with valueLists := ← word valueListModeOf n }⟩,
    ⟨"webviewer_script_name", fun n c => return { c with webViewerScript := some (← text n) }⟩,
    ⟨"token_store_config", fun n c => return { c with tokenStoreFile := some ⟨← text n⟩ }⟩,
    ⟨"env_names", fun n c => return { c with environment := ← variableNames n }⟩,
    ⟨"schemas", fun n c => return { c with schemas := ← listOf schema n }⟩]

/-- The config that a text describes, before its schema names are checked. -/
def ofToml? (toml : String) : Option Config := do
  readEntries keys {} (← Toml.ofText toml)

/-- The config that a text describes. The path is where the text comes from. -/
def ofText (toml : String) (path : Path) : Except ConfigError Config :=
  match ofToml? toml with
  | none => .error (.malformed path toml)
  | some config =>
    match config.check with
    | .error e => .error e
    | .ok () => .ok config

/-- The text of a first config, for users to edit. -/
def starter : String :=
  "# layoutgen configuration\n" ++
  "# Generated files are written under `path`; clients under `path`/client.\n" ++
  "\n" ++
  "path = \"schema\"\n" ++
  "# backend = \"validator\"        # or \"types-only\"\n" ++
  "# generate_client = true\n" ++
  "# strict_numbers = false       # type number fields as `number | null`\n" ++
  "# value_lists = \"ignore\"       # \"strict\" | \"allow-empty\" | \"ignore\"\n" ++
  "# webviewer_script_name = \"ExecuteDataApi\"\n" ++
  "# token_store_config = \"fmschema.config.ts\"\n" ++
  "\n" ++
  "# [env_names]\n" ++
  "# server = \"FM_SERVER\"\n" ++
  "# db = \"FM_DATABASE\"\n" ++
  "# api_key = \"OTTO_API_KEY\"\n" ++
  "# username = \"FM_USERNAME\"\n" ++
  "# password = \"FM_PASSWORD\"\n" ++
  "# otto_port = \"OTTO_PORT\"\n" ++
  "\n" ++
  "[[schemas]]\n" ++
  "layout = \"API_Contacts\"\n" ++
  "schema_name = \"Contacts\"\n"

/-- Where the config is looked for when no other place is named. -/
def defaultPath : Path := ⟨"layoutgen.toml"⟩

end Config

end TypedLayouts
