import TypedLayouts.Files.Path
import TypedLayouts.Layout.Schema
import TypedLayouts.Module.FieldType

/-!
# Settings of a run

A `Config` says what a run generates and where: defaults for all schemas, the names of the
environment variables with the connection settings, and the schemas. A schema may override some of
the defaults for itself; `Config.view` merges the two.
-/

namespace TypedLayouts

open Layout (ValueListMode)
open TypedLayouts.Module (Backend)

/-- The names of the environment variables with the connection settings. -/
structure VariableNames where
  /-- The server. -/
  server : String := "FM_SERVER"
  /-- The database. -/
  database : String := "FM_DATABASE"
  /-- The API key. -/
  apiKey : String := "OTTO_API_KEY"
  /-- The user name of an account. -/
  username : String := "FM_USERNAME"
  /-- The password of an account. -/
  password : String := "FM_PASSWORD"
  /-- The port of the proxy. -/
  proxyPort : String := "OTTO_PORT"
  deriving DecidableEq, Repr

/-- The names that a run looks up, in the order of the fields. -/
def VariableNames.all (names : VariableNames) : List String :=
  [names.server, names.database, names.apiKey, names.username, names.password, names.proxyPort]

/-- One schema to generate, with the defaults that it overrides. -/
structure SchemaConfig where
  /-- The name of the layout on the server. -/
  layout : String
  /-- The name from which files and identifiers are made. -/
  name : String
  /-- What the schema module declares. -/
  backend : Option Backend := none
  /-- Whether numbers exclude texts. -/
  strictNumbers : Option Bool := none
  /-- Which use is made of value lists. -/
  valueLists : Option ValueListMode := none
  /-- Whether a client is generated. -/
  generateClient : Option Bool := none
  deriving DecidableEq, Repr

/-- The settings that hold for one schema. -/
structure ViewSettings where
  /-- What the schema module declares. -/
  backend : Backend
  /-- Whether numbers exclude texts. -/
  strictNumbers : Bool
  /-- Which use is made of value lists. -/
  valueLists : ValueListMode
  /-- Whether a client is generated. -/
  generateClient : Bool
  deriving DecidableEq, Repr

/-- The settings of a run. -/
structure Config where
  /-- The directory for generated files. -/
  path : Path := ⟨"schema"⟩
  /-- Whether clients are generated. -/
  generateClient : Bool := true
  /-- What schema modules declare. -/
  backend : Backend := .validator
  /-- Whether numbers exclude texts. -/
  strictNumbers : Bool := false
  /-- Which use is made of value lists. -/
  valueLists : ValueListMode := .ignore
  /-- The script through which web viewer clients call back; with it all clients are such clients.
  -/
  webViewerScript : Option String := none
  /-- The file whose token store generated clients use. -/
  tokenStoreFile : Option Path := none
  /-- The environment variables with the connection settings. -/
  environment : VariableNames := {}
  /-- The schemas to generate. -/
  schemas : List SchemaConfig := []
  deriving DecidableEq, Repr

/-- The settings that hold for a schema: its own where it has them, the defaults elsewhere. -/
def Config.view (config : Config) (schema : SchemaConfig) : ViewSettings where
  backend := schema.backend.getD config.backend
  strictNumbers := schema.strictNumbers.getD config.strictNumbers
  valueLists := schema.valueLists.getD config.valueLists
  generateClient := schema.generateClient.getD config.generateClient

end TypedLayouts
