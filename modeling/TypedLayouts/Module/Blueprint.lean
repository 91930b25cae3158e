import TypedLayouts.Module.FieldType

/-!
# Blueprints

A `Blueprint` is everything that the modules of one layout are made from: the names, the schemas,
and how the client is to connect. The schema module and the client module of a layout are functions
of the same blueprint, which is why the names that one declares are those the other imports.
-/

namespace TypedLayouts.Module

open TypeScript Layout

/-- The environment variables that hold a client's credentials. -/
inductive CredentialNames where
  /-- An API key. -/
  | apiKey (name : String)
  /-- A user name and a password. -/
  | account (username password : String)
  deriving DecidableEq, Repr

/-- The environment variables a client reads: names, not values. -/
structure EnvNames where
  /-- The variable that holds the server. -/
  server : String := "FM_SERVER"
  /-- The variable that holds the database. -/
  database : String := "FM_DATABASE"
  /-- The variables that hold the credentials. -/
  credentials : CredentialNames := .apiKey "OTTO_API_KEY"
  deriving DecidableEq, Repr

/-- Where the client is to run. -/
inductive ClientTarget where
  /-- On a server, with credentials from the environment and perhaps a token store of its own. -/
  | standard (tokenStore : Option Expr)
  /-- Inside a web viewer, calling back through a script. -/
  | webViewer (script : String)
  deriving Repr

/-- Everything that the modules of one layout are made from. -/
structure Blueprint where
  /-- The name the user chose: its fragment names identifiers, its text names files. -/
  name : String
  /-- The name of the layout on the server. -/
  layout : String
  /-- The schemas of the layout and its portals. -/
  schemas : LayoutSchema
  /-- What the schema module declares. -/
  backend : Backend
  /-- Whether numbers exclude texts. -/
  strictNumbers : Bool
  /-- The variables the client reads. -/
  envNames : EnvNames
  /-- Where the client runs. -/
  target : ClientTarget
  deriving Repr

/-- The layout shows portals. -/
def Blueprint.hasPortals (b : Blueprint) : Bool :=
  !b.schemas.portals.isEmpty

end TypedLayouts.Module
