import TypedLayouts.Config.Settings
import TypedLayouts.Files.FileError
import TypedLayouts.Text.Identifier
import TypedLayouts.Text.Shown

/-!
# Usable schema names

The fragments of the schema names become identifiers, so none may be empty and no two may be equal.
The first schema in order that breaks the rule is the one reported.

A text that describes no config is kept with the problem; what the reader of such texts has to say
about it is an argument of the wording.
-/

namespace TypedLayouts

/-- What can be wrong with a config. -/
inductive ConfigError where
  /-- The file cannot be read. -/
  | unreadable (path : Path) (cause : FileError)
  /-- The text is no TOML, or not that of a config. -/
  | malformed (path : Path) (text : String)
  /-- The fragment of a schema name is empty. -/
  | unusableName (name : String)
  /-- The fragment of a schema name is that of an earlier one. -/
  | duplicateName (name : String)
  deriving DecidableEq, Repr

namespace ConfigError

/-- The wording of a problem. -/
def message : ConfigError → String
  | .unreadable path _ => "failed to read config " ++ path.text
  | .malformed path _ => "invalid config " ++ path.text
  | .unusableName name =>
    "schema name " ++ Text.shown name ++ " has no characters usable in an identifier"
  | .duplicateName name =>
    "schema name " ++ Text.shown name ++ " collides with an earlier schema name"

/-- The wording of a problem and of what lies beneath it. -/
def causes (describe : String → String) (e : ConfigError) : List String :=
  match e with
  | .unreadable _ cause => [e.message, cause.message]
  | .malformed _ text => [e.message, describe text]
  | _ => [e.message]

end ConfigError

/-- Check schema names against the fragments that are taken. -/
def checkNames (taken : List String) : List SchemaConfig → Except ConfigError Unit
  | [] => .ok ()
  | schema :: rest =>
    let fragment := Identifier.fragment schema.name
    if fragment.isEmpty then .error (.unusableName schema.name)
    else if fragment ∈ taken then .error (.duplicateName schema.name)
    else checkNames (fragment :: taken) rest

/-- Check the schema names of a config. -/
def Config.check (config : Config) : Except ConfigError Unit :=
  checkNames [] config.schemas

end TypedLayouts
