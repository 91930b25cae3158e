import TypedLayouts.Config.Settings
import TypedLayouts.Module.Blueprint
import TypedLayouts.Server.Address

/-!
# Connection settings from the environment

The server, the database and the credentials come from environment variables, whose names are
settings themselves. A variable that is empty counts as not set. An API key is preferred to an
account; the port of the proxy is optional, and one that is no port is passed over.
-/

namespace TypedLayouts

open TypedLayouts.Module (EnvNames CredentialNames)
open Server (Credentials)

/-- Connection settings, with the names of the variables that generated clients are to read. -/
structure Connection where
  /-- The server. -/
  server : String
  /-- The database. -/
  database : String
  /-- The credentials. -/
  credentials : Credentials
  /-- The variables that these come from. -/
  envNames : EnvNames
  deriving DecidableEq, Repr

/-- The names of variables that should be set and are not. -/
structure MissingVariables where
  /-- The names in the order in which they are reported. -/
  names : List String
  deriving DecidableEq, Repr

/-- The wording of missing variables. -/
def MissingVariables.message (e : MissingVariables) : String :=
  "missing required environment variables: " ++ String.intercalate ", " e.names

/-- An environment: the values of the variables that are set. -/
abbrev Environment := String → Option String

namespace Environment

/-- The value of a variable, unless it is empty. -/
def value? (env : Environment) (name : String) : Option String :=
  (env name).filter (!·.isEmpty)

/-- The port that a text names: a 16-bit number in decimal digits, perhaps with a plus sign. -/
def portOf (text : String) : Option UInt16 :=
  let digits : List Char :=
    match text.toList with
    | '+' :: digits => digits
    | digits => digits
  if digits.isEmpty || !digits.all Char.isDigit then none
  else
    let n : Nat := digits.foldl (fun n c => 10 * n + (c.toNat - '0'.toNat)) 0
    if n < UInt16.size then some n.toUInt16 else none

/-- The credentials that are set, with the names of their variables. -/
def credentials? (env : Environment) (names : VariableNames) :
    Option (Credentials × CredentialNames) :=
  match env.value? names.apiKey, env.value? names.username, env.value? names.password with
  | some key, _, _ =>
    some (.apiKey key ((env.value? names.proxyPort).bind portOf), .apiKey names.apiKey)
  | none, some username, some password =>
    some (.account username password, .account names.username names.password)
  | none, _, _ => none

/-- How the missing credentials are reported. -/
def credentialHint (names : VariableNames) : String :=
  names.apiKey ++ " (or " ++ names.username ++ " and " ++ names.password ++ ")"

/-- The connection settings of an environment. -/
def connection (env : Environment) (names : VariableNames) :
    Except MissingVariables Connection :=
  match env.value? names.server, env.value? names.database, env.credentials? names with
  | some server, some database, some (credentials, credentialNames) =>
    .ok ⟨server, database, credentials, ⟨names.server, names.database, credentialNames⟩⟩
  | server, database, credentials =>
    .error ⟨(if server.isNone then [names.server] else [])
      ++ (if database.isNone then [names.database] else [])
      ++ (if credentials.isNone then [credentialHint names] else [])⟩

end Environment

end TypedLayouts
