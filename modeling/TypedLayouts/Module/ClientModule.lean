import TypedLayouts.Module.Blueprint
import TypedLayouts.Module.Name

/-!
# Client modules

The client module of a layout imports the client package and the layout's schema module, and exports
one constant `client`. A standard client first checks that every environment variable it needs is
set, in a fixed order: database, server, credentials. A client for the web viewer reads no
environment and has no token store.
-/

namespace TypedLayouts.Module

open TypeScript

/-- The package that standard clients are built on. -/
def clientPackage : String := "@proofgeist/fmdapi"

/-- The package that web viewer clients are built on. -/
def webViewerPackage : String := "@proofgeist/fmdapi/dist/wv"

/-- The package of a target's clients. -/
def ClientTarget.package : ClientTarget → String
  | .standard _ => clientPackage
  | .webViewer _ => webViewerPackage

/-- The variables that credentials are read from. -/
def CredentialNames.names : CredentialNames → List String
  | .apiKey name => [name]
  | .account username password => [username, password]

/-- The variables that a standard client needs, in the order in which it checks them. -/
def EnvNames.required (env : EnvNames) : List String :=
  env.database :: env.server :: env.credentials.names

/-- `process.env.name` -/
def envVariable (name : String) : Expr :=
  .path ("process.env." ++ name)

/-- The statement that refuses to go on without a variable. -/
def guardVariable (name : String) : Statement :=
  .when (.not (envVariable name))
    (.throw (.construct (.ident "Error") [.string ("Missing env var: " ++ name)]))

/-- The credentials that a client passes on. -/
def CredentialNames.options : CredentialNames → List (String × Expr)
  | .apiKey name => [("apiKey", envVariable name)]
  | .account username password =>
    [("username", envVariable username), ("password", envVariable password)]

namespace Blueprint

/-- The names that the client module imports from the schema module, types first. -/
def schemaImports (b : Blueprint) : List String :=
  [typeName b.name]
    ++ (if b.hasPortals then [portalsTypeName b.name] else [])
    ++ (if b.backend = .validator then
        validatorName b.name :: (if b.hasPortals then [portalsValidatorName b.name] else [])
      else [])

/-- The statements that check the environment. -/
def guards (b : Blueprint) : List Statement :=
  match b.target with
  | .standard _ => b.envNames.required.map guardVariable
  | .webViewer _ => []

/-- The options that the client is constructed with. -/
def clientOptions (b : Blueprint) : List (String × Expr) :=
  match b.target with
  | .webViewer script => [("layout", .string b.layout), ("scriptName", .string script)]
  | .standard tokenStore =>
    [("auth", .object false b.envNames.credentials.options),
      ("db", envVariable b.envNames.database),
      ("server", envVariable b.envNames.server),
      ("layout", .string b.layout)]
      ++ (match tokenStore with
        | some store => [("tokenStore", store)]
        | none => [])

/-- The validators that the client is constructed with. -/
def clientValidators (b : Blueprint) : List (String × Expr) :=
  ("fieldData", .ident (validatorName b.name))
    :: (if b.hasPortals then [("portalData", .ident (portalsValidatorName b.name))] else [])

/-- The types of the records and portals that the client delivers. -/
def clientTypes (b : Blueprint) : List TypeExpr :=
  [.any, .reference (typeName b.name) []]
    ++ (if b.hasPortals then [.reference (portalsTypeName b.name) []] else [])

/-- The call that constructs the client. -/
def constructClient (b : Blueprint) : Expr :=
  .call (.ident "DataApi") b.clientTypes
    (.object true b.clientOptions
      :: (if b.backend = .validator then [.object true b.clientValidators] else []))

/-- The client module of a layout. -/
def clientModule (b : Blueprint) : Document where
  body :=
    [.importNames ["DataApi"] b.target.package,
      .importNames b.schemaImports ("../" ++ b.name)]
      ++ b.guards
      ++ [.exportConst "client" b.constructClient]

end Blueprint

end TypedLayouts.Module
