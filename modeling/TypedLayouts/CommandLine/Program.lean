import TypedLayouts.CommandLine.Arguments
import TypedLayouts.EnvFile.Assignment
import TypedLayouts.Run.OnServer
import TypedLayouts.TypeScript.File
import TypedLayouts.TypeScript.TokenStore

/-!
# The program

What the program does for a command, over any machine: files that can be read and written,
environment variables, and a network. A command ends with an exit code and what it prints.

To generate, the program loads the environment file, reads the config, gathers the connection
settings and the token store, and then does the run. The first step that fails ends it. The
environment file is the one that the user names, or else the nearest with the usual name, from the
working directory upwards.
-/

namespace TypedLayouts.CommandLine

open Server (ApiError Refused Send Session)
open TypeScript (Expr Tree)

/-- How the readers of JSON and of TOML describe what they refuse. -/
structure Wording where
  /-- What is wrong with an answer of a server. -/
  answer : Refused → String
  /-- What is wrong with the text of a config. -/
  config : String → String

/-- What the program needs of its surroundings. -/
structure Machine (m : Type → Type) where
  /-- The text of a file. -/
  readText : Path → m (Except FileError String)
  /-- Whether a path leads to a file. -/
  isFile : Path → m (Except FileError Bool)
  /-- The working directory. -/
  workingDir : m (Except FileError Path)
  /-- There is something at a path. -/
  contains : Path → m Bool
  /-- Where files are written. -/
  sink : Sink FileError m
  /-- The value of an environment variable. -/
  lookUp : String → m (Option String)
  /-- How requests are sent. -/
  send : Send m
  /-- How refused texts are described. -/
  wording : Wording

/-- How the program ends. -/
structure Outcome where
  /-- The exit code. -/
  code : UInt32 := 0
  /-- What is printed. -/
  output : String := ""
  /-- What is printed as a complaint. -/
  complaint : String := ""
  deriving DecidableEq, Repr

/-- Why nothing, or not everything, was generated. -/
inductive Failure where
  /-- Environment variables are missing. -/
  | missing (unset : MissingVariables)
  /-- Any other problem, with what lies beneath it. -/
  | problem (causes : List String)
  deriving DecidableEq, Repr

/-! ## Texts -/

/-- The escape sequence that sets how the text behind it is shown. -/
def style (code : String) : String :=
  "\x1b[" ++ code ++ "m"

/-- A text shown in a style. -/
def styled (code text : String) : String :=
  style code ++ text ++ style "0"

/-- The style of errors: bold and red. -/
def errorStyle : String := "1;31"

/-- The style of warnings: yellow. -/
def warningStyle : String := "33"

/-- The wording of a failure. -/
def Failure.message : Failure → String
  | .missing unset =>
    styled errorStyle "ERROR:" ++ " missing required environment variables:\n"
      ++ String.join (unset.names.map fun name => "  " ++ name ++ "\n")
  | .problem causes => styled errorStyle "error:" ++ " " ++ String.intercalate ": " causes ++ "\n"

/-- The wording of what a run did. -/
def summary (report : Report) : String :=
  "Generated " ++ toString report.written.length ++ " file(s), "
    ++ toString report.clients.length ++ " client(s)\n"
    ++ String.join (report.skipped.map fun layout =>
      "  " ++ styled warningStyle "skipped" ++ " layout " ++ Text.shown layout ++ " not found\n")

/-- The name of the program and its version. -/
def versionText : String :=
  "layoutgen 0.2.0\n"

/-- How the program is used. -/
def usage : String :=
  "Usage: layoutgen [-v] [generate [-c CONFIG] [--env-path FILE] | init [-c CONFIG] [--force]]\n"

/-! ## Generating -/

/-- Where a directory has its environment file. -/
def envPath (dir : Path) : Path :=
  dir / ⟨".env"⟩

/-- What a problem with the environment file is introduced by. -/
def envContext : Option Path → String
  | some path => "failed to load env file " ++ path.text
  | none => "failed to load .env"

namespace Machine

variable {m : Type → Type} [Monad m]

/-- The text of the nearest environment file in some directories. What is no file is passed over. -/
def nearestEnvText (machine : Machine m) : List Path → m (Except FileError String)
  | [] => return .error .notFound
  | dir :: above => do
    let path := envPath dir
    match ← machine.isFile path with
    | .ok true => machine.readText path
    | .ok false => nearestEnvText machine above
    | .error .notFound => nearestEnvText machine above
    | .error e => return .error e

/-- The text of the environment file: that of the user's choice, or the nearest one. -/
def envText (machine : Machine m) : Option Path → m (Except FileError String)
  | some path => machine.readText path
  | none => do
    match ← machine.workingDir with
    | .error e => return .error e
    | .ok dir => machine.nearestEnvText dir.ancestors

/-- The assignments of the environment file. One of the user's choice must be there. -/
def envAssignments (machine : Machine m) (envFile : Option Path) :
    ExceptT Failure m (List EnvFile.Assignment) := do
  match ← machine.envText envFile with
  | .error e =>
    if envFile = none ∧ e = .notFound then return []
    throw (.problem [envContext envFile, e.message, e.message])
  | .ok text =>
    match EnvFile.ofText text with
    | .error e => throw (.problem [envContext envFile, e.message])
    | .ok assignments => return assignments

/-- The config at a path. -/
def loadConfig (machine : Machine m) (path : Path) : ExceptT Failure m Config := do
  match ← machine.readText path with
  | .error cause =>
    throw (.problem ((ConfigError.unreadable path cause).causes machine.wording.config))
  | .ok text =>
    match Config.ofText text path with
    | .error e => throw (.problem (e.causes machine.wording.config))
    | .ok config => return config

/-- The variables with some names. -/
def gather (machine : Machine m) : List String → m Environment
  | [] => return fun _ => none
  | name :: rest => do
    let value ← machine.lookUp name
    let others ← gather machine rest
    return fun n => if n = name then value else others n

/-- The connection settings, with an environment file loaded. -/
def connect (machine : Machine m) (file : List EnvFile.Assignment) (config : Config) :
    ExceptT Failure m Connection := do
  let names := file.flatMap EnvFile.Assignment.names ++ config.environment.all
  let env := EnvFile.load (← ExceptT.lift (machine.gather names)) file
  match env.connection config.environment with
  | .error e => throw (.missing e)
  | .ok connection => return connection

/-- The token store of the file that a config names. Web viewer clients have none, and a file that
cannot be read says nothing. -/
def tokenStore (machine : Machine m) (config : Config) : m (Option Expr) :=
  match config.webViewerScript, config.tokenStoreFile with
  | none, some path => do
    match ← machine.readText path with
    | .ok text => return (Tree.ofText text).tokenStore?
    | .error _ => return none
  | _, _ => return none

/-- Generate the modules of a config. -/
def generate (machine : Machine m) (configPath : Path) (envFile : Option Path) :
    ExceptT Failure m Report := do
  let file ← machine.envAssignments envFile
  let config ← machine.loadConfig configPath
  let connection ← machine.connect file config
  let tokenStore ← ExceptT.lift (machine.tokenStore config)
  match Session.start connection.server connection.database connection.credentials with
  | .error e =>
    throw (.problem ("invalid connection settings" :: e.causes machine.wording.answer))
  | .ok session =>
    let run : Run := { config, envNames := connection.envNames, tokenStore }
    match ← ExceptT.lift (run.onServer machine.send machine.sink session) with
    | .error e =>
      let beneathFetch := ApiError.causes machine.wording.answer
      throw (.problem (e.causes beneathFetch fun cause => [cause.message]))
    | .ok report => return report

/-- Write a first config. -/
def writeConfig (machine : Machine m) (path : Path) (force : Bool) : m Outcome := do
  if (← machine.contains path) && !force then
    return { code := 1
             complaint := path.text ++ " already exists (use --force to overwrite)\n" }
  match ← machine.sink.writeFile path Config.starter with
  | .error e =>
    return { code := 1, complaint := "Failed to write " ++ path.text ++ ": " ++ e.message ++ "\n" }
  | .ok () => return { output := "Created " ++ path.text ++ "\n" }

end Machine

variable {m : Type → Type} [Monad m]

/-- Do what a command asks for. -/
def Command.execute (machine : Machine m) : Command → m Outcome
  | .generate config envFile => do
    match ← machine.generate config envFile with
    | .ok report => return { output := summary report }
    | .error e => return { code := 1, complaint := e.message }
  | .init config force => machine.writeConfig config force
  | .version => return { output := versionText }
  | .help => return { output := usage }

/-- Do what arguments ask for. -/
def execute (machine : Machine m) (arguments : List String) : m Outcome :=
  match Command.ofArguments? arguments with
  | some command => command.execute machine
  | none => return { code := 2, complaint := usage }

end TypedLayouts.CommandLine
