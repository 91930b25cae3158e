import TypedLayouts.Config.Settings
import TypedLayouts.Files.Sink
import TypedLayouts.Module.ClientModule
import TypedLayouts.Module.SchemaModule
import TypedLayouts.Run.Report
import TypedLayouts.TypeScript.Printer

/-!
# A run

A run goes through the schemas of a config in order. For each it fetches the metadata of the layout,
writes the schema module, and writes the client module where clients are wanted. Clients stand in a
directory of their own, which is made for the first of them. At the end the index of all clients is
written, unless there is none. A layout that does not exist is passed over; any other problem ends
the run at once, and nothing happens after it.

A run is stated over any source of metadata and any sink for files in one monad, so that their
answers and their records are those of the monad.
-/

namespace TypedLayouts

open Layout (FetchError Metadata)
open TypedLayouts.Module (Blueprint ClientTarget EnvNames)
open TypeScript (Document Expr)

/-- A place where metadata comes from. -/
structure Source (ε : Type) (m : Type → Type) where
  /-- The metadata of a layout. -/
  fetch : String → m (Except (FetchError ε) Metadata)

/-- Everything that a run depends on besides the metadata. -/
structure Run where
  /-- The settings. -/
  config : Config
  /-- The environment variables that clients read. -/
  envNames : EnvNames
  /-- The token store that standard clients use. -/
  tokenStore : Option Expr := none

namespace Run

/-- The directory of generated files. -/
def root (run : Run) : Path :=
  run.config.path

/-- The directory of generated clients. -/
def clientDir (run : Run) : Path :=
  run.root / ⟨"client"⟩

/-- The name of the file for a module. -/
def fileName (name : String) : Path :=
  ⟨name ++ "." ++ Document.extension⟩

/-- The file of a schema module. -/
def schemaPath (run : Run) (name : String) : Path :=
  run.root / fileName name

/-- The file of a client module. -/
def clientPath (run : Run) (name : String) : Path :=
  run.clientDir / fileName name

/-- The file of the index. -/
def indexPath (run : Run) : Path :=
  run.clientPath "index"

/-- Where the generated clients run. -/
def target (run : Run) : ClientTarget :=
  match run.config.webViewerScript with
  | some script => .webViewer script
  | none => .standard run.tokenStore

/-- What the modules of a schema are made from. -/
def blueprint (run : Run) (schema : SchemaConfig) (metadata : Metadata) : Blueprint :=
  let settings := run.config.view schema
  { name := schema.name
    layout := schema.layout
    schemas := metadata.schemas settings.valueLists
    backend := settings.backend
    strictNumbers := settings.strictNumbers
    envNames := run.envNames
    target := run.target }

variable {m : Type → Type} [Monad m] {ε φ : Type}

/-- Make sure that a directory exists. -/
def ensureDir (sink : Sink φ m) (dir : Path) : ExceptT (RunError ε φ) m Unit := do
  match ← sink.ensureDir dir with
  | .ok () => return
  | .error cause => throw (.write dir cause)

/-- Write a module. -/
def writeModule (sink : Sink φ m) (path : Path) (doc : Document) (p : Progress) :
    ExceptT (RunError ε φ) m Progress := do
  match ← sink.writeFile path doc.renderFile with
  | .ok () => return p.wrote path
  | .error cause => throw (.write path cause)

/-- Write the client module of a schema, in its directory. -/
def writeClient (run : Run) (sink : Sink φ m) (b : Blueprint) (p : Progress) :
    ExceptT (RunError ε φ) m Progress := do
  if p.hasNoClients then
    ensureDir sink run.clientDir
  let p ← writeModule sink (run.clientPath b.name) b.clientModule p
  return p.addClient b.name

/-- Generate the modules of one schema. -/
def generateSchema (run : Run) (source : Source ε m) (sink : Sink φ m) (schema : SchemaConfig)
    (p : Progress) : ExceptT (RunError ε φ) m Progress := do
  match ← source.fetch schema.layout with
  | .error (.notFound layout) => return p.skip layout
  | .error e => throw (.fetch e)
  | .ok metadata =>
    let b := run.blueprint schema metadata
    let p ← writeModule sink (run.schemaPath b.name) b.schemaModule p
    if (run.config.view schema).generateClient then run.writeClient sink b p else return p

/-- Generate the modules of several schemas in order. -/
def generateSchemas (run : Run) (source : Source ε m) (sink : Sink φ m) :
    List SchemaConfig → Progress → ExceptT (RunError ε φ) m Progress
  | [], p => return p
  | schema :: rest, p => do
    generateSchemas run source sink rest (← run.generateSchema source sink schema p)

/-- Write the index of the clients, if there are any. -/
def writeIndex (run : Run) (sink : Sink φ m) (p : Progress) :
    ExceptT (RunError ε φ) m Progress := do
  if p.hasNoClients then return p
  else writeModule sink run.indexPath (Module.indexModule p.clients) p

/-- The whole run. -/
def execute (run : Run) (source : Source ε m) (sink : Sink φ m) :
    ExceptT (RunError ε φ) m Report := do
  ensureDir sink run.root
  let p ← run.generateSchemas source sink run.config.schemas {}
  return (← run.writeIndex sink p).report

end Run

end TypedLayouts
