import TypedLayouts.Files.Sink
import TypedLayouts.OrderedMap

/-!
# A sink in memory

Records the directories and files of a run, each under the path with which it came first. Every call
succeeds.
-/

namespace TypedLayouts

/-- Directories and files in memory, in the order of their paths. -/
structure Memory where
  /-- The directories that were asked for. -/
  dirs : OrderedMap (List Path.Component) Path := ∅
  /-- The files with their texts. -/
  files : OrderedMap (List Path.Component) (Path × String) := ∅

namespace Memory

/-- Record a directory. -/
def ensureDir (s : Memory) (p : Path) : Memory :=
  { s with dirs := s.dirs.upsert p.components (·.getD p) }

/-- Record a file; a text that was there is replaced. -/
def writeFile (s : Memory) (p : Path) (text : String) : Memory :=
  { s with files := s.files.upsert p.components fun
    | some (first, _) => (first, text)
    | none => (p, text) }

/-- The text of a file. -/
def file? (s : Memory) (p : Path) : Option String :=
  (s.files.get? p.components).map (·.2)

/-- The directories in order. -/
def dirPaths (s : Memory) : List Path :=
  s.dirs.entries.map (·.2)

/-- The files in order. -/
def fileTexts (s : Memory) : List (Path × String) :=
  s.files.entries.map (·.2)

/-- Memory as a sink. It never fails, whatever the type of failures. -/
def sink (ε : Type) : Sink ε (StateM Memory) where
  ensureDir p := modifyGet fun s => (.ok (), s.ensureDir p)
  writeFile p text := modifyGet fun s => (.ok (), s.writeFile p text)

end Memory

end TypedLayouts
