import TypedLayouts.CommandLine.Program

/-!
# The executable

The machine that the program really runs on. Files and environment variables are those of the
process. There is no network: every request goes unanswered, so that only commands that need none
can succeed.
-/

namespace TypedLayouts

/-- The problem that an error of the system stands for. -/
def FileError.ofSystem : IO.Error → FileError
  | .noFileOrDirectory _ _ _ => .notFound
  | .alreadyExists _ _ _ => .alreadyExists
  | .inappropriateType _ code _ => if code = 20 then .notADirectory else .isADirectory
  | e => .other (toString e)

/-- The answer of an operation on files. -/
def answered {α : Type} (operation : IO α) : IO (Except FileError α) := do
  try
    return .ok (← operation)
  catch e =>
    return .error (FileError.ofSystem e)

/-- The text of a file. -/
def readFileText (path : Path) : IO (Except FileError String) := do
  match ← answered (IO.FS.readBinFile path.text) with
  | .error e => return .error e
  | .ok bytes =>
    match String.fromUTF8? bytes with
    | some text => return .ok text
    | none => return .error .notText

/-- Whether a path leads to a file. -/
def leadsToFile (path : Path) : IO (Except FileError Bool) :=
  answered do
    let place ← IO.FS.realPath path.text
    return (← place.metadata).type == .file

/-- How the process describes what its readers refuse: they keep no more than that it is refused. -/
def plainWording : CommandLine.Wording where
  answer
    | .body _ => "the body is no envelope"
    | .response _ => "the response is not of the expected form"
  config _ := "the text describes no config"

/-- The machine of the process. -/
def processMachine : CommandLine.Machine IO where
  readText := readFileText
  isFile := leadsToFile
  workingDir := answered do return ⟨(← IO.currentDir).toString⟩
  contains path := return (← answered (IO.FS.realPath path.text)).isOk
  sink :=
    { ensureDir := fun path => answered (IO.FS.createDirAll path.text)
      writeFile := fun path text => answered (IO.FS.writeFile path.text text) }
  lookUp name := IO.getEnv name
  send _ := return .unreachable "no network"
  wording := plainWording

end TypedLayouts

/-- Run the program. -/
def main (arguments : List String) : IO UInt32 := do
  let outcome ← TypedLayouts.CommandLine.execute TypedLayouts.processMachine arguments
  IO.print outcome.output
  IO.eprint outcome.complaint
  return outcome.code
