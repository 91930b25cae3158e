import TypedLayouts.Files.Path
import TypedLayouts.Layout.FetchError
import TypedLayouts.Module.Index

/-!
# What a run has done

A run keeps account of the files it wrote, of the schemas that got a client and of the layouts it
passed over. `Progress` is this account while the run goes on, and `Report` what it says at the end.
A run that fails has no report but the problem that ended it.
-/

namespace TypedLayouts

open Layout (FetchError)
open TypedLayouts.Module (NameSet)

/-- What a run did. -/
structure Report where
  /-- The files written, in the order of writing. -/
  written : List Path := []
  /-- The schemas that got a client, in the order of their names. -/
  clients : List String := []
  /-- The layouts passed over, in the order of the config. -/
  skipped : List String := []
  deriving DecidableEq, Repr

/-- Why a run ended early, with fetch causes of type `ε` and write causes of type `φ`. -/
inductive RunError (ε φ : Type) where
  /-- The metadata of a layout could not be fetched. -/
  | fetch (error : FetchError ε)
  /-- A directory could not be made, or a file could not be written. -/
  | write (path : Path) (cause : φ)
  deriving DecidableEq, Repr

/-- The wording of the problem that ended a run. -/
def RunError.message {ε φ : Type} : RunError ε φ → String
  | .fetch error => error.message
  | .write path _ => "failed to write " ++ path.text

/-- The wording of the problem that ended a run, and of what lies beneath it. -/
def RunError.causes {ε φ : Type} (beneathFetch : ε → List String) (beneathWrite : φ → List String) :
    RunError ε φ → List String
  | .fetch error => error.causes beneathFetch
  | .write path cause =>
    (RunError.write (ε := ε) path cause).message :: beneathWrite cause

/-- What a run has done so far. -/
structure Progress where
  /-- The files written, in the order of writing. -/
  written : List Path := []
  /-- The schemas that got a client. -/
  clients : NameSet := ∅
  /-- The layouts passed over. -/
  skipped : List String := []

namespace Progress

/-- A file was written. -/
def wrote (p : Progress) (path : Path) : Progress :=
  { p with written := p.written ++ [path] }

/-- A schema got its client. -/
def addClient (p : Progress) (name : String) : Progress :=
  { p with clients := p.clients.add name }

/-- A layout was passed over. -/
def skip (p : Progress) (layout : String) : Progress :=
  { p with skipped := p.skipped ++ [layout] }

/-- No schema has a client yet. -/
def hasNoClients (p : Progress) : Bool :=
  p.clients.keys.isEmpty

/-- What the run says at its end. -/
def report (p : Progress) : Report :=
  ⟨p.written, p.clients.keys, p.skipped⟩

end Progress

end TypedLayouts
