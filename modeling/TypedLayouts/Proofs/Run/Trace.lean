import TypedLayouts.Run.Generation

/-!
# Traces of a run

A run asks three things of what surrounds it: the metadata of a layout, a directory, a file. Its
trace keeps each of these calls with the answer that came back. The world is arbitrary: an answer
may depend on everything that happened before, so a source that answers from a list and a sink that
fails at some call are special cases.

A run is stated over any source and any sink. For those of a world that keeps the trace, each part
of a run has an equation here that gives its result and the longer trace.
-/

namespace TypedLayouts

open Layout (FetchError Metadata)
open TypedLayouts.Module (Blueprint)
open TypeScript (Document)

/-- What a run asks of its surroundings. -/
inductive Call where
  /-- The metadata of a layout. -/
  | fetch (layout : String)
  /-- A directory. -/
  | ensureDir (dir : Path)
  /-- A file with its text. -/
  | writeFile (path : Path) (text : String)
  deriving DecidableEq, Repr

/-- A call with the answer to it, where fetches fail with causes of type `ε` and the sink with
causes of type `φ`. -/
inductive Event (ε φ : Type) where
  /-- The metadata of a layout were asked for. -/
  | fetched (layout : String) (answer : Except (FetchError ε) Metadata)
  /-- A directory was asked for. -/
  | ensured (dir : Path) (answer : Except φ Unit)
  /-- A file was written, or could not be written. -/
  | wrote (path : Path) (text : String) (answer : Except φ Unit)

/-- Everything that happened so far, in order. -/
abbrev Trace (ε φ : Type) := List (Event ε φ)

/-- A source and a sink, whose answers may depend on everything that happened before. -/
structure World (ε φ : Type) where
  /-- The answer to a fetch. -/
  fetch : Trace ε φ → String → Except (FetchError ε) Metadata
  /-- The answer to the wish for a directory. -/
  ensureDir : Trace ε φ → Path → Except φ Unit
  /-- The answer to the wish for a file. -/
  writeFile : Trace ε φ → Path → String → Except φ Unit

variable {ε φ : Type}

namespace Event

/-- What was asked. -/
def call : Event ε φ → Call
  | .fetched layout _ => .fetch layout
  | .ensured dir _ => .ensureDir dir
  | .wrote path text _ => .writeFile path text

/-- The problem that an answer makes for a run. That a layout is missing makes none. -/
def failure : Event ε φ → Option (RunError ε φ)
  | .fetched _ (.error (.failed layout cause)) => some (.fetch (.failed layout cause))
  | .ensured dir (.error cause) => some (.write dir cause)
  | .wrote path _ (.error cause) => some (.write path cause)
  | _ => none

end Event

namespace Trace

/-- What was asked, in order. -/
def calls (t : Trace ε φ) : List Call :=
  t.map Event.call

/-- The layouts whose metadata were asked for, with what came back. -/
def fetches (t : Trace ε φ) : List (String × Except (FetchError ε) Metadata) :=
  t.filterMap fun
    | .fetched layout answer => some (layout, answer)
    | _ => none

/-- The files that were asked for, with their texts. -/
def writes (t : Trace ε φ) : List (Path × String) :=
  t.filterMap fun
    | .wrote path text _ => some (path, text)
    | _ => none

end Trace

namespace World

/-- A call with what the world answers behind a trace. -/
def answer (w : World ε φ) (t : Trace ε φ) : Call → Event ε φ
  | .fetch layout => .fetched layout (w.fetch t layout)
  | .ensureDir dir => .ensured dir (w.ensureDir t dir)
  | .writeFile path text => .wrote path text (w.writeFile t path text)

/-- The source of a world, which keeps the trace. -/
def source (w : World ε φ) : Source ε (StateM (Trace ε φ)) where
  fetch layout := fun t => (w.fetch t layout, t ++ [w.answer t (.fetch layout)])

/-- The sink of a world, which keeps the trace. -/
def sink (w : World ε φ) : Sink φ (StateM (Trace ε φ)) where
  ensureDir dir := fun t => (w.ensureDir t dir, t ++ [w.answer t (.ensureDir dir)])
  writeFile path text := fun t =>
    (w.writeFile t path text, t ++ [w.answer t (.writeFile path text)])

end World

/-- A part of a run that keeps the trace. -/
abbrev Action (ε φ α : Type) := ExceptT (RunError ε φ) (StateM (Trace ε φ)) α

/-- The result of an action behind a trace, and the trace then. -/
def Action.after {α : Type} (x : Action ε φ α) (t : Trace ε φ) :
    Except (RunError ε φ) α × Trace ε φ :=
  x.run.run t

namespace Run

/-- What comes of a run in a world. -/
def resultIn (run : Run) (w : World ε φ) : Except (RunError ε φ) Report :=
  (Action.after (run.execute w.source w.sink) []).1

/-- What happens in a run in a world. -/
def traceIn (run : Run) (w : World ε φ) : Trace ε φ :=
  (Action.after (run.execute w.source w.sink) []).2

end Run

/-! ## One equation for each part of a run -/

namespace Action

variable {α β : Type}

/-- Actions are the same when they come to the same behind every trace. -/
theorem ext_after {x y : Action ε φ α} (h : ∀ t, x.after t = y.after t) : x = y :=
  funext h

/-- What is given back at once leaves the trace. -/
theorem after_pure (a : α) (t : Trace ε φ) : (pure a : Action ε φ α).after t = (.ok a, t) :=
  rfl

/-- A chain goes on behind its first part, if that has a result. -/
theorem after_bind (x : Action ε φ α) (f : α → Action ε φ β) (t : Trace ε φ) :
    (x >>= f).after t =
      match x.after t with
      | (.ok a, t') => (f a).after t'
      | (.error e, t') => (.error e, t') := by
  unfold Action.after ExceptT.run StateT.run
  simp only [bind, ExceptT.bind, ExceptT.mk, StateT.bind, ExceptT.bindCont]
  rcases x t with ⟨r, t'⟩
  cases r with
  | ok a => rfl
  | error e => rfl

/-- A call of the surroundings always has a result, its answer. -/
theorem after_call (f : StateM (Trace ε φ) α) (t : Trace ε φ) :
    Action.after (liftM f) t = (.ok (f t).1, (f t).2) :=
  rfl

end Action

namespace World

variable (w : World ε φ)

/-- Fetch the metadata of a layout, where a layout may be missing. -/
def lookUp (layout : String) : Action ε φ (Except String Metadata) := do
  match ← w.source.fetch layout with
  | .ok metadata => return .ok metadata
  | .error (.notFound missing) => return .error missing
  | .error e => throw (.fetch e)

/-- Looking up a layout is one fetch. -/
theorem after_lookUp (layout : String) (t : Trace ε φ) :
    (w.lookUp layout).after t =
      (match w.fetch t layout with
        | .ok metadata => .ok (.ok metadata)
        | .error (.notFound missing) => .ok (.error missing)
        | .error (.failed failing cause) => .error (.fetch (.failed failing cause)),
      t ++ [w.answer t (.fetch layout)]) := by
  unfold lookUp
  rw [Action.after_bind, Action.after_call]
  have hanswer : (w.source.fetch layout t).1 = w.fetch t layout := rfl
  dsimp only
  rw [hanswer]
  cases w.fetch t layout with
  | ok metadata => rfl
  | error e =>
    cases e with
    | notFound missing => rfl
    | failed failing cause => rfl

/-- Asking for a directory is one call. -/
theorem after_ensureDir (dir : Path) (t : Trace ε φ) :
    Action.after (Run.ensureDir w.sink dir) t =
      ((w.ensureDir t dir).mapError (RunError.write dir), t ++ [w.answer t (.ensureDir dir)]) := by
  unfold Run.ensureDir
  rw [Action.after_bind, Action.after_call]
  have hanswer : (w.sink.ensureDir dir t).1 = w.ensureDir t dir := rfl
  dsimp only
  rw [hanswer]
  cases w.ensureDir t dir with
  | ok a => rfl
  | error cause => rfl

/-- Writing a module is one call. -/
theorem after_writeModule (path : Path) (doc : Document) (p : Progress) (t : Trace ε φ) :
    Action.after (Run.writeModule w.sink path doc p) t =
      (((w.writeFile t path doc.renderFile).map fun _ => p.wrote path).mapError
          (RunError.write path),
        t ++ [w.answer t (.writeFile path doc.renderFile)]) := by
  unfold Run.writeModule
  rw [Action.after_bind, Action.after_call]
  have hanswer : (w.sink.writeFile path doc.renderFile t).1 = w.writeFile t path doc.renderFile :=
    rfl
  dsimp only
  rw [hanswer]
  cases w.writeFile t path doc.renderFile with
  | ok a => rfl
  | error cause => rfl

end World

namespace Run

variable (run : Run) (w : World ε φ)

/-- All of a run but the index and the report. -/
def body : Action ε φ Progress := do
  ensureDir w.sink run.root
  run.generateSchemas w.source w.sink run.config.schemas {}

/-- A run is its body, the index and the report. -/
theorem execute_eq :
    run.execute w.source w.sink =
      run.body w >>= fun p => run.writeIndex w.sink p >>= fun p => pure p.report := by
  unfold execute body
  rw [bind_assoc]

/-- Without clients there is no index to write; otherwise writing it is one call. -/
theorem after_writeIndex (p : Progress) (t : Trace ε φ) :
    Action.after (run.writeIndex w.sink p) t =
      if p.hasNoClients then (.ok p, t)
      else Action.after (writeModule w.sink run.indexPath (Module.indexModule p.clients) p) t := by
  unfold writeIndex
  cases p.hasNoClients with
  | true => rfl
  | false => rfl

/-- Behind its body a run makes no call, or that for the index. -/
theorem traceIn_eq :
    run.traceIn w =
      match (run.body w).after [] with
      | (.ok p, t) =>
        if p.hasNoClients then t
        else t ++ [w.answer t (.writeFile run.indexPath (Module.indexModule p.clients).renderFile)]
      | (.error _, t) => t := by
  unfold traceIn
  rw [execute_eq, Action.after_bind]
  rcases (run.body w).after [] with ⟨problem | p, t⟩
  · rfl
  · dsimp only
    rw [Action.after_bind, after_writeIndex]
    cases p.hasNoClients with
    | true => rfl
    | false =>
      rw [if_neg Bool.false_ne_true, if_neg Bool.false_ne_true, World.after_writeModule]
      cases w.writeFile t run.indexPath (Module.indexModule p.clients).renderFile with
      | ok a => rfl
      | error cause => rfl

end Run

end TypedLayouts
