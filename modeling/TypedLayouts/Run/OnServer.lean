import TypedLayouts.Run.Generation
import TypedLayouts.Server.Session

/-!
# Runs on a server

A run whose metadata comes from a server. The session is state beside that of the run, and it is
closed at the end of the run, however the run ends; whether closing works is of no interest any
more.
-/

namespace TypedLayouts

open Server (ApiError Send Session)

variable {m : Type → Type} [Monad m] {φ : Type}

/-- A server as a source of metadata. -/
def Server.Session.source (send : Send m) : Source ApiError (StateT Session m) where
  fetch layout := fun session => Session.fetchMetadata send layout session

/-- A sink for runs that have state of their own. -/
def Sink.withState (σ : Type) (sink : Sink φ m) : Sink φ (StateT σ m) where
  ensureDir dir := StateT.lift (sink.ensureDir dir)
  writeFile path text := StateT.lift (sink.writeFile path text)

/-- The whole run on a server, from a session on. -/
def Run.onServer (run : Run) (send : Send m) (sink : Sink φ m) (session : Session) :
    m (Except (RunError ApiError φ) Report) := do
  let (result, session) ←
    (run.execute (Session.source send) (sink.withState Session)).run.run session
  session.close send
  return result

end TypedLayouts
