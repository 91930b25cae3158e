import TypedLayouts.Proofs.CommandLine.Surroundings

/-!
# Looking for the environment file

A file that the user names is the environment file, whatever comes of reading it. Without one, the
nearest file with the usual name counts, from the working directory upwards: a directory that has
nothing of this name, or something that is no file, is passed over, and any other answer of the
system is the end of the search. `EnvText` says what can come of this, without the order in which
the program asks.
-/

namespace TypedLayouts.CommandLine

open Server (Replies)

/-- A directory has no environment file: nothing has its place, or something that is no file. -/
def Passes (view : FileView) (dir : Path) : Prop :=
  view.isFile (envPath dir) = .ok false ∨ view.isFile (envPath dir) = .error .notFound

/-- What comes of looking for the environment file: its text, or why there is none. -/
inductive EnvText (view : FileView) : Option Path → Except FileError String → Prop where
  /-- The user names the file. -/
  | named (path : Path) : EnvText view (some path) (view.readText path)
  /-- It is not known where to look. -/
  | lost {e : FileError} (hdir : view.workingDir = .error e) : EnvText view none (.error e)
  /-- A directory has the file, and none below it has. -/
  | nearest {dir home : Path} {below above : List Path} (hdir : view.workingDir = .ok dir)
      (hup : dir.ancestors = below ++ home :: above) (hbelow : ∀ d ∈ below, Passes view d)
      (hfile : view.isFile (envPath home) = .ok true) :
    EnvText view none (view.readText (envPath home))
  /-- Whether a directory has the file cannot be told, and none below it has. -/
  | untold {dir home : Path} {below above : List Path} {e : FileError}
      (hdir : view.workingDir = .ok dir) (hup : dir.ancestors = below ++ home :: above)
      (hbelow : ∀ d ∈ below, Passes view d) (hfile : view.isFile (envPath home) = .error e)
      (he : e ≠ .notFound) :
    EnvText view none (.error e)
  /-- No directory has the file. -/
  | nowhere {dir : Path} (hdir : view.workingDir = .ok dir)
      (hall : ∀ d ∈ dir.ancestors, Passes view d) : EnvText view none (.error .notFound)

/-- Of several directories either all are passed over, or there is a nearest that is not. -/
theorem all_pass_or_stop (view : FileView) (dirs : List Path) :
    (∀ d ∈ dirs, Passes view d) ∨ ∃ below home above,
      dirs = below ++ home :: above ∧ (∀ d ∈ below, Passes view d) ∧ ¬ Passes view home := by
  induction dirs with
  | nil => exact .inl fun d hd => absurd hd List.not_mem_nil
  | cons dir dirs ih =>
    by_cases hdir : Passes view dir
    · rcases ih with hall | ⟨below, home, above, rfl, hbelow, hhome⟩
      · exact .inl (List.forall_mem_cons.mpr ⟨hdir, hall⟩)
      · exact .inr ⟨dir :: below, home, above, rfl, List.forall_mem_cons.mpr ⟨hdir, hbelow⟩, hhome⟩
    · exact .inr ⟨[], dir, dirs, rfl, by simp, hdir⟩

/-- Something always comes of the search. -/
theorem exists_envText (view : FileView) (envFile : Option Path) :
    ∃ r, EnvText view envFile r := by
  cases envFile with
  | some path => exact ⟨_, .named path⟩
  | none =>
    cases hdir : view.workingDir with
    | error e => exact ⟨_, .lost hdir⟩
    | ok dir =>
      rcases all_pass_or_stop view dir.ancestors with
        hall | ⟨below, home, above, hup, hbelow, hhome⟩
      · exact ⟨_, .nowhere hdir hall⟩
      · cases hfile : view.isFile (envPath home) with
        | error e =>
          have he : e ≠ .notFound := by
            rintro rfl
            exact hhome (.inr hfile)
          exact ⟨_, .untold hdir hup hbelow hfile he⟩
        | ok found =>
          cases found with
          | true => exact ⟨_, .nearest hdir hup hbelow hfile⟩
          | false => exact absurd (.inl hfile) hhome

section Search

open Surroundings

variable {F : Type} {fs : FileSystem F} (env : Environment) (replies : Replies) (wording : Wording)
  {s : Surroundings F}

/-- One directory of the search. -/
theorem nearestEnvText_cons (dir : Path) (above : List Path) :
    ((machine fs env replies wording).nearestEnvText (dir :: above)).run s =
      let further := ((machine fs env replies wording).nearestEnvText above).run s
      match (fs.view s.files).isFile (envPath dir) with
      | .ok true => ((fs.view s.files).readText (envPath dir), s)
      | .ok false => further
      | .error e => if e = .notFound then further else (.error e, s) := by
  have hasked : ((machine fs env replies wording).isFile (envPath dir)).run s =
    ((fs.view s.files).isFile (envPath dir), s) := rfl
  rw [Machine.nearestEnvText, StateT.run_bind, hasked]
  cases (fs.view s.files).isFile (envPath dir) with
  | ok found =>
    cases found with
    | true => rfl
    | false => rfl
  | error e =>
    cases e with
    | other reason => rfl
    | _ => rfl

/-- The search goes on above the directories that it passes over. -/
theorem nearestEnvText_append {below : List Path} (h : ∀ d ∈ below, Passes (fs.view s.files) d)
    (above : List Path) :
    ((machine fs env replies wording).nearestEnvText (below ++ above)).run s =
      ((machine fs env replies wording).nearestEnvText above).run s := by
  induction below with
  | nil => rfl
  | cons dir below ih =>
    obtain ⟨hdir, hbelow⟩ := List.forall_mem_cons.mp h
    rw [List.cons_append, nearestEnvText_cons]
    rcases hdir with hdir | hdir
    · rw [hdir]
      exact ih hbelow
    · rw [hdir]
      exact ih hbelow

/-- Without a name to go by, the working directory decides where to look. -/
theorem envText_none :
    ((machine fs env replies wording).envText none).run s =
      match (fs.view s.files).workingDir with
      | .error e => (.error e, s)
      | .ok dir => ((machine fs env replies wording).nearestEnvText dir.ancestors).run s := by
  have hasked : (machine fs env replies wording).workingDir.run s =
    ((fs.view s.files).workingDir, s) := rfl
  unfold Machine.envText
  rw [StateT.run_bind, hasked]
  cases (fs.view s.files).workingDir with
  | error e => rfl
  | ok dir => rfl

/-- The program finds what there is to find, and only looks. -/
theorem EnvText.run {envFile : Option Path} {r : Except FileError String}
    (h : EnvText (fs.view s.files) envFile r) :
    ((machine fs env replies wording).envText envFile).run s = (r, s) := by
  cases h with
  | named path => rfl
  | lost hdir => rw [envText_none, hdir]
  | nearest hdir hup hbelow hfile =>
    rw [envText_none, hdir]
    dsimp only
    rw [hup, nearestEnvText_append _ _ _ hbelow, nearestEnvText_cons, hfile]
  | untold hdir hup hbelow hfile he =>
    rw [envText_none, hdir]
    dsimp only
    rw [hup, nearestEnvText_append _ _ _ hbelow, nearestEnvText_cons, hfile]
    exact if_neg he
  | nowhere hdir hall =>
    have hend := nearestEnvText_append env replies wording hall []
    rw [List.append_nil] at hend
    rw [envText_none, hdir]
    exact hend

end Search

end TypedLayouts.CommandLine
