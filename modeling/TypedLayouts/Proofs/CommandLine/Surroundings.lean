import TypedLayouts.CommandLine.Program
import TypedLayouts.Files.Disk
import TypedLayouts.Proofs.Server.History

/-!
# The surroundings of the program

The program reads files and environment variables, writes files, and exchanges requests with a
server. Its surroundings are the files and what was exchanged so far; how files are kept, and what
the server answers to all this, is arbitrary. In these surroundings every part of the program that
comes before the run only reads: it has a result, and leaves everything as it is.
-/

namespace TypedLayouts

open Server (History Replies Request)

/-- What can be seen of the files at one time. -/
structure FileView where
  /-- The text of a file. -/
  readText : Path → Except FileError String
  /-- Whether a path leads to a file. -/
  isFile : Path → Except FileError Bool
  /-- The working directory. -/
  workingDir : Except FileError Path
  /-- There is something at a path. -/
  contains : Path → Bool

/-- Files in states of type `F`. A failed operation may still have changed something. -/
structure FileSystem (F : Type) where
  /-- What can be seen in a state. -/
  view : F → FileView
  /-- Where files are written. -/
  sink : Sink FileError (StateM F)

/-- The files of a disk. -/
def Disk.fileSystem : FileSystem Disk where
  view disk := ⟨disk.readText, disk.isFile, .ok disk.workingDir, disk.contains⟩
  sink := Disk.sink

namespace EnvFile

/-! ## The variables that count -/

variable {env env' : Environment} {names : List String}

theorem Piece.text_congr {p : Piece} (hp : ∀ n ∈ p.names, env n = env' n) :
    p.text env = p.text env' := by
  cases p with
  | char c => rfl
  | reference name =>
    have hname : env name = env' name := hp name List.mem_cons_self
    simp only [Piece.text, hname]

theorem Assignment.apply_congr {a : Assignment} (hnames : ∀ n ∈ a.names, n ∈ names)
    (h : ∀ n ∈ names, env n = env' n) : ∀ n ∈ names, a.apply env n = a.apply env' n := by
  have htext : a.text env = a.text env' := by
    unfold Assignment.text
    congr 1
    refine List.map_congr_left fun p hp => Piece.text_congr fun n hn => h n (hnames n ?_)
    exact List.mem_cons_of_mem _ (List.mem_flatMap.mpr ⟨p, hp, hn⟩)
  intro n hn
  unfold Assignment.apply
  rw [h n hn, htext]

/-- Loading a file gives variables the same values in environments that agree on these variables and
on those that the file needs. -/
theorem load_congr {file : List Assignment}
    (hnames : ∀ n ∈ file.flatMap Assignment.names, n ∈ names) (h : ∀ n ∈ names, env n = env' n) :
    ∀ n ∈ names, load env file n = load env' file n := by
  induction file generalizing env env' with
  | nil => exact h
  | cons a file ih =>
    have ha : ∀ n ∈ a.names, n ∈ names := fun n hn =>
      hnames n (List.mem_flatMap.mpr ⟨a, List.mem_cons_self, hn⟩)
    have hfile : ∀ n ∈ file.flatMap Assignment.names, n ∈ names := fun n hn =>
      hnames n (List.mem_append_right _ hn)
    exact ih hfile (Assignment.apply_congr ha h)

end EnvFile

namespace Environment

variable {env env' : Environment} {names : VariableNames}

theorem value?_congr {name : String} (h : env name = env' name) :
    env.value? name = env'.value? name := by
  unfold value?
  rw [h]

/-- Connection settings depend on the named variables alone. -/
theorem connection_congr (h : ∀ n ∈ names.all, env n = env' n) :
    env.connection names = env'.connection names := by
  have hvalue : ∀ n ∈ names.all, env.value? n = env'.value? n := fun n hn => value?_congr (h n hn)
  simp only [VariableNames.all, List.forall_mem_cons] at hvalue
  obtain ⟨hserver, hdatabase, hkey, husername, hpassword, hport, -⟩ := hvalue
  have hcredentials : env.credentials? names = env'.credentials? names := by
    unfold credentials?
    rw [hkey, husername, hpassword, hport]
  unfold connection
  rw [hserver, hdatabase, hcredentials]

end Environment

namespace CommandLine

variable {F α β : Type}

/-- The files, and what was exchanged so far. -/
structure Surroundings (F : Type) where
  /-- The files. -/
  files : F
  /-- The requests sent so far, with their replies. -/
  sent : History := []

namespace Surroundings

/-- An operation on files. -/
def onFiles (x : StateM F α) : StateM (Surroundings F) α := fun s =>
  let (a, files) := x.run s.files
  (a, { s with files })

/-- A machine with files, environment variables and a server. -/
def machine (fs : FileSystem F) (env : Environment) (replies : Replies) (wording : Wording) :
    Machine (StateM (Surroundings F)) where
  readText path := fun s => ((fs.view s.files).readText path, s)
  isFile path := fun s => ((fs.view s.files).isFile path, s)
  workingDir := fun s => ((fs.view s.files).workingDir, s)
  contains path := fun s => ((fs.view s.files).contains path, s)
  sink :=
    { ensureDir := fun dir => onFiles (fs.sink.ensureDir dir)
      writeFile := fun path text => onFiles (fs.sink.writeFile path text) }
  lookUp name := pure (env name)
  send request := fun s =>
    let e := Server.answered replies s.sent request
    (e.reply, { s with sent := s.sent ++ [e] })
  wording := wording

end Surroundings

/-- A part of the program that may fail. -/
abbrev Part (F α : Type) := ExceptT Failure (StateM (Surroundings F)) α

/-- The part comes to a result, and leaves the surroundings as they are. -/
def Part.Reads (x : Part F α) (s : Surroundings F) (r : Except Failure α) : Prop :=
  x.run.run s = (r, s)

namespace Part.Reads

variable {x : Part F α} {s : Surroundings F}

theorem pure (a : α) : Reads (Pure.pure a) s (.ok a) :=
  rfl

theorem throw (problem : Failure) :
    Reads (MonadExcept.throw problem : Part F α) s (.error problem) :=
  rfl

theorem lift {y : StateM (Surroundings F) α} {a : α} (h : y.run s = (a, s)) :
    Reads (ExceptT.lift y) s (.ok a) := by
  have hlift : (ExceptT.lift y : Part F α).run.run s = (.ok (y.run s).1, (y.run s).2) := rfl
  unfold Reads
  rw [hlift, h]

theorem bind_of_error {f : α → Part F β} {problem : Failure} (h : Reads x s (.error problem)) :
    Reads (x >>= f) s (.error problem) := by
  unfold Reads at h ⊢
  rw [ExceptT.run_bind, StateT.run_bind, h]
  rfl

/-- What is behind a part that reads goes on in the same surroundings. -/
theorem run_bind_of_ok {f : α → Part F β} {a : α} (h : Reads x s (.ok a)) :
    (x >>= f).run.run s = (f a).run.run s := by
  unfold Reads at h
  rw [ExceptT.run_bind, StateT.run_bind, h]
  rfl

theorem bind_of_ok {f : α → Part F β} {a : α} {r : Except Failure β} (h : Reads x s (.ok a))
    (hf : Reads (f a) s r) : Reads (x >>= f) s r :=
  h.run_bind_of_ok.trans hf

end Part.Reads

/-- What is behind an operation that cannot fail goes on where the operation ends. -/
theorem Part.run_lift_bind (y : StateM (Surroundings F) α) (f : α → Part F β)
    (s : Surroundings F) :
    (ExceptT.lift y >>= f).run.run s = (f (y.run s).1).run.run (y.run s).2 :=
  rfl

/-! ## The parts before the run -/

section Parts

open Surroundings

variable (fs : FileSystem F) (env : Environment) (replies : Replies) (wording : Wording)
  (s : Surroundings F)

theorem reads_readText (path : Path) :
    Part.Reads (liftM ((machine fs env replies wording).readText path)) s
      (.ok ((fs.view s.files).readText path)) :=
  .lift rfl

/-- The variables that are gathered have their values. -/
theorem gather_run (names : List String) :
    ∃ found, ((machine fs env replies wording).gather names).run s = (found, s) ∧
      ∀ n ∈ names, found n = env n := by
  induction names with
  | nil => exact ⟨fun _ => none, rfl, by simp⟩
  | cons name names ih =>
    obtain ⟨found, hrun, hfound⟩ := ih
    refine ⟨fun n => if n = name then env name else found n, ?_, fun n hn => ?_⟩
    · have hcons : ((machine fs env replies wording).gather (name :: names)).run s =
          (let r := ((machine fs env replies wording).gather names).run s
          (fun n => if n = name then env name else r.1 n, r.2)) := rfl
      rw [hcons, hrun]
    · dsimp only
      by_cases hname : n = name
      · rw [if_pos hname, hname]
      · rw [if_neg hname]
        exact hfound n (List.mem_of_ne_of_mem hname hn)

/-- The connection settings are those of the environment with the file loaded, though only the
variables that count are looked up. -/
theorem reads_connect (file : List EnvFile.Assignment) (config : Config) :
    Part.Reads ((machine fs env replies wording).connect file config) s
      (((EnvFile.load env file).connection config.environment).mapError .missing) := by
  obtain ⟨found, hrun, hfound⟩ := gather_run fs env replies wording s
    (file.flatMap EnvFile.Assignment.names ++ config.environment.all)
  have hload : (EnvFile.load env file).connection config.environment =
      (EnvFile.load found file).connection config.environment :=
    Environment.connection_congr fun n hn =>
      (EnvFile.load_congr (fun n hn => List.mem_append_left _ hn) hfound n
        (List.mem_append_right _ hn)).symm
  unfold Machine.connect
  refine .bind_of_ok (.lift hrun) ?_
  dsimp only
  rw [hload]
  cases (EnvFile.load found file).connection config.environment with
  | ok connection => exact .pure connection
  | error unset => exact .throw (.missing unset)

/-- The token store that a config asks for, with what its file holds. -/
def storeOf (readText : Path → Except FileError String) (config : Config) :
    Option TypeScript.Expr :=
  match config.webViewerScript, config.tokenStoreFile with
  | none, some path =>
    (readText path).toOption.bind fun text => (TypeScript.Tree.ofText text).tokenStore?
  | _, _ => none

theorem tokenStore_run (config : Config) :
    ((machine fs env replies wording).tokenStore config).run s =
      (storeOf (fs.view s.files).readText config, s) := by
  unfold Machine.tokenStore storeOf
  cases config.webViewerScript with
  | some script => rfl
  | none =>
    cases config.tokenStoreFile with
    | none => rfl
    | some path =>
      have hread : ((machine fs env replies wording).readText path).run s =
        ((fs.view s.files).readText path, s) := rfl
      dsimp only
      rw [StateT.run_bind, hread]
      cases (fs.view s.files).readText path with
      | ok text => rfl
      | error e => rfl

end Parts

end CommandLine

end TypedLayouts
