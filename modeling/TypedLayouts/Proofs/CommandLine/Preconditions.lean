import TypedLayouts.Proofs.CommandLine.EnvSearch

/-!
# What must hold before a run

To generate, the program needs an environment file that can be loaded, a config that can be read and
is accepted, complete connection settings, and settings that give an address. Each of these is a
step that may fail, and what can be wrong with a step does not depend on whether an earlier one
fails, other than through what the earlier one is to provide. The program ends with the first fault
in the order of the steps, and then nothing has happened. Without a fault there is a run, and the
program ends well exactly if the run does.
-/

namespace TypedLayouts.CommandLine

open Server (ApiError History Replies Session)

/-- The steps before a run that may fail. -/
inductive Step where
  /-- Load the environment file. -/
  | envFile
  /-- Read and check the config. -/
  | config
  /-- Find the connection settings in the variables. -/
  | settings
  /-- Build the address of the server. -/
  | address
  deriving DecidableEq, Repr

/-- The steps in front of a step. -/
def Step.earlier : Step → List Step
  | .envFile => []
  | .config => [.envFile]
  | .settings => [.envFile, .config]
  | .address => [.envFile, .config, .settings]

/-! ## The environment file -/

section Steps

variable (view : FileView) (env : Environment) (configPath : Path) (envFile : Option Path)
  (wording : Wording)

/-- What the environment file assigns. -/
inductive EnvFileLoads : List EnvFile.Assignment → Prop where
  /-- The file is found and well formed. -/
  | read {text : String} {file : List EnvFile.Assignment} (hread : EnvText view envFile (.ok text))
      (htext : EnvFile.ofText text = .ok file) : EnvFileLoads file
  /-- There is no file, and there need not be one. -/
  | absent (hread : EnvText view envFile (.error .notFound)) (hnone : envFile = none) :
    EnvFileLoads []

/-- Why the environment file cannot be loaded. -/
inductive EnvFileFault : Failure → Prop where
  /-- It cannot be read, or not be found where it must be. -/
  | unreadable {e : FileError} (hread : EnvText view envFile (.error e))
      (he : ¬ (envFile = none ∧ e = .notFound)) :
    EnvFileFault (.problem [envContext envFile, e.message, e.message])
  /-- One of its lines is no assignment. -/
  | malformed {text : String} {e : EnvFile.BadLine} (hread : EnvText view envFile (.ok text))
      (htext : EnvFile.ofText text = .error e) :
    EnvFileFault (.problem [envContext envFile, e.message])

/-! ## The config -/

/-- The config is read and accepted. -/
structure ConfigLoads (config : Config) : Prop where
  /-- It is what the file describes. -/
  read : ∃ text, view.readText configPath = .ok text ∧ Config.ofToml? text = some config
  /-- Its schema names can be used. -/
  accepted : config.check = .ok ()

/-- Why there is no config. -/
inductive ConfigFault : Failure → Prop where
  /-- The file cannot be read. -/
  | unreadable {cause : FileError} (hread : view.readText configPath = .error cause) :
    ConfigFault (.problem ((ConfigError.unreadable configPath cause).causes wording.config))
  /-- Its text describes no config. -/
  | malformed {text : String} (hread : view.readText configPath = .ok text)
      (htext : Config.ofToml? text = none) :
    ConfigFault (.problem ((ConfigError.malformed configPath text).causes wording.config))
  /-- The schema names cannot be used. -/
  | rejected {text : String} {config : Config} {e : ConfigError}
      (hread : view.readText configPath = .ok text) (htext : Config.ofToml? text = some config)
      (hcheck : config.check = .error e) : ConfigFault (.problem (e.causes wording.config))

/-! ## All steps -/

/-- What is wrong with a step. -/
inductive Fault : Step → Failure → Prop where
  /-- The environment file cannot be loaded. -/
  | envFile {problem : Failure} (h : EnvFileFault view envFile problem) :
    Fault .envFile problem
  /-- There is no config. -/
  | config {problem : Failure} (h : ConfigFault view configPath wording problem) :
    Fault .config problem
  /-- Variables are missing, with the environment file loaded. -/
  | settings {file : List EnvFile.Assignment} {config : Config} {unset : MissingVariables}
      (hfile : EnvFileLoads view envFile file)
      (hconfig : ConfigLoads view configPath config)
      (h : (EnvFile.load env file).connection config.environment = .error unset) :
    Fault .settings (.missing unset)
  /-- The connection settings give no address. -/
  | address {file : List EnvFile.Assignment} {config : Config} {c : Connection} {e : ApiError}
      (hfile : EnvFileLoads view envFile file)
      (hconfig : ConfigLoads view configPath config)
      (hc : (EnvFile.load env file).connection config.environment = .ok c)
      (h : Server.baseUrl c.server c.database c.credentials = .error e) :
    Fault .address (.problem ("invalid connection settings" :: e.causes wording.answer))

/-- A fault with none in an earlier step. -/
structure FirstFault (step : Step) (problem : Failure) : Prop where
  /-- It is a fault. -/
  fault : Fault view env configPath envFile wording step problem
  /-- The earlier steps are without one. -/
  first : ∀ earlier ∈ step.earlier, ∀ other,
    ¬ Fault view env configPath envFile wording earlier other

/-- What the run and the session are when all steps are done. -/
inductive Ready : Run → Session → Prop where
  /-- Nothing is wrong with any step. -/
  | intro {file : List EnvFile.Assignment} {config : Config} {c : Connection} {session : Session}
      (hfile : EnvFileLoads view envFile file)
      (hconfig : ConfigLoads view configPath config)
      (hc : (EnvFile.load env file).connection config.environment = .ok c)
      (hsession : Session.start c.server c.database c.credentials = .ok session) :
    Ready ⟨config, c.envNames, storeOf view.readText config⟩ session

end Steps

section Outcomes

variable {view : FileView} {env : Environment} {configPath : Path} {envFile : Option Path}
  {wording : Wording}

theorem exists_envFileLoads (h : ∀ problem, ¬ EnvFileFault view envFile problem) :
    ∃ file, EnvFileLoads view envFile file := by
  obtain ⟨r, hread⟩ := exists_envText view envFile
  cases r with
  | error e =>
    by_cases he : envFile = none ∧ e = .notFound
    · obtain ⟨hnone, rfl⟩ := he
      exact ⟨[], .absent hread hnone⟩
    · exact (h _ (.unreadable hread he)).elim
  | ok text =>
    cases htext : EnvFile.ofText text with
    | error e => exact (h _ (.malformed hread htext)).elim
    | ok file => exact ⟨file, .read hread htext⟩

theorem exists_configLoads (h : ∀ problem, ¬ ConfigFault view configPath wording problem) :
    ∃ config, ConfigLoads view configPath config := by
  cases hread : view.readText configPath with
  | error cause => exact (h _ (.unreadable hread)).elim
  | ok text =>
    cases htext : Config.ofToml? text with
    | none => exact (h _ (.malformed hread htext)).elim
    | some config =>
      cases hcheck : config.check with
      | error e => exact (h _ (.rejected hread htext hcheck)).elim
      | ok _ => exact ⟨config, ⟨text, hread, htext⟩, hcheck⟩

/-- Without a fault everything is there. -/
theorem exists_ready
    (h : ∀ step problem, ¬ Fault view env configPath envFile wording step problem) :
    ∃ run session, Ready view env configPath envFile run session := by
  obtain ⟨file, hfile⟩ := exists_envFileLoads fun problem hp => h _ problem (.envFile hp)
  obtain ⟨config, hconfig⟩ := exists_configLoads fun problem hp => h _ problem (.config hp)
  cases hc : (EnvFile.load env file).connection config.environment with
  | error unset => exact (h _ _ (.settings hfile hconfig hc)).elim
  | ok c =>
    cases hbase : Server.baseUrl c.server c.database c.credentials with
    | error e => exact (h _ _ (.address hfile hconfig hc hbase)).elim
    | ok base =>
      refine ⟨_, ⟨base, c.credentials, none⟩, .intro hfile hconfig hc ?_⟩
      unfold Session.start
      rw [hbase]
      rfl

/-- Where there is a fault there is a first one. -/
theorem exists_firstFault
    (h : ∃ step problem, Fault view env configPath envFile wording step problem) :
    ∃ step problem, FirstFault view env configPath envFile wording step problem := by
  refine Classical.byContradiction fun hnone => ?_
  -- Step by step in their order, a fault would be the first.
  have henv : ∀ other, ¬ Fault view env configPath envFile wording .envFile other := fun other hf =>
    hnone ⟨_, _, hf, by simp [Step.earlier]⟩
  have hconfig : ∀ other, ¬ Fault view env configPath envFile wording .config other :=
    fun other hf => hnone ⟨_, _, hf, by simpa [Step.earlier] using henv⟩
  have hsettings : ∀ other, ¬ Fault view env configPath envFile wording .settings other :=
    fun other hf => hnone ⟨_, _, hf, by simpa [Step.earlier] using ⟨henv, hconfig⟩⟩
  have haddress : ∀ other, ¬ Fault view env configPath envFile wording .address other :=
    fun other hf => hnone ⟨_, _, hf, by simpa [Step.earlier] using ⟨henv, hconfig, hsettings⟩⟩
  obtain ⟨step, problem, hf⟩ := h
  cases step with
  | envFile => exact henv problem hf
  | config => exact hconfig problem hf
  | settings => exact hsettings problem hf
  | address => exact haddress problem hf

end Outcomes

/-! ## What the program does -/

section Machines

open Surroundings

variable {F : Type} {fs : FileSystem F} {env : Environment} {configPath : Path}
  {envFile : Option Path} {wording : Wording} {step : Step} {problem : Failure}
  (replies : Replies) {s : Surroundings F}

/-- Loading the environment file, when it is found and can be read. -/
theorem reads_envAssignments_of_text (env : Environment) (wording : Wording) {text : String}
    (hread : EnvText (fs.view s.files) envFile (.ok text)) :
    Part.Reads ((machine fs env replies wording).envAssignments envFile) s
      ((EnvFile.ofText text).mapError fun e => .problem [envContext envFile, e.message]) := by
  unfold Machine.envAssignments
  refine .bind_of_ok (.lift (hread.run env replies wording)) ?_
  dsimp only
  cases EnvFile.ofText text with
  | error e => exact .throw _
  | ok file => exact .pure file

theorem EnvFileLoads.reads (wording : Wording) {file : List EnvFile.Assignment}
    (h : EnvFileLoads (fs.view s.files) envFile file) :
    Part.Reads ((machine fs env replies wording).envAssignments envFile) s (.ok file) := by
  cases h with
  | read hread htext =>
    have hreads := reads_envAssignments_of_text replies env wording hread
    rwa [htext] at hreads
  | absent hread hnone =>
    unfold Machine.envAssignments
    refine .bind_of_ok (.lift (hread.run env replies wording)) ?_
    dsimp only
    rw [if_pos ⟨hnone, rfl⟩]
    exact .pure []

theorem EnvFileFault.reads (wording : Wording)
    (h : EnvFileFault (fs.view s.files) envFile problem) :
    Part.Reads ((machine fs env replies wording).envAssignments envFile) s (.error problem) := by
  cases h with
  | malformed hread htext =>
    have hreads := reads_envAssignments_of_text replies env wording hread
    rwa [htext] at hreads
  | unreadable hread he =>
    unfold Machine.envAssignments
    refine .bind_of_ok (.lift (hread.run env replies wording)) ?_
    dsimp only
    rw [if_neg he]
    exact .throw _

/-- Loading the config, when its file can be read. -/
theorem reads_loadConfig_of_text (env : Environment) (wording : Wording) {text : String}
    (hread : (fs.view s.files).readText configPath = .ok text) :
    Part.Reads ((machine fs env replies wording).loadConfig configPath) s
      ((Config.ofText text configPath).mapError fun e => .problem (e.causes wording.config)) := by
  unfold Machine.loadConfig
  refine .bind_of_ok (reads_readText fs env replies wording s _) ?_
  rw [hread]
  dsimp only
  cases Config.ofText text configPath with
  | error e => exact .throw _
  | ok config => exact .pure config

theorem ConfigLoads.reads (wording : Wording) {config : Config}
    (h : ConfigLoads (fs.view s.files) configPath config) :
    Part.Reads ((machine fs env replies wording).loadConfig configPath) s (.ok config) := by
  obtain ⟨⟨text, hread, htext⟩, hcheck⟩ := h
  have hreads := reads_loadConfig_of_text replies env wording hread
  unfold Config.ofText at hreads
  rw [htext] at hreads
  dsimp only at hreads
  rwa [hcheck] at hreads

theorem ConfigFault.reads (h : ConfigFault (fs.view s.files) configPath wording problem) :
    Part.Reads ((machine fs env replies wording).loadConfig configPath) s (.error problem) := by
  cases h with
  | unreadable hread =>
    unfold Machine.loadConfig
    refine .bind_of_ok (reads_readText fs env replies wording s _) ?_
    rw [hread]
    exact .throw _
  | malformed hread htext =>
    have hreads := reads_loadConfig_of_text replies env wording hread
    unfold Config.ofText at hreads
    rwa [htext] at hreads
  | rejected hread htext hcheck =>
    have hreads := reads_loadConfig_of_text replies env wording hread
    unfold Config.ofText at hreads
    rw [htext] at hreads
    dsimp only at hreads
    rwa [hcheck] at hreads

/-- The program stops at the first fault, before anything has happened. -/
theorem FirstFault.reads
    (h : FirstFault (fs.view s.files) env configPath envFile wording step problem) :
    Part.Reads ((machine fs env replies wording).generate configPath envFile) s
      (.error problem) := by
  obtain ⟨hfault, hfirst⟩ := h
  unfold Machine.generate
  cases hfault with
  | envFile hfault => exact .bind_of_error (hfault.reads replies wording)
  | config hfault =>
    obtain ⟨file, hfile⟩ := exists_envFileLoads fun other hother =>
      hfirst .envFile List.mem_cons_self other (.envFile hother)
    refine .bind_of_ok (hfile.reads replies wording) ?_
    exact .bind_of_error (hfault.reads replies)
  | @settings file config unset hfile hconfig hunset =>
    refine .bind_of_ok (hfile.reads replies wording) ?_
    refine .bind_of_ok (hconfig.reads replies wording) ?_
    have hconnect := reads_connect fs env replies wording s file config
    rw [hunset] at hconnect
    exact .bind_of_error hconnect
  | @address file config c e hfile hconfig hc hbase =>
    refine .bind_of_ok (hfile.reads replies wording) ?_
    refine .bind_of_ok (hconfig.reads replies wording) ?_
    have hconnect := reads_connect fs env replies wording s file config
    rw [hc] at hconnect
    refine .bind_of_ok hconnect ?_
    refine .bind_of_ok (.lift (tokenStore_run fs env replies wording s _)) ?_
    unfold Session.start
    rw [hbase]
    exact .throw _

/-- The result of a run, with its problem as the program reports it. -/
def reported (wording : Wording) (r : Except (RunError ApiError FileError) Report) :
    Except Failure Report :=
  r.mapError fun e =>
    .problem (e.causes (ApiError.causes wording.answer) fun cause => [cause.message])

/-- With everything there, the program does the run. -/
theorem Ready.generate_run (wording : Wording) {run : Run} {session : Session}
    (h : Ready (fs.view s.files) env configPath envFile run session) :
    ((machine fs env replies wording).generate configPath envFile).run.run s =
      (let m := machine fs env replies wording
      let r := (run.onServer m.send m.sink session).run s
      (reported wording r.1, r.2)) := by
  obtain @⟨file, config, c, session, hfile, hconfig, hc, hsession⟩ := h
  have hconnect := reads_connect fs env replies wording s file config
  rw [hc] at hconnect
  unfold Machine.generate
  rw [(hfile.reads replies wording).run_bind_of_ok, (hconfig.reads replies wording).run_bind_of_ok,
    hconnect.run_bind_of_ok,
    (Part.Reads.lift (tokenStore_run fs env replies wording s _)).run_bind_of_ok, hsession]
  dsimp only
  rw [Part.run_lift_bind]
  cases ((Run.onServer ⟨config, c.envNames, storeOf (fs.view s.files).readText config⟩
      (machine fs env replies wording).send (machine fs env replies wording).sink
      session).run s).1 with
  | error e => rfl
  | ok report => rfl

/-- The run ends before the session is closed, and what closing does is not looked at. -/
theorem onServer_run (run : Run) (session : Session)
    {result : Except (RunError ApiError FileError) Report} {session' : Session}
    {after : Surroundings F}
    (h : ((run.execute (Session.source (machine fs env replies wording).send)
      ((machine fs env replies wording).sink.withState Session)).run.run session).run s =
        ((result, session'), after)) :
    (run.onServer (machine fs env replies wording).send (machine fs env replies wording).sink
      session).run s =
      (result, ((session'.close (machine fs env replies wording).send).run after).2) := by
  unfold Run.onServer
  rw [StateT.run_bind, h]
  rfl

/-- How the program ends. -/
def concluded : Except Failure Report → Outcome
  | .ok report => { output := summary report }
  | .error problem => { code := 1, complaint := problem.message }

theorem execute_generate_run (s : Surroundings F) :
    ((Command.generate configPath envFile).execute (machine fs env replies wording)).run s =
      (let p := ((machine fs env replies wording).generate configPath envFile).run.run s
      (concluded p.1, p.2)) := by
  have hrun :
      ((Command.generate configPath envFile).execute (machine fs env replies wording)).run s =
      (let p := ((machine fs env replies wording).generate configPath envFile).run.run s
      (match p.1 with
        | .ok report => (pure { output := summary report } : StateM (Surroundings F) Outcome)
        | .error problem => pure { code := 1, complaint := problem.message }).run p.2) := rfl
  rw [hrun]
  dsimp only
  cases (((machine fs env replies wording).generate configPath envFile).run.run s).1 with
  | ok report => rfl
  | error problem => rfl

theorem execute_run {arguments : List String} {r : Except Failure Report} {after : Surroundings F}
    (h : Command.ofArguments? arguments = some (.generate configPath envFile))
    (hrun : ((machine fs env replies wording).generate configPath envFile).run.run s = (r, after)) :
    (execute (machine fs env replies wording) arguments).run s = (concluded r, after) := by
  unfold execute
  rw [h]
  dsimp only
  rw [execute_generate_run, hrun]

/-- A generation, however it is asked for, comes to nothing at the first fault: an environment file
that cannot be loaded, no config, missing variables, or no address. It is reported, and neither is a
request sent nor a file touched. Without a fault there is a run, and the exit code is 0 exactly if
the run succeeds: the session is closed behind it, and how that ends does not matter. -/
theorem generate_outcome (fs : FileSystem F) (env : Environment) (replies : Replies)
    (wording : Wording) {arguments : List String}
    (h : Command.ofArguments? arguments = some (.generate configPath envFile))
    (before : Surroundings F) :
    let view := fs.view before.files
    let m := machine fs env replies wording
    let ended := (execute m arguments).run before
    ((∃ step problem, Fault view env configPath envFile wording step problem) →
      ∃ step problem, FirstFault view env configPath envFile wording step problem) ∧
    (∀ step problem, FirstFault view env configPath envFile wording step problem →
      ended = ({ code := 1, output := "", complaint := problem.message }, before)) ∧
    ((∀ step problem, ¬ Fault view env configPath envFile wording step problem) →
      ∃ run session, Ready view env configPath envFile run session) ∧
    ∀ run session, Ready view env configPath envFile run session →
      ∃ result session' after,
        ((run.execute (Session.source m.send) (m.sink.withState Session)).run.run session).run
          before = ((result, session'), after) ∧
        ended.2 = ((session'.close m.send).run after).2 ∧
        (ended.1.code = 0 ↔ ∃ report, result = .ok report) := by
  intro view m ended
  refine ⟨exists_firstFault, fun step problem hfirst => ?_, exists_ready,
    fun run session hready => ?_⟩
  · exact execute_run replies h (hfirst.reads replies)
  · rcases hexecuted : ((run.execute (Session.source m.send)
      (m.sink.withState Session)).run.run session).run before with ⟨⟨result, session'⟩, after⟩
    have hgenerate := hready.generate_run replies wording
    dsimp only at hgenerate
    rw [onServer_run replies run session hexecuted] at hgenerate
    have hended : ended = (concluded (reported wording result),
      ((session'.close m.send).run after).2) := execute_run replies h hgenerate
    refine ⟨result, session', after, rfl, by rw [hended], ?_⟩
    rw [hended]
    cases result with
    | ok report => exact ⟨fun _ => ⟨report, rfl⟩, fun _ => rfl⟩
    | error e =>
      constructor
      · intro hcode
        cases hcode
      · rintro ⟨report, hreport⟩
        cases hreport

end Machines

/-! ## Three invocations -/

/-- Files that are found by their exact paths, with every directory there. -/
def namedFiles : FileSystem (List (Path × String)) where
  view files :=
    { readText := fun path =>
        match files.lookup path with
        | some text => .ok text
        | none => .error .notFound
      isFile := fun path => if (files.lookup path).isSome then .ok true else .error .notFound
      workingDir := .ok ⟨"/project"⟩
      contains := fun path => (files.lookup path).isSome }
  sink :=
    { ensureDir := fun _ => return .ok ()
      writeFile := fun path text => modifyGet fun files => (.ok (), (path, text) :: files) }

/-- The variables of an account. -/
def accountVariables : Environment := fun name =>
  [("FM_SERVER", "fm.example.com"), ("FM_DATABASE", "Sales"), ("FM_USERNAME", "admin"),
    ("FM_PASSWORD", "secret")].lookup name

/-- A server that lets an account in, says of every layout that it is missing, and is gone when the
session is to be closed. -/
def vanishing : Replies := fun _ request =>
  match request.method with
  | .post => .answer 200 ("\x7b\"response\": \x7b\"token\": \"t1\"\x7d, " ++
    "\"messages\": [\x7b\"code\": \"0\", \"message\": \"OK\"\x7d]\x7d")
  | .get => .answer 401 ("\x7b\"response\": \x7b\x7d, " ++
    "\"messages\": [\x7b\"code\": \"105\", \"message\": \"Layout is missing\"\x7d]\x7d")
  | .delete => .unreachable "connection refused"

/-- The session that these variables give. -/
def accountSession : Session :=
  ⟨"https://fm.example.com/fmi/data/vLatest/databases/Sales", .account "admin" "secret", none⟩

/-- A run for one layout, with the names of these variables. -/
def accountRun : Run where
  config := { schemas := [{ layout := "A", name := "A" }] }
  envNames := ⟨"FM_SERVER", "FM_DATABASE", .account "FM_USERNAME" "FM_PASSWORD"⟩

/-- The text of its config. -/
def accountConfig : String :=
  "[[schemas]]\nlayout = \"A\"\nschema_name = \"A\"\n"

/-- A wording that says nothing. -/
def noWords : Wording where
  answer _ := ""
  config _ := ""

/-- A working directory with this config, below a directory whose environment file has a line that
is no assignment. -/
def strayDisk : Disk :=
  .ofFiles [(Config.defaultPath, accountConfig), (⟨"../.env"⟩, "FM_SERVER")]

/-- This config alone. -/
def accountFiles : List (Path × String) :=
  [(Config.defaultPath, accountConfig)]

theorem firstFault_of_no_files :
    FirstFault (Disk.fileSystem.view {}) accountVariables Config.defaultPath (some ⟨"other.env"⟩)
      noWords .envFile (.problem [envContext (some ⟨"other.env"⟩), FileError.notFound.message,
        FileError.notFound.message]) := by
  have hread : (Disk.fileSystem.view {}).readText ⟨"other.env"⟩ = .error .notFound := by rfl
  have htext : EnvText (Disk.fileSystem.view {}) (some ⟨"other.env"⟩) (.error .notFound) :=
    hread ▸ .named _
  exact ⟨.envFile (.unreadable htext (by simp)), by simp [Step.earlier]⟩

/-- The environment file of the directory above counts where the working directory has none. -/
theorem firstFault_of_strayDisk :
    FirstFault (Disk.fileSystem.view strayDisk) accountVariables Config.defaultPath none noWords
      .envFile (.problem [envContext none, EnvFile.BadLine.message ⟨"FM_SERVER", 9⟩]) := by
  have hup : strayDisk.workingDir.ancestors = [⟨"/home/project"⟩] ++ ⟨"/home"⟩ :: [⟨"/"⟩] := by rfl
  have hbelow : ∀ d ∈ [(⟨"/home/project"⟩ : Path)], Passes (Disk.fileSystem.view strayDisk) d := by
    intro d hd
    rw [List.mem_singleton.mp hd]
    exact .inr rfl
  have hfile : (Disk.fileSystem.view strayDisk).isFile (envPath ⟨"/home"⟩) = .ok true := by rfl
  have hread : (Disk.fileSystem.view strayDisk).readText (envPath ⟨"/home"⟩) = .ok "FM_SERVER" := by
    rfl
  have htext := EnvText.nearest rfl hup hbelow hfile
  rw [hread] at htext
  have hline : EnvFile.ofText "FM_SERVER" = .error ⟨"FM_SERVER", 9⟩ := by rfl
  exact ⟨.envFile (.malformed htext hline), by simp [Step.earlier]⟩

theorem ready_accountRun :
    Ready (namedFiles.view accountFiles) accountVariables Config.defaultPath none accountRun
      accountSession := by
  have hpasses : ∀ d ∈ [(⟨"/project"⟩ : Path), ⟨"/"⟩],
      Passes (namedFiles.view accountFiles) d := by
    simp only [List.forall_mem_cons]
    exact ⟨.inr rfl, .inr rfl, by simp⟩
  have hread : (namedFiles.view accountFiles).readText Config.defaultPath = .ok accountConfig := by
    rfl
  have htext : Config.ofToml? accountConfig = some accountRun.config := by decide +kernel
  have hc : (EnvFile.load accountVariables []).connection accountRun.config.environment =
      .ok ⟨"fm.example.com", "Sales", .account "admin" "secret", accountRun.envNames⟩ := by rfl
  exact .intro (.absent (.nowhere rfl hpasses) rfl) ⟨⟨accountConfig, hread, htext⟩, rfl⟩ hc rfl

theorem execute_accountRun :
    let m := Surroundings.machine namedFiles accountVariables vanishing noWords
    let r := ((accountRun.execute (Session.source m.send) (m.sink.withState Session)).run.run
      accountSession).run ⟨accountFiles, []⟩
    r.1.1.toOption = some ⟨[], [], ["A"]⟩ ∧ r.1.2 = { accountSession with token := some "t1" } := by
  decide +kernel

/-- Where neither the environment file that is asked for nor a config is there, the environment file
is what is reported. Of an environment file that nobody asked for, in the directory above, a line
that is no assignment is reported, though the config and the variables would do. With these alone
the program ends well, though its session cannot be closed. -/
theorem generate_outcome_of_env_files :
    let onDisk := Surroundings.machine Disk.fileSystem accountVariables vanishing noWords
    let m := Surroundings.machine namedFiles accountVariables vanishing noWords
    let before : Surroundings (List (Path × String)) := ⟨accountFiles, []⟩
    (execute onDisk ["generate", "--env-path", "other.env"]).run ⟨{}, []⟩ =
      ({ code := 1
         output := ""
         complaint := (Failure.problem [envContext (some ⟨"other.env"⟩),
          FileError.notFound.message, FileError.notFound.message]).message }, ⟨{}, []⟩) ∧
    (execute onDisk []).run ⟨strayDisk, []⟩ =
      ({ code := 1
         output := ""
         complaint := (Failure.problem [envContext none,
          EnvFile.BadLine.message ⟨"FM_SERVER", 9⟩]).message }, ⟨strayDisk, []⟩) ∧
    ((execute m []).run before).1.code = 0 ∧
    ∃ (session' : Session) (after : Surroundings (List (Path × String))),
      ((execute m []).run before).2 = ((session'.close m.send).run after).2 ∧
      ((session'.logout m.send).run after).1.1 =
        .error (.transport (Server.sessionUrl accountSession.base "t1") "connection refused") := by
  have hother : Command.ofArguments? ["generate", "--env-path", "other.env"] =
      some (.generate Config.defaultPath (some ⟨"other.env"⟩)) := by rfl
  have hplain : Command.ofArguments? [] = some (.generate Config.defaultPath none) := by rfl
  have haborted := (generate_outcome Disk.fileSystem accountVariables vanishing noWords hother
    ⟨{}, []⟩).2.1
  have hstray := (generate_outcome Disk.fileSystem accountVariables vanishing noWords hplain
    ⟨strayDisk, []⟩).2.1
  have hdone := (generate_outcome namedFiles accountVariables vanishing noWords hplain
    ⟨accountFiles, []⟩).2.2.2 _ _ ready_accountRun
  obtain ⟨result, session', after, hexecuted, hafter, hcode⟩ := hdone
  obtain ⟨hreport, hsession⟩ := execute_accountRun
  rw [hexecuted] at hreport hsession
  obtain rfl : session' = { accountSession with token := some "t1" } := hsession
  obtain ⟨report, rfl⟩ : ∃ report, result = .ok report := by
    cases result with
    | ok report => exact ⟨report, rfl⟩
    | error e => cases hreport
  have hzero := hcode.mpr ⟨report, rfl⟩
  refine ⟨haborted .envFile _ firstFault_of_no_files, hstray .envFile _ firstFault_of_strayDisk,
    hzero, _, after, hafter, ?_⟩
  rfl

end TypedLayouts.CommandLine
