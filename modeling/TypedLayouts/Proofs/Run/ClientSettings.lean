import TypedLayouts.Proofs.Module.CarriedStore
import TypedLayouts.Proofs.Run.Independence

/-!
# What the settings of clients change

The names of environment variables and the token store are settings of clients. A run uses them for
the texts of client modules and for nothing else, and clients of a web viewer use none of them. So
the events of a run can be laid out before the settings are known: each place holds an event, or a
client of which only the text is still open.

The source is arbitrary, and its answers may depend on what it was asked before. It does not read
what the run writes, which is why it answers alike whatever the settings are.
-/

namespace TypedLayouts

open Layout (FetchError Metadata)
open TypedLayouts.Module (Blueprint EnvNames)
open TypeScript (Document Expr)

variable {ε φ α β : Type}

/-- What clients are made with. -/
structure ClientSettings where
  /-- The environment variables that clients read. -/
  envNames : EnvNames
  /-- The token store that standard clients use. -/
  tokenStore : Option Expr

/-- The run with other settings for its clients. -/
def Run.withClients (run : Run) (settings : ClientSettings) : Run :=
  { run with envNames := settings.envNames, tokenStore := settings.tokenStore }

/-- Schema modules do not depend on the settings of clients. -/
theorem Run.schemaModule_withClients (run : Run) (settings : ClientSettings)
    (schema : SchemaConfig) (metadata : Metadata) :
    ((run.withClients settings).blueprint schema metadata).schemaModule =
      (run.blueprint schema metadata).schemaModule :=
  rfl

/-- The world of a source that knows what it was asked before, and of a sink that never fails. -/
def World.ofSource (source : List String → String → Except (FetchError ε) Metadata) :
    World ε φ where
  fetch t layout := source (t.fetches.map Prod.fst) layout
  ensureDir _ _ := .ok ()
  writeFile _ _ _ := .ok ()

/-- A place for an event of a run: an event that is no client, or the client of a schema. -/
inductive Place (ε φ : Type) where
  /-- An event that the settings of clients do not change. -/
  | fixed (e : Event ε φ) (h : ¬ e.WritesClient)
  /-- The client module of a schema with the metadata of its layout. -/
  | client (schema : SchemaConfig) (metadata : Metadata)

namespace Place

/-- The event at a place of a run. -/
def event (run : Run) : Place ε φ → Event ε φ
  | .fixed e _ => e
  | .client schema metadata =>
    .wrote (run.clientPath schema.name)
      (run.blueprint schema metadata).clientModule.renderFile (.ok ())

/-- The layout that is asked about at a place. -/
def asked? : Place ε φ → Option String
  | .fixed (.fetched layout _) _ => some layout
  | _ => none

/-- What was asked does not depend on the run. -/
theorem fetches_events (run : Run) (places : List (Place ε φ)) :
    (Trace.fetches (places.map (event run))).map Prod.fst = places.filterMap asked? := by
  induction places with
  | nil => rfl
  | cons place places ih =>
    rw [List.map_cons]
    cases place with
    | fixed e h =>
      cases e with
      | fetched layout answer => exact congrArg (List.cons layout) ih
      | ensured dir answer => exact ih
      | wrote path text answer => exact ih
    | client schema metadata => exact ih

end Place

/-! ## Parts of a run that use settings for clients alone -/

/-- A part of a run, for each choice of settings, that comes to the same result through the same
places. -/
def Run.Uniform (run : Run) (x : ClientSettings → Action ε φ α) : Prop :=
  ∀ places : List (Place ε φ), ∃ r more, ∀ c,
    (x c).after (places.map (Place.event (run.withClients c))) =
      (r, (places ++ more).map (Place.event (run.withClients c)))

namespace Run.Uniform

variable {run : Run}

theorem pure (a : α) : run.Uniform fun _ => (Pure.pure a : Action ε φ α) := by
  intro places
  refine ⟨.ok a, [], fun c => ?_⟩
  rw [Action.after_pure, List.append_nil]

theorem bind {x : ClientSettings → Action ε φ α} {f : α → ClientSettings → Action ε φ β}
    (hx : run.Uniform x) (hf : ∀ a, run.Uniform (f a)) :
    run.Uniform fun c => x c >>= fun a => f a c := by
  intro places
  obtain ⟨r, more, hrun⟩ := hx places
  cases r with
  | error problem =>
    refine ⟨.error problem, more, fun c => ?_⟩
    rw [Action.after_bind, hrun]
  | ok a =>
    obtain ⟨r, rest, hrest⟩ := hf a (places ++ more)
    refine ⟨r, more ++ rest, fun c => ?_⟩
    rw [Action.after_bind, hrun]
    dsimp only
    rw [hrest, List.append_assoc]

/-- A call whose event takes one place, with a result that does not depend on the settings. -/
theorem of_call {x : ClientSettings → Action ε φ α}
    (h : ∀ places : List (Place ε φ), ∃ r place, ∀ c,
      (x c).after (places.map (Place.event (run.withClients c))) =
        (r, places.map (Place.event (run.withClients c))
          ++ [Place.event (run.withClients c) place])) : run.Uniform x := by
  intro places
  obtain ⟨r, place, hrun⟩ := h places
  refine ⟨r, [place], fun c => ?_⟩
  rw [hrun, List.map_append, List.map_singleton]

section Calls

variable (source : List String → String → Except (FetchError ε) Metadata)

theorem lookUp (layout : String) :
    run.Uniform fun _ => (World.ofSource source : World ε φ).lookUp layout := by
  refine of_call fun places => ?_
  -- What a fetch gives depends on the layouts asked for, which are those of any run.
  have hfetch : ∀ other : Run,
      (World.ofSource source : World ε φ).fetch (places.map (Place.event other)) layout =
        source (places.filterMap Place.asked?) layout :=
    fun other => congrArg (source · layout) (Place.fetches_events other places)
  refine ⟨(((World.ofSource source).lookUp layout).after (places.map (Place.event run))).1,
    .fixed (.fetched layout (source (places.filterMap Place.asked?) layout))
      Event.not_writesClient_fetched, fun c => ?_⟩
  rw [World.after_lookUp, World.after_lookUp, World.answer, hfetch, hfetch]
  rfl

theorem ensureDir (dir : Path) :
    run.Uniform fun _ => Run.ensureDir (World.ofSource source : World ε φ).sink dir := by
  refine of_call fun places => ?_
  refine ⟨.ok (), .fixed (.ensured dir (.ok ())) Event.not_writesClient_ensured, fun c => ?_⟩
  rw [World.after_ensureDir]
  rfl

/-- A module that is no client has its own text. -/
theorem writeModule (path : Path) {doc : Document} (p : Progress)
    (h : ∀ b : Blueprint, doc.renderFile ≠ b.clientModule.renderFile) :
    run.Uniform fun _ =>
      Run.writeModule (World.ofSource source : World ε φ).sink path doc p := by
  have hfixed : ¬ (.wrote path doc.renderFile (.ok ()) : Event ε φ).WritesClient := by
    rintro ⟨path', b, answer, he⟩
    exact h b (Event.wrote.inj he).2.1
  refine of_call fun places => ?_
  refine ⟨.ok (p.wrote path), .fixed (.wrote path doc.renderFile (.ok ())) hfixed, fun c => ?_⟩
  rw [World.after_writeModule]
  rfl

/-- The client module of a schema takes the place of that client. -/
theorem writeClientModule (schema : SchemaConfig) (metadata : Metadata) (p : Progress) :
    run.Uniform fun c =>
      Run.writeModule (World.ofSource source : World ε φ).sink
        ((run.withClients c).clientPath schema.name)
        ((run.withClients c).blueprint schema metadata).clientModule p := by
  refine of_call fun places => ?_
  refine ⟨.ok (p.wrote (run.clientPath schema.name)), .client schema metadata, fun c => ?_⟩
  rw [World.after_writeModule]
  rfl

end Calls

variable (run) (source : List String → String → Except (FetchError ε) Metadata)

theorem writeClient (schema : SchemaConfig) (metadata : Metadata) (p : Progress) :
    run.Uniform fun c =>
      (run.withClients c).writeClient (World.ofSource source : World ε φ).sink
        ((run.withClients c).blueprint schema metadata) p := by
  have hmodule : run.Uniform fun c =>
      Run.writeModule (World.ofSource source : World ε φ).sink
          ((run.withClients c).clientPath schema.name)
          ((run.withClients c).blueprint schema metadata).clientModule p >>= fun p =>
        Pure.pure (p.addClient schema.name) :=
    bind (writeClientModule source schema metadata p) fun p => pure _
  unfold Run.writeClient
  by_cases hp : p.hasNoClients = true
  · simp only [hp, if_true]
    exact bind (ensureDir source run.clientDir) fun _ => hmodule
  · simp only [hp]
    exact hmodule

theorem generateFound (schema : SchemaConfig) (metadata : Metadata) (p : Progress) :
    run.Uniform fun c =>
      (run.withClients c).generateFound (World.ofSource source : World ε φ) schema metadata p := by
  have hmodule : run.Uniform fun _ =>
      Run.writeModule (World.ofSource source : World ε φ).sink (run.schemaPath schema.name)
        (run.blueprint schema metadata).schemaModule p :=
    writeModule source _ p (run.blueprint schema metadata).schemaModule_ne_clientModule
  unfold Run.generateFound
  simp only [schemaModule_withClients]
  refine bind hmodule fun p => ?_
  by_cases hc : (run.config.view schema).generateClient = true
  · have hc' : ∀ c, ((run.withClients c).config.view schema).generateClient = true := fun _ => hc
    simp only [hc', if_true]
    exact writeClient run source schema metadata p
  · have hc' : ∀ c, ¬ ((run.withClients c).config.view schema).generateClient = true := fun _ => hc
    simp only [hc']
    exact pure p

theorem generateSchema (schema : SchemaConfig) (p : Progress) :
    run.Uniform fun c =>
      (run.withClients c).generateSchema (World.ofSource source : World ε φ).source
        (World.ofSource source : World ε φ).sink schema p := by
  simp only [generateSchema_eq]
  refine bind (lookUp source schema.layout) fun found => ?_
  cases found with
  | error missing => exact pure _
  | ok metadata => exact generateFound run source schema metadata p

theorem generateSchemas (schemas : List SchemaConfig) (p : Progress) :
    run.Uniform fun c =>
      (run.withClients c).generateSchemas (World.ofSource source : World ε φ).source
        (World.ofSource source : World ε φ).sink schemas p := by
  induction schemas generalizing p with
  | nil => exact pure p
  | cons schema rest ih => exact bind (generateSchema run source schema p) ih

theorem writeIndex (p : Progress) :
    run.Uniform fun c =>
      (run.withClients c).writeIndex (World.ofSource source : World ε φ).sink p := by
  unfold Run.writeIndex
  cases p.hasNoClients with
  | true => exact pure p
  | false =>
    exact writeModule source run.indexPath p fun b => (b.clientModule_ne_index p.clients).symm

/-- A whole run uses the settings for clients alone. -/
theorem execute :
    run.Uniform fun c =>
      (run.withClients c).execute (World.ofSource source : World ε φ).source
        (World.ofSource source : World ε φ).sink :=
  bind (ensureDir source run.root) fun _ =>
    bind (generateSchemas run source run.config.schemas {}) fun p =>
      bind (writeIndex run source p) fun p => pure p.report

end Run.Uniform

/-! ## What becomes of a place -/

/-- The same event, which is no client, or clients that are written to one path. -/
def Event.SameButClient (e e' : Event ε φ) : Prop :=
  ¬ e.WritesClient ∧ e = e' ∨
    ∃ (path : Path) (b b' : Blueprint) (answer : Except φ Unit),
      e = .wrote path b.clientModule.renderFile answer ∧
        e' = .wrote path b'.clientModule.renderFile answer

/-- An event with a part of its text left open, if it is a client. -/
inductive Frame (ε φ : Type) where
  /-- An event that is no client. -/
  | whole (e : Event ε φ) (h : ¬ e.WritesClient)
  /-- A client module, up to a text between two others. -/
  | around (path : Path) (front back : String)
      (h : ∀ text, ∃ b : Blueprint, b.clientModule.renderFile = front ++ text ++ back)

/-- The event of a frame with its open part. -/
def Frame.event (text : String) : Frame ε φ → Event ε φ
  | .whole e _ => e
  | .around path front back _ => .wrote path (front ++ text ++ back) (.ok ())

namespace Place

variable (run : Run)

theorem sameButClient (settings settings' : ClientSettings) (place : Place ε φ) :
    (place.event (run.withClients settings)).SameButClient
      (place.event (run.withClients settings')) := by
  cases place with
  | fixed e h => exact .inl ⟨h, rfl⟩
  | client schema metadata => exact .inr ⟨_, _, _, _, rfl, rfl⟩

/-- Clients of a web viewer use no settings. -/
theorem event_of_webViewer {script : String} (h : run.config.webViewerScript = some script)
    (settings settings' : ClientSettings) (place : Place ε φ) :
    place.event (run.withClients settings) = place.event (run.withClients settings') := by
  cases place with
  | fixed e h => rfl
  | client schema metadata =>
    have htarget : ∀ c, (run.withClients c).target = .webViewer script := by
      intro c
      unfold Run.target
      rw [show (run.withClients c).config.webViewerScript = some script from h]
    have hclient : ∀ c, ((run.withClients c).blueprint schema metadata).clientModule =
        { (run.blueprint schema metadata) with target := .webViewer script }.clientModule := by
      intro c
      unfold Run.blueprint
      rw [htarget]
      rfl
    dsimp only [event]
    rw [hclient settings, hclient settings']
    rfl

/-- A verbatim token store is a part of the text of a standard client. -/
theorem frame_of_standard (h : run.config.webViewerScript = none) (names : EnvNames)
    (place : Place ε φ) :
    ∃ frame : Frame ε φ, ∀ text,
      place.event (run.withClients ⟨names, some (.raw text)⟩) = frame.event text := by
  cases place with
  | fixed e h => exact ⟨.whole e h, fun _ => rfl⟩
  | client schema metadata =>
    let b := (run.withClients ⟨names, none⟩).blueprint schema metadata
    have hblueprint : ∀ store,
        (run.withClients ⟨names, some store⟩).blueprint schema metadata =
          b.withTokenStore store := by
      intro store
      have htarget : (run.withClients ⟨names, some store⟩).target = .standard (some store) := by
        unfold Run.target
        rw [show (run.withClients ⟨names, some store⟩).config.webViewerScript = none from h]
        rfl
      unfold Run.blueprint
      rw [htarget]
      rfl
    obtain ⟨front, back, htext⟩ := b.renderFile_clientModule_raw
    refine ⟨.around (run.clientPath schema.name) front back fun text => ⟨_, htext text⟩,
      fun text => ?_⟩
    dsimp only [event]
    rw [hblueprint, htext]
    rfl

theorem frames_of_standard (h : run.config.webViewerScript = none) (names : EnvNames)
    (places : List (Place ε φ)) :
    ∃ frames : List (Frame ε φ), ∀ text,
      places.map (event (run.withClients ⟨names, some (.raw text)⟩)) =
        frames.map (Frame.event text) := by
  choose frame hframe using frame_of_standard (ε := ε) (φ := φ) run h names
  refine ⟨places.map frame, fun text => ?_⟩
  rw [List.map_map]
  exact List.map_congr_left fun place _ => hframe place text

end Place

/-- How far the settings of clients reach. Whatever they are, a run has the same result and the same
events but for the texts of client modules. Clients of a web viewer have the same texts, too. In
standard clients a verbatim token store is carried as it is: each client module is a text in front
of it and a text behind it that do not depend on it, and nothing else depends on it. -/
theorem Run.reach_of_clientSettings (run : Run)
    (source : List String → String → Except (FetchError ε) Metadata) :
    let w : World ε φ := .ofSource source
    (∀ c c', (run.withClients c).resultIn w = (run.withClients c').resultIn w ∧
      List.Forall₂ Event.SameButClient ((run.withClients c).traceIn w)
        ((run.withClients c').traceIn w)) ∧
      match run.config.webViewerScript with
      | some _ => ∀ c c', (run.withClients c).traceIn w = (run.withClients c').traceIn w
      | none => ∀ names, ∃ frames : List (Frame ε φ), ∀ text,
          (run.withClients ⟨names, some (.raw text)⟩).traceIn w =
            frames.map (Frame.event text) := by
  intro w
  obtain ⟨result, places, hrun⟩ := Uniform.execute (φ := φ) run source []
  have hresult : ∀ c, (run.withClients c).resultIn w = result := fun c =>
    congrArg Prod.fst (hrun c)
  have htrace : ∀ c, (run.withClients c).traceIn w =
      places.map (Place.event (run.withClients c)) := fun c =>
    congrArg Prod.snd (hrun c)
  refine ⟨fun c c' => ⟨?_, ?_⟩, ?_⟩
  · rw [hresult, hresult]
  · rw [htrace, htrace, List.forall₂_map_left_iff, List.forall₂_map_right_iff,
      List.forall₂_same]
    exact fun place _ => place.sameButClient run c c'
  · cases hscript : run.config.webViewerScript with
    | some script =>
      intro c c'
      rw [htrace, htrace]
      exact List.map_congr_left fun place _ => place.event_of_webViewer run hscript c c'
    | none =>
      intro names
      obtain ⟨frames, hframes⟩ := Place.frames_of_standard run hscript names places
      refine ⟨frames, fun text => ?_⟩
      rw [htrace, hframes]

end TypedLayouts
