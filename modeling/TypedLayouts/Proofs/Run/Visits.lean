import TypedLayouts.Proofs.Run.Program

/-!
# What a run does with each schema

A run visits the schemas of its config in order. A visit is a schema with what came of the fetch:
the metadata, or the layout that is missing. The visits determine everything that a run does when
nothing fails: its events, the files it writes and the account that it keeps.
-/

namespace TypedLayouts

open Layout (FetchError Metadata)
open TypedLayouts.Module (indexModule)
open TypeScript (Document)

/-- A schema of a config with what came of its fetch: its metadata, or the layout that is reported
missing. -/
structure Visit where
  /-- The schema. -/
  schema : SchemaConfig
  /-- The metadata, or a missing layout. -/
  found : Except String Metadata

variable {ε φ : Type}

namespace Visit

/-- What the source said. -/
def answer (v : Visit) : Except (FetchError ε) Metadata :=
  v.found.mapError .notFound

/-- The layout was found. -/
def isFound (v : Visit) : Bool :=
  v.found.isOk

/-- The layout that was reported missing. -/
def missing? (v : Visit) : Option String :=
  match v.found with
  | .ok _ => none
  | .error missing => some missing

end Visit

namespace Run

variable (run : Run)

/-- The schema gets a client, if its layout is found. -/
def wantsClient (schema : SchemaConfig) : Bool :=
  (run.config.view schema).generateClient

/-- The schema of a visit gets a client. -/
def givesClient (v : Visit) : Bool :=
  v.isFound && run.wantsClient v.schema

/-- The files that a visit writes, with their texts. -/
def visitWrites (v : Visit) : List (Path × String) :=
  match v.found with
  | .error _ => []
  | .ok metadata =>
    (run.schemaPath v.schema.name, (run.blueprint v.schema metadata).schemaModule.renderFile)
      :: (if run.wantsClient v.schema then
          [(run.clientPath v.schema.name,
            (run.blueprint v.schema metadata).clientModule.renderFile)]
        else [])

/-- The account behind a visit. -/
def advance (p : Progress) (v : Visit) : Progress :=
  match v.found with
  | .error missing => p.skip missing
  | .ok _ =>
    let p := p.wrote (run.schemaPath v.schema.name)
    if run.wantsClient v.schema then
      (p.wrote (run.clientPath v.schema.name)).addClient v.schema.name
    else p

/-- The events with which a client is written. -/
def clientEvents (v : Visit) (metadata : Metadata) (p : Progress) : Trace ε φ :=
  (if p.hasNoClients then [.ensured run.clientDir (.ok ())] else [])
    ++ [.wrote (run.clientPath v.schema.name)
      (run.blueprint v.schema metadata).clientModule.renderFile (.ok ())]

/-- The events of a visit. -/
def visitEvents (p : Progress) (v : Visit) : Trace ε φ :=
  .fetched v.schema.layout v.answer
    :: match v.found with
      | .error _ => []
      | .ok metadata =>
        .wrote (run.schemaPath v.schema.name)
            (run.blueprint v.schema metadata).schemaModule.renderFile (.ok ())
          :: (if run.wantsClient v.schema then run.clientEvents v metadata p else [])

/-- The events of several visits. -/
def visitsEvents : Progress → List Visit → Trace ε φ
  | _, [] => []
  | p, v :: rest => run.visitEvents p v ++ visitsEvents (run.advance p v) rest

end Run

/-! ## Parts of a run that succeed -/

/-- A chain that succeeds has a first part that succeeds. -/
theorem Action.ok_of_bind {α β : Type} {x : Action ε φ α} {f : α → Action ε φ β} {b : β}
    {t t' : Trace ε φ} (h : (x >>= f).after t = (.ok b, t')) :
    ∃ a t₁, x.after t = (.ok a, t₁) ∧ (f a).after t₁ = (.ok b, t') := by
  rw [Action.after_bind] at h
  rcases hx : x.after t with ⟨problem | a, t₁⟩
  · rw [hx] at h
    cases h
  · rw [hx] at h
    exact ⟨a, t₁, rfl, h⟩

namespace World

variable {w : World ε φ} {t t' : Trace ε φ}

/-- A look-up that succeeds is a fetch that found a layout or found it missing. -/
theorem lookUp_ok {layout : String} {found : Except String Metadata}
    (h : (w.lookUp layout).after t = (.ok found, t')) :
    t' = t ++ [.fetched layout (found.mapError .notFound)] := by
  rw [after_lookUp] at h
  have he : w.answer t (.fetch layout) = .fetched layout (w.fetch t layout) := rfl
  rw [he] at h
  rcases hf : w.fetch t layout with (missing | ⟨failing, cause⟩) | metadata
  · rw [hf] at h
    cases h
    rfl
  · rw [hf] at h
    cases h
  · rw [hf] at h
    cases h
    rfl

/-- A directory that could be made. -/
theorem ensureDir_ok {dir : Path} {u : Unit}
    (h : Action.after (Run.ensureDir w.sink dir) t = (.ok u, t')) :
    t' = t ++ [.ensured dir (.ok ())] := by
  rw [after_ensureDir] at h
  have he : w.answer t (.ensureDir dir) = .ensured dir (w.ensureDir t dir) := rfl
  rw [he] at h
  cases hd : w.ensureDir t dir with
  | ok a =>
    rw [hd] at h
    cases h
    rfl
  | error cause =>
    rw [hd] at h
    cases h

/-- A module that could be written. -/
theorem writeModule_ok {path : Path} {doc : Document} {p p' : Progress}
    (h : Action.after (Run.writeModule w.sink path doc p) t = (.ok p', t')) :
    t' = t ++ [.wrote path doc.renderFile (.ok ())] ∧ p' = p.wrote path := by
  rw [after_writeModule] at h
  have he : w.answer t (.writeFile path doc.renderFile) =
      .wrote path doc.renderFile (w.writeFile t path doc.renderFile) := rfl
  rw [he] at h
  cases hf : w.writeFile t path doc.renderFile with
  | ok a =>
    rw [hf] at h
    cases h
    exact ⟨rfl, rfl⟩
  | error cause =>
    rw [hf] at h
    cases h

end World

namespace Run

variable {run : Run} {w : World ε φ} {t t' : Trace ε φ} {p p' : Progress}

/-- A client that could be written. -/
theorem writeClient_ok {v : Visit} {metadata : Metadata}
    (h : Action.after (run.writeClient w.sink (run.blueprint v.schema metadata) p) t =
      (.ok p', t')) :
    t' = t ++ run.clientEvents v metadata p ∧
      p' = (p.wrote (run.clientPath v.schema.name)).addClient v.schema.name := by
  have hmodule : ∀ {t₁ : Trace ε φ},
      Action.after (writeModule w.sink (run.clientPath v.schema.name)
        (run.blueprint v.schema metadata).clientModule p >>= fun p =>
          pure (p.addClient v.schema.name)) t₁ = (.ok p', t') →
      t' = t₁ ++ [.wrote (run.clientPath v.schema.name)
        (run.blueprint v.schema metadata).clientModule.renderFile (.ok ())] ∧
        p' = (p.wrote (run.clientPath v.schema.name)).addClient v.schema.name := by
    intro t₁ hrun
    obtain ⟨p₁, t₂, hwrite, hend⟩ := Action.ok_of_bind hrun
    obtain ⟨rfl, rfl⟩ := World.writeModule_ok hwrite
    cases hend
    exact ⟨rfl, rfl⟩
  unfold writeClient at h
  unfold clientEvents
  cases hp : p.hasNoClients with
  | true =>
    simp only [hp, if_true] at h ⊢
    obtain ⟨u, t₁, hdir, hrest⟩ := Action.ok_of_bind h
    rw [World.ensureDir_ok hdir] at hrest
    obtain ⟨rfl, rfl⟩ := hmodule hrest
    exact ⟨List.append_assoc .., rfl⟩
  | false =>
    simp only [hp, Bool.false_eq_true, if_false] at h ⊢
    exact hmodule h

/-- A schema that could be generated. -/
theorem generateSchema_ok {schema : SchemaConfig}
    (h : Action.after (run.generateSchema w.source w.sink schema p) t = (.ok p', t')) :
    ∃ v : Visit, v.schema = schema ∧ t' = t ++ run.visitEvents p v ∧ p' = run.advance p v := by
  rw [generateSchema_eq] at h
  obtain ⟨found, t₁, hfetch, hrest⟩ := Action.ok_of_bind h
  refine ⟨⟨schema, found⟩, rfl, ?_⟩
  rw [World.lookUp_ok hfetch] at hrest
  unfold visitEvents advance
  cases found with
  | error missing =>
    cases hrest
    exact ⟨rfl, rfl⟩
  | ok metadata =>
    obtain ⟨p₁, t₂, hwrite, hend⟩ := Action.ok_of_bind hrest
    obtain ⟨rfl, rfl⟩ := World.writeModule_ok hwrite
    dsimp only at hend ⊢
    unfold wantsClient
    cases hc : (run.config.view schema).generateClient with
    | true =>
      simp only [hc, if_true] at hend ⊢
      obtain ⟨rfl, rfl⟩ := writeClient_ok (v := ⟨schema, .ok metadata⟩) hend
      exact ⟨by simp only [List.append_assoc]; rfl, rfl⟩
    | false =>
      simp only [hc, Bool.false_eq_true, if_false] at hend ⊢
      cases hend
      exact ⟨by simp only [List.append_assoc]; rfl, rfl⟩

/-- Schemas that could be generated are visited in order. -/
theorem generateSchemas_ok {schemas : List SchemaConfig}
    (h : Action.after (run.generateSchemas w.source w.sink schemas p) t = (.ok p', t')) :
    ∃ visits : List Visit, visits.map Visit.schema = schemas ∧
      t' = t ++ run.visitsEvents p visits ∧ p' = visits.foldl run.advance p := by
  induction schemas generalizing p t with
  | nil =>
    cases h
    exact ⟨[], rfl, (List.append_nil _).symm, rfl⟩
  | cons schema rest ih =>
    obtain ⟨p₁, t₁, hfirst, hrest⟩ := Action.ok_of_bind h
    obtain ⟨v, rfl, rfl, rfl⟩ := generateSchema_ok hfirst
    obtain ⟨visits, rfl, rfl, rfl⟩ := ih hrest
    exact ⟨v :: visits, rfl, List.append_assoc .., rfl⟩

end Run

end TypedLayouts
