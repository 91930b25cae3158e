import TypedLayouts.Proofs.Server.Missing
import TypedLayouts.Run.OnServer

/-!
# Fetches that end a run

A run on a server passes over a layout that a fetch says is not found, and any other failed fetch
ends it. A fetch says "not found" when the request about the layout is answered with the code of a
missing layout, which is what the code is for. But it also says so when the login in front of that
request is answered with this code, and then nothing was asked about the layout at all.
-/

namespace TypedLayouts

open Layout (FetchError Metadata)
open Server (ApiError Exchange History LoginMissing LookupMissing Replies Session recording)

variable {ε φ α β : Type}

namespace Run

section Monads

variable {m : Type → Type} [Monad m] [LawfulMonad m] (run : Run) (source : Source ε m)
  (sink : Sink φ m)

theorem generateSchemas_append (front rest : List SchemaConfig) (p : Progress) :
    run.generateSchemas source sink (front ++ rest) p =
      run.generateSchemas source sink front p >>= run.generateSchemas source sink rest := by
  induction front generalizing p with
  | nil => simp [generateSchemas]
  | cons schema front ih =>
    simp only [List.cons_append, generateSchemas, bind_assoc]
    exact bind_congr fun p => ih p

/-- A run from its start through some schemas. -/
def through (schemas : List SchemaConfig) : ExceptT (RunError ε φ) m Progress := do
  ensureDir sink run.root
  run.generateSchemas source sink schemas {}

/-- A run goes through some of its schemas, then through the others, and ends with the index. -/
theorem execute_eq_through {front rest : List SchemaConfig}
    (h : run.config.schemas = front ++ rest) :
    run.execute source sink =
      run.through source sink front >>= run.generateSchemas source sink rest >>= fun p =>
        run.writeIndex sink p >>= fun p => pure p.report := by
  unfold execute through
  simp only [h, generateSchemas_append, bind_assoc]

end Monads

end Run

/-- A part of a run on a server, from a session and a history on. -/
def served (x : ExceptT (RunError ApiError φ) (StateT Session (StateM History)) α)
    (s : Session) (history : History) : (Except (RunError ApiError φ) α × Session) × History :=
  (x.run.run s).run history

theorem served_lift {x : StateT Session (StateM History) α} {s s' : Session}
    {history history' : History} {a : α} (h : (x s).run history = ((a, s'), history')) :
    served (liftM x : ExceptT (RunError ApiError φ) _ α) s history = ((.ok a, s'), history') := by
  have hlift : served (liftM x : ExceptT (RunError ApiError φ) _ α) s history =
      (let r := (x s).run history
      ((.ok r.1.1, r.1.2), r.2)) := rfl
  rw [hlift, h]

theorem served_bind_of_error
    {x : ExceptT (RunError ApiError φ) (StateT Session (StateM History)) α}
    {f : α → ExceptT (RunError ApiError φ) (StateT Session (StateM History)) β}
    {s s' : Session} {history history' : History} {problem : RunError ApiError φ}
    (h : served x s history = ((.error problem, s'), history')) :
    served (x >>= f) s history = ((.error problem, s'), history') := by
  unfold served at h ⊢
  rw [ExceptT.run_bind, StateT.run_bind, StateT.run_bind, h]
  rfl

theorem served_bind_of_ok
    {x : ExceptT (RunError ApiError φ) (StateT Session (StateM History)) α}
    {f : α → ExceptT (RunError ApiError φ) (StateT Session (StateM History)) β}
    {s s' : Session} {history history' : History} {a : α}
    (h : served x s history = ((.ok a, s'), history')) :
    served (x >>= f) s history = served (f a) s' history' := by
  unfold served at h ⊢
  rw [ExceptT.run_bind, StateT.run_bind, StateT.run_bind, h]
  rfl

namespace Run

variable (run : Run) {replies : Replies} (sink : Sink φ (StateM History))
  {schema : SchemaConfig} {front rest : List SchemaConfig} {p : Progress} {s s' session : Session}
  {history history' start : History} {name : String} {cause : ApiError}

/-- A failed fetch other than of a missing layout is the end of its schema. -/
theorem generateSchema_of_failed
    (h : (s.fetchMetadata (recording replies) schema.layout).run history =
      ((.error (.failed name cause), s'), history')) :
    served (run.generateSchema (Session.source (recording replies)) (sink.withState Session)
      schema p) s history = ((.error (.fetch (.failed name cause)), s'), history') := by
  have hfetch : ((Session.source (recording replies)).fetch schema.layout s).run history =
      ((.error (.failed name cause), s'), history') := h
  unfold generateSchema
  rw [served_bind_of_ok (served_lift hfetch)]
  rfl

/-- A run that comes to a layout whose fetch fails, other than because it is missing, ends with that
failure. -/
theorem onServer_of_failed (hschemas : run.config.schemas = front ++ schema :: rest)
    (hfront : served (run.through (Session.source (recording replies)) (sink.withState Session)
      front) session start = ((.ok p, s), history))
    (hfetch : (s.fetchMetadata (recording replies) schema.layout).run history =
      ((.error (.failed name cause), s'), history')) :
    ((run.onServer (recording replies) sink session).run start).1 =
      .error (.fetch (.failed name cause)) := by
  have hschema := run.generateSchema_of_failed sink (p := p) hfetch
  have hrest : served (run.generateSchemas (Session.source (recording replies))
      (sink.withState Session) (schema :: rest) p) s history =
        ((.error (.fetch (.failed name cause)), s'), history') :=
    served_bind_of_error hschema
  have hrun : served (run.execute (Session.source (recording replies)) (sink.withState Session))
      session start = ((.error (.fetch (.failed name cause)), s'), history') := by
    rw [run.execute_eq_through _ _ hschemas, bind_assoc, served_bind_of_ok hfront]
    exact served_bind_of_error hrest
  unfold onServer
  unfold served at hrun
  rw [StateT.run_bind, hrun]
  rfl

end Run

/-- What a fetch sends and says, in every state of a session. It says "not found" exactly if the
request about the layout or the login in front of it is answered with the code of a missing layout,
so it speaks of the layout exactly if the login is not answered so. Every other failure ends the run
that comes to it. -/
theorem Server.Session.fetchMetadata_outcome (replies : Replies) (history : History) (s : Session)
    (layout : String) :
    ∃ result s' sent,
      (s.fetchMetadata (recording replies) layout).run history = ((result, s'), history ++ sent) ∧
      (∀ name, result = .error (.notFound name) ↔
        name = layout ∧ (LookupMissing s.base layout sent ∨ LoginMissing s.base sent)) ∧
      (((∃ name, result = .error (.notFound name)) ↔ LookupMissing s.base layout sent) ↔
        ¬ LoginMissing s.base sent) ∧
      ∀ name cause, result = .error (.failed name cause) → name = layout ∧
        ∀ (run : Run) (sink : Sink φ (StateM History)) front schema rest session start p,
          run.config.schemas = front ++ schema :: rest → schema.layout = layout →
          served (run.through (Session.source (recording replies)) (sink.withState Session) front)
            session start = ((.ok p, s), history) →
          ((run.onServer (recording replies) sink session).run start).1 =
            .error (.fetch (.failed layout cause)) := by
  obtain ⟨answer, s', sent, hasked, hrun⟩ := fetchMetadata_asked replies history s layout
  obtain ⟨hmissing, hboth⟩ := hasked.missing_iff
  have hnotFound : ∀ name, found layout answer = .error (.notFound name) ↔
      name = layout ∧ (LookupMissing s.base layout sent ∨ LoginMissing s.base sent) := by
    intro name
    rw [found_eq_notFound_iff, hmissing]
  refine ⟨found layout answer, s', sent, hrun, hnotFound, ?_, fun name cause hfailed => ?_⟩
  · have hsome : (∃ name, found layout answer = .error (.notFound name)) ↔
        LookupMissing s.base layout sent ∨ LoginMissing s.base sent := by
      simp [hnotFound]
    rw [hsome]
    tauto
  · obtain rfl := found_eq_failed hfailed
    refine ⟨rfl, ?_⟩
    intro run sink front schema rest session start p hschemas hlayout hfront
    subst hlayout
    rw [hfailed] at hrun
    exact run.onServer_of_failed sink hschemas hfront hrun

/-- A server that answers every request with the code of a missing layout. -/
def Server.missingEverything : Replies := fun _ _ =>
  .answer 401 ("\x7b\"response\": \x7b\x7d, " ++
    "\"messages\": [\x7b\"code\": \"105\", \"message\": \"Layout is missing\"\x7d]\x7d")

theorem Server.problem?_missingEverything (history : History) (request : Server.Request) :
    (missingEverything history request).problem? = some ⟨"105", "Layout is missing"⟩ := by
  unfold missingEverything
  decide +kernel

/-- The session of an account at the server for everything missing: a fetch logs in, is refused, and
says of a layout that it never asked about that it is missing. -/
theorem Server.Session.fetchMetadata_of_refused_login :
    let s : Session :=
      ⟨"https://fm.example.com/fmi/data/vLatest/databases/Sales", .account "admin" "secret", none⟩
    start "fm.example.com" "Sales" (.account "admin" "secret") = .ok s ∧
      ∃ login : Exchange, login.request.IsLogin s.base ∧
        (s.fetchMetadata (recording missingEverything) "API_Orders").run [] =
          ((.error (.notFound "API_Orders"), s), [login]) ∧
        ¬ LookupMissing s.base "API_Orders" [login] := by
  intro s
  have hstart : start "fm.example.com" "Sales" (.account "admin" "secret") = .ok s := by rfl
  let login := answered missingEverything [] (loginRequest s.base "admin" "secret")
  have hl : login.request.IsLogin s.base := ⟨rfl, rfl⟩
  have hrefused : login.login = .error (.api "105" "Layout is missing") :=
    Exchange.login_eq_api_iff.mpr
      (problem?_missingEverything [] (loginRequest s.base "admin" "secret"))
  have hbearer : (bearer (recording missingEverything) s).run [] =
      ((.error (.api "105" "Layout is missing"), s), [login]) := by
    rw [bearer_login rfl rfl, login_run]
    dsimp only
    rw [show (answered missingEverything [] (loginRequest s.base "admin" "secret")).login = _ from
      hrefused]
    rfl
  refine ⟨hstart, login, hl, ?_, ?_⟩
  · rw [fetchMetadata_run, layoutResponse_refused hbearer]
    rfl
  · rintro ⟨e, he, hlookup, -⟩
    rw [List.mem_singleton.mp he] at hlookup
    exact Exchange.not_isLookup_of_isLogin hl hlookup

end TypedLayouts
