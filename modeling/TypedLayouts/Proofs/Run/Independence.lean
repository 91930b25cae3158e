import Mathlib.Data.List.Sort
import TypedLayouts.Proofs.Run.Overwrites

/-!
# Schemas that do not depend on each other

A run keeps one account for all of its schemas, and whether the directory of clients is made for a
schema depends on those in front of it. What is written for a schema does not: where the source
always says the same about a layout and nothing fails, a run over several schemas writes what runs
over each of them write, and only the index speaks of all of them. Its clients are in the order of
their names, whatever the order of the schemas.
-/

namespace TypedLayouts

open Layout (FetchError Metadata)
open TypedLayouts.Module (Blueprint)

variable {ε φ : Type}

/-- A world that always says the same about a layout, and in which nothing else fails. -/
def World.answering (found : String → Except String Metadata) : World ε φ where
  fetch _ layout := (found layout).mapError .notFound
  ensureDir _ _ := .ok ()
  writeFile _ _ _ := .ok ()

/-- The directories that were asked for, in order. -/
def Trace.dirs (t : Trace ε φ) : List Path :=
  t.filterMap fun
    | .ensured dir _ => some dir
    | _ => none

theorem Trace.dirs_append (t s : Trace ε φ) : Trace.dirs (t ++ s) = t.dirs ++ s.dirs :=
  List.filterMap_append

/-- The text of a client module is written. -/
def Event.WritesClient (e : Event ε φ) : Prop :=
  ∃ (path : Path) (b : Blueprint) (answer : Except φ Unit),
    e = .wrote path b.clientModule.renderFile answer

namespace Event

theorem not_writesClient_fetched {layout : String} {answer : Except (FetchError ε) Metadata} :
    ¬ (.fetched layout answer : Event ε φ).WritesClient := by
  rintro ⟨path, b, answer', he⟩
  cases he

theorem not_writesClient_ensured {dir : Path} {answer : Except φ Unit} :
    ¬ (.ensured dir answer : Event ε φ).WritesClient := by
  rintro ⟨path, b, answer', he⟩
  cases he

theorem not_writesClient_schema {path : Path} {b : Blueprint} {answer : Except φ Unit} :
    ¬ (.wrote path b.schemaModule.renderFile answer : Event ε φ).WritesClient := by
  rintro ⟨path', b', answer', he⟩
  exact b.schemaModule_ne_clientModule b' (Event.wrote.inj he).2.1

end Event

namespace Run

variable (run : Run)

/-- A run with other schemas, which is the same in everything else. -/
def withSchemas (schemas : List SchemaConfig) : Run :=
  { run with config := { run.config with schemas := schemas } }

/-- The index, if there are clients. -/
def indexWrites (clients : List String) : List (Path × String) :=
  if clients = [] then [] else [(run.indexPath, (indexOf clients).renderFile)]

/-- A run ends with a report. It writes the files, and then the index if there are clients. The
directory of all files is made first. That of the clients is another one, which is made right in
front of the first client, if there is one. -/
structure Yields (w : World ε φ) (report : Report) (files : List (Path × String)) : Prop where
  /-- The run has the report. -/
  result : run.resultIn w = .ok report
  /-- The files are written, and the index. -/
  writes : (run.traceIn w).writes = files ++ run.indexWrites report.clients
  /-- The report lists the clients in strictly increasing order. -/
  increasing : report.clients.Pairwise (· < ·)
  /-- The directory of all files is made first of all. -/
  first : (run.traceIn w).head? = some (.ensured run.root (.ok ()))
  /-- No directory is made twice, and no others are made. -/
  dirs : (run.traceIn w).dirs = run.root :: if report.clients = [] then [] else [run.clientDir]
  /-- The two directories are different. -/
  apart : ¬ run.root.Same run.clientDir
  /-- The directory of the clients is made right in front of the first client. -/
  clients : (report.clients = [] ∧ ∀ e ∈ run.traceIn w, ¬ e.WritesClient) ∨
    report.clients ≠ [] ∧ ∃ before e after,
      run.traceIn w = before ++ .ensured run.clientDir (.ok ()) :: e :: after ∧
        e.WritesClient ∧ ∀ d ∈ before, ¬ d.WritesClient

/-! ## Directories and clients among the events of visits -/

section Events

variable (p : Progress) (v : Visit) (visits visits' : List Visit)

theorem visitsEvents_append :
    (run.visitsEvents p (visits ++ visits') : Trace ε φ) =
      run.visitsEvents p visits ++ run.visitsEvents (visits.foldl run.advance p) visits' := by
  induction visits generalizing p with
  | nil => rfl
  | cons v visits ih =>
    simp only [List.cons_append, visitsEvents, List.foldl_cons, List.append_assoc]
    rw [ih]

/-- A visit makes a directory exactly if it gives the first client. -/
theorem dirs_visitEvents :
    (run.visitEvents p v : Trace ε φ).dirs =
      if p.hasNoClients && run.givesClient v then [run.clientDir] else [] := by
  unfold visitEvents givesClient Visit.isFound
  cases v.found with
  | error missing => simp [Trace.dirs, Except.isOk, Except.toBool]
  | ok metadata =>
    dsimp only
    unfold clientEvents
    cases run.wantsClient v.schema with
    | false => simp [Trace.dirs]
    | true =>
      cases p.hasNoClients with
      | false => simp [Trace.dirs]
      | true => simp [Trace.dirs, Except.isOk, Except.toBool]

theorem dirs_visitsEvents :
    (run.visitsEvents p visits : Trace ε φ).dirs =
      if p.hasNoClients && visits.any run.givesClient then [run.clientDir] else [] := by
  induction visits generalizing p with
  | nil => simp [visitsEvents, Trace.dirs]
  | cons v visits ih =>
    unfold visitsEvents
    rw [Trace.dirs_append, ih, dirs_visitEvents, hasNoClients_advance, List.any_cons]
    cases p.hasNoClients with
    | false => simp
    | true =>
      cases run.givesClient v with
      | false => simp
      | true => simp

theorem not_writesClient_of_quiet (h : run.givesClient v = false) :
    ∀ e ∈ (run.visitEvents p v : Trace ε φ), ¬ e.WritesClient := by
  unfold givesClient Visit.isFound at h
  unfold visitEvents
  cases hf : v.found with
  | error missing =>
    intro e he
    rw [List.mem_singleton.mp he]
    exact Event.not_writesClient_fetched
  | ok metadata =>
    rw [hf] at h
    have hwants : run.wantsClient v.schema = false := h
    intro e he
    simp only [hwants, Bool.false_eq_true, if_false, List.mem_cons, List.not_mem_nil,
      or_false] at he
    rcases he with rfl | rfl
    · exact Event.not_writesClient_fetched
    · exact Event.not_writesClient_schema

theorem not_writesClient_of_all_quiet (h : ∀ v ∈ visits, run.givesClient v = false) :
    ∀ e ∈ (run.visitsEvents p visits : Trace ε φ), ¬ e.WritesClient := by
  induction visits generalizing p with
  | nil => exact fun e he => absurd he List.not_mem_nil
  | cons v visits ih =>
    intro e he
    rcases List.mem_append.mp he with he | he
    · exact run.not_writesClient_of_quiet p v (h v List.mem_cons_self) e he
    · exact ih (run.advance p v) (fun u hu => h u (List.mem_cons_of_mem v hu)) e he

/-- A visit that gives the first client makes its directory right in front of it. -/
theorem visitEvents_of_first (hp : p.hasNoClients = true) (h : run.givesClient v = true) :
    ∃ before e, (run.visitEvents p v : Trace ε φ) =
        before ++ [.ensured run.clientDir (.ok ()), e] ∧
      e.WritesClient ∧ ∀ d ∈ before, ¬ d.WritesClient := by
  unfold givesClient Visit.isFound at h
  cases hf : v.found with
  | error missing =>
    rw [hf] at h
    cases h
  | ok metadata =>
    have hwants : run.wantsClient v.schema = true := (Bool.and_eq_true_iff.mp h).2
    have hevents : (run.visitEvents p v : Trace ε φ) =
        [.fetched v.schema.layout v.answer, .wrote (run.schemaPath v.schema.name)
          (run.blueprint v.schema metadata).schemaModule.renderFile (.ok ())] ++
        [.ensured run.clientDir (.ok ()), .wrote (run.clientPath v.schema.name)
          (run.blueprint v.schema metadata).clientModule.renderFile (.ok ())] := by
      unfold visitEvents clientEvents
      simp [hf, hwants, hp]
    refine ⟨_, _, hevents, ⟨_, _, _, rfl⟩, ?_⟩
    intro d hd
    simp only [List.mem_cons, List.not_mem_nil, or_false] at hd
    rcases hd with rfl | rfl
    · exact Event.not_writesClient_fetched
    · exact Event.not_writesClient_schema

/-- Among the events of visits, the directory of the clients is made right in front of the first
client. -/
theorem visitsEvents_of_any (h : visits.any run.givesClient = true) :
    ∃ before e after, (run.visitsEvents {} visits : Trace ε φ) =
        before ++ .ensured run.clientDir (.ok ()) :: e :: after ∧
      e.WritesClient ∧ ∀ d ∈ before, ¬ d.WritesClient := by
  -- The first visit that gives a client parts the visits.
  obtain ⟨v, hv⟩ := Option.isSome_iff_exists.mp (List.find?_isSome.mpr (List.any_eq_true.mp h))
  obtain ⟨hgives, quiet, rest, rfl, hquiet⟩ := List.find?_eq_some_iff_append.mp hv
  have hnone : (quiet.foldl run.advance {}).hasNoClients = true := by
    have hany : quiet.any run.givesClient = false := by simpa using hquiet
    rw [hasNoClients_foldl_advance, hany]
    rfl
  obtain ⟨before, e, hevents, hclient, hbefore⟩ :=
    run.visitEvents_of_first (ε := ε) (φ := φ) (quiet.foldl run.advance {}) v hnone hgives
  refine ⟨run.visitsEvents {} quiet ++ before, e,
    run.visitsEvents (run.advance (quiet.foldl run.advance {}) v) rest, ?_, hclient, ?_⟩
  · rw [visitsEvents_append, visitsEvents, hevents, List.append_assoc, List.append_assoc]
    rfl
  · intro d hd
    rcases List.mem_append.mp hd with hd | hd
    · refine run.not_writesClient_of_all_quiet {} quiet (fun u hu => ?_) d hd
      simpa using hquiet u hu
    · exact hbefore d hd

/-! ## Directories and clients among the events of a run -/

variable (clients : List String)

theorem dirs_eventsOf :
    (run.eventsOf visits clients : Trace ε φ).dirs =
      run.root :: if visits.any run.givesClient then [run.clientDir] else [] := by
  have hempty : ({} : Progress).hasNoClients = true := rfl
  have hdirs := run.dirs_visitsEvents (ε := ε) (φ := φ) {} visits
  rw [hempty, Bool.true_and] at hdirs
  unfold eventsOf
  rw [Trace.dirs_append, ← hdirs]
  split
  · exact List.append_nil _
  · exact List.append_nil _

theorem not_writesClient_eventsOf (h : visits.any run.givesClient = false) :
    ∀ e ∈ (run.eventsOf visits [] : Trace ε φ), ¬ e.WritesClient := by
  intro e he
  unfold eventsOf at he
  rw [if_pos rfl, List.append_nil] at he
  rcases List.mem_cons.mp he with rfl | he
  · exact Event.not_writesClient_ensured
  · refine run.not_writesClient_of_all_quiet {} visits (fun v hv => ?_) e he
    exact Bool.eq_false_iff.mpr (List.any_eq_false.mp h v hv)

theorem eventsOf_of_any (h : visits.any run.givesClient = true) :
    ∃ before e after, (run.eventsOf visits clients : Trace ε φ) =
        before ++ .ensured run.clientDir (.ok ()) :: e :: after ∧
      e.WritesClient ∧ ∀ d ∈ before, ¬ d.WritesClient := by
  obtain ⟨before, e, after, hevents, hclient, hbefore⟩ :=
    run.visitsEvents_of_any (ε := ε) (φ := φ) visits h
  unfold eventsOf
  rw [hevents]
  refine ⟨.ensured run.root (.ok ()) :: before, e, _, by simp; rfl, hclient, ?_⟩
  intro d hd
  rcases List.mem_cons.mp hd with rfl | hd
  · exact Event.not_writesClient_ensured
  · exact hbefore d hd

end Events

/-! ## Runs where the source always says the same -/

variable (found : String → Except String Metadata)

/-- The visits of schemas. -/
def visitsOf (schemas : List SchemaConfig) : List Visit :=
  schemas.map fun schema => ⟨schema, found schema.layout⟩

theorem failure_answering (t : Trace ε φ) (c : Call) :
    ((World.answering found : World ε φ).answer t c).failure = none := by
  cases c with
  | fetch layout =>
    have he : (World.answering found : World ε φ).answer t (.fetch layout) =
        .fetched layout ((found layout).mapError .notFound) := rfl
    rw [he]
    cases found layout with
    | ok metadata => rfl
    | error missing => rfl
  | ensureDir dir => rfl
  | writeFile path text => rfl

theorem found_of_answer {result : Except String Metadata} {v : Visit}
    (h : (v.answer : Except (FetchError ε) Metadata) = result.mapError .notFound) :
    v.found = result := by
  obtain ⟨schema, said⟩ := v
  cases said with
  | ok metadata =>
    cases result with
    | ok metadata' =>
      cases h
      rfl
    | error missing => cases h
  | error missing =>
    cases result with
    | ok metadata => cases h
    | error missing' =>
      cases h
      rfl

theorem visits_answering {visits : List Visit}
    (h : ∀ v ∈ visits, ∃ t,
      v.answer = (World.answering found : World ε φ).fetch t v.schema.layout) :
    visits = visitsOf found (visits.map Visit.schema) := by
  have hfound : ∀ v ∈ visits, v = ⟨v.schema, found v.schema.layout⟩ := by
    intro v hv
    obtain ⟨t, ht⟩ := h v hv
    rw [← found_of_answer ht]
  unfold visitsOf
  rw [List.map_map]
  exact (List.map_id _).symm.trans (List.map_congr_left hfound)

theorem not_same_clientDir : ¬ run.root.Same run.clientDir := by
  intro hsame
  unfold Path.Same at hsame
  rw [components_clientDir] at hsame
  have hlength := congrArg List.length hsame
  rw [List.length_append, List.length_singleton] at hlength
  omega

/-- Where the source always says the same, a run yields the files of its visits. -/
theorem yields_answering :
    ∃ report, run.Yields (World.answering found : World ε φ) report
        ((visitsOf found run.config.schemas).flatMap run.visitWrites) ∧
      report.skipped = (visitsOf found run.config.schemas).filterMap Visit.missing? ∧
      ∀ name, name ∈ report.clients ↔ ∃ v ∈ visitsOf found run.config.schemas,
        run.givesClient v = true ∧ v.schema.name = name := by
  obtain ⟨report, hreport⟩ := run.exists_report (failure_answering (ε := ε) (φ := φ) found)
  obtain ⟨visits, hvisits, hclients, hskipped, -, htrace⟩ := visits_of_ok hreport
  have hsame := visits_answering found (visits_answered htrace)
  rw [hvisits] at hsame
  rw [← hsame]
  have hnone : report.clients = [] ↔ visits.any run.givesClient = false := by
    rw [hclients, run.clients_eq_nil_iff]
  refine ⟨report, ⟨hreport, ?writes, ?increasing, ?first, ?dirs, run.not_same_clientDir, ?clients⟩,
    ?skipped, ?members⟩
  case writes =>
    rw [htrace, run.writes_eventsOf]
    rfl
  case increasing =>
    rw [hclients]
    exact Module.NameSet.keys_increasing _
  case first =>
    rw [htrace]
    rfl
  case dirs =>
    rw [htrace, dirs_eventsOf]
    cases hany : visits.any run.givesClient with
    | false =>
      rw [if_pos (hnone.mpr hany)]
      rfl
    | true =>
      have hsome : report.clients ≠ [] := by simp [hnone, hany]
      rw [if_neg hsome]
      rfl
  case clients =>
    rw [htrace]
    cases hany : visits.any run.givesClient with
    | false =>
      have hclientless := hnone.mpr hany
      rw [hclientless]
      exact .inl ⟨rfl, run.not_writesClient_eventsOf visits hany⟩
    | true =>
      have hsome : report.clients ≠ [] := by simp [hnone, hany]
      exact .inr ⟨hsome, run.eventsOf_of_any visits report.clients hany⟩
  case skipped =>
    rw [hskipped, run.skipped_foldl_advance]
    rfl
  case members =>
    intro name
    rw [hclients, run.mem_clients_foldl_advance]
    exact or_iff_right List.not_mem_nil

/-- What a schema yields has nothing to do with the other schemas. -/
theorem yields_withSchemas (schemas : List SchemaConfig) :
    ∃ report, (run.withSchemas schemas).Yields (World.answering found : World ε φ) report
        ((visitsOf found schemas).flatMap run.visitWrites) ∧
      report.skipped = (visitsOf found schemas).filterMap Visit.missing? ∧
      ∀ name, name ∈ report.clients ↔
        ∃ v ∈ visitsOf found schemas, run.givesClient v = true ∧ v.schema.name = name :=
  (run.withSchemas schemas).yields_answering found

/-- Schemas are generated independently. A run over two rows of schemas writes what the runs over
each of them write, one after the other, and then an index of the clients of both. So each schema
has its own files, whatever the others are, and schemas in another order give the same files in
another order, and the same index. -/
theorem schemas_independent :
    (∀ front rest, ∃ r₁ r₂ r files₁ files₂,
      (run.withSchemas front).Yields (World.answering found : World ε φ) r₁ files₁ ∧
      (run.withSchemas rest).Yields (World.answering found : World ε φ) r₂ files₂ ∧
      (run.withSchemas (front ++ rest)).Yields (World.answering found : World ε φ) r
        (files₁ ++ files₂) ∧
      r.skipped = r₁.skipped ++ r₂.skipped ∧
      ∀ name, name ∈ r.clients ↔ name ∈ r₁.clients ∨ name ∈ r₂.clients) ∧
    (∃ filesOf : SchemaConfig → List (Path × String), ∀ schemas, ∃ r,
      (run.withSchemas schemas).Yields (World.answering found : World ε φ) r
        (schemas.flatMap filesOf)) ∧
    ∀ schemas schemas' : List SchemaConfig, schemas.Perm schemas' → ∃ r r' files files',
      (run.withSchemas schemas).Yields (World.answering found : World ε φ) r files ∧
      (run.withSchemas schemas').Yields (World.answering found : World ε φ) r' files' ∧
      files.Perm files' ∧ r.clients = r'.clients ∧
      (run.withSchemas schemas).indexWrites r.clients =
        (run.withSchemas schemas').indexWrites r'.clients := by
  refine ⟨fun front rest => ?append, ?files, fun schemas schemas' hperm => ?perm⟩
  case append =>
    obtain ⟨r₁, h₁, hskipped₁, hclients₁⟩ :=
      run.yields_withSchemas (ε := ε) (φ := φ) found front
    obtain ⟨r₂, h₂, hskipped₂, hclients₂⟩ :=
      run.yields_withSchemas (ε := ε) (φ := φ) found rest
    obtain ⟨r, h, hskipped, hclients⟩ :=
      run.yields_withSchemas (ε := ε) (φ := φ) found (front ++ rest)
    have happend : visitsOf found (front ++ rest) = visitsOf found front ++ visitsOf found rest :=
      List.map_append
    rw [happend] at h hskipped hclients
    rw [List.flatMap_append] at h
    refine ⟨r₁, r₂, r, _, _, h₁, h₂, h, ?_, fun name => ?_⟩
    · rw [hskipped, hskipped₁, hskipped₂, List.filterMap_append]
    · rw [hclients, hclients₁, hclients₂]
      simp only [List.mem_append, or_and_right, exists_or]
  case files =>
    refine ⟨fun schema => run.visitWrites ⟨schema, found schema.layout⟩, fun schemas => ?_⟩
    obtain ⟨r, h, -⟩ := run.yields_withSchemas (ε := ε) (φ := φ) found schemas
    unfold visitsOf at h
    rw [List.flatMap_map] at h
    exact ⟨r, h⟩
  case perm =>
    obtain ⟨r, h, -, hclients⟩ := run.yields_withSchemas (ε := ε) (φ := φ) found schemas
    obtain ⟨r', h', -, hclients'⟩ := run.yields_withSchemas (ε := ε) (φ := φ) found schemas'
    have hvisits : (visitsOf found schemas).Perm (visitsOf found schemas') := hperm.map _
    -- The order of the clients is their own, so it does not matter which visit came first.
    have hsame : r.clients = r'.clients := by
      refine h.increasing.eq_of_mem_iff h'.increasing fun name => ?_
      rw [hclients, hclients']
      simp only [hvisits.mem_iff]
    refine ⟨r, r', _, _, h, h', hvisits.flatMap_right _, hsame, ?_⟩
    rw [hsame]
    rfl

end Run

end TypedLayouts
