import Mathlib.Data.List.Nodup
import TypedLayouts.Proofs.Config.Names
import TypedLayouts.Proofs.Run.Failure
import TypedLayouts.Proofs.Run.Visits

/-!
# The account of a successful run

The report of a run that succeeds, the files that it wrote and the index of its clients say the
same. Each is computed from the visits of the run, which are in the order of the config; the set of
clients is the only thing that has an order of its own.
-/

namespace TypedLayouts

open Identifier (fragment)
open Layout (FetchError Metadata)
open TypedLayouts.Module (NameSet clientName exportClient indexModule)
open TypeScript (Document Statement)

variable {ε φ : Type}

/-- The names in a set are listed in strictly increasing order. -/
theorem Module.NameSet.keys_increasing (names : NameSet) : names.keys.Pairwise (· < ·) :=
  List.pairwise_map.mpr (names.increasing.imp fun h => compareOfLessAndEq_eq_lt.mp h)

/-! ## What visits add up to -/

namespace Trace

variable (t s : Trace ε φ)

/-- The files of two rows of events. -/
theorem writes_append : Trace.writes (t ++ s) = t.writes ++ s.writes :=
  List.filterMap_append

/-- The fetches of two rows of events. -/
theorem fetches_append : Trace.fetches (t ++ s) = t.fetches ++ s.fetches :=
  List.filterMap_append

end Trace

/-- A fetch that is answered is answered by the source. -/
theorem World.Answers.fetch_of_mem {w : World ε φ} {t s : Trace ε φ} (h : w.Answers t s)
    {layout : String} {answer : Except (FetchError ε) Metadata}
    (hm : (layout, answer) ∈ s.fetches) : ∃ t', answer = w.fetch t' layout := by
  obtain ⟨e, he, hfetch⟩ := List.mem_filterMap.mp hm
  obtain ⟨before, after, rfl⟩ := List.append_of_mem he
  have hanswer := h.at_event
  cases e with
  | fetched layout' answer' =>
    cases hfetch
    exact ⟨_, (Event.fetched.inj hanswer).2⟩
  | ensured dir answer' => cases hfetch
  | wrote path text answer' => cases hfetch

namespace Run

variable (run : Run)

/-- A visit fetches its layout once and writes its files. -/
theorem visitEvents_parts (p : Progress) (v : Visit) :
    (run.visitEvents p v : Trace ε φ).fetches = [(v.schema.layout, v.answer)] ∧
      (run.visitEvents p v : Trace ε φ).writes = run.visitWrites v := by
  unfold visitEvents visitWrites
  cases v.found with
  | error missing => exact ⟨rfl, rfl⟩
  | ok metadata =>
    dsimp only
    cases run.wantsClient v.schema with
    | false => exact ⟨rfl, rfl⟩
    | true =>
      unfold clientEvents
      cases p.hasNoClients with
      | false => exact ⟨rfl, rfl⟩
      | true => exact ⟨rfl, rfl⟩

/-- Each visit fetches its layout once. -/
theorem fetches_visitsEvents (p : Progress) (visits : List Visit) :
    (run.visitsEvents p visits : Trace ε φ).fetches =
      visits.map fun v => (v.schema.layout, v.answer) := by
  induction visits generalizing p with
  | nil => rfl
  | cons v rest ih =>
    unfold visitsEvents
    rw [Trace.fetches_append, (run.visitEvents_parts p v).1, ih, List.map_cons]
    rfl

/-- Visits write their files, one visit after the other. -/
theorem writes_visitsEvents (p : Progress) (visits : List Visit) :
    (run.visitsEvents p visits : Trace ε φ).writes = visits.flatMap run.visitWrites := by
  induction visits generalizing p with
  | nil => rfl
  | cons v rest ih =>
    unfold visitsEvents
    rw [Trace.writes_append, (run.visitEvents_parts p v).2, ih, List.flatMap_cons]

/-- The account lists the files of the visits. -/
theorem written_foldl_advance (p : Progress) (visits : List Visit) :
    (visits.foldl run.advance p).written =
      p.written ++ (visits.flatMap run.visitWrites).map Prod.fst := by
  induction visits generalizing p with
  | nil => exact (List.append_nil _).symm
  | cons v rest ih =>
    have hfirst : (run.advance p v).written = p.written ++ (run.visitWrites v).map Prod.fst := by
      unfold advance visitWrites
      cases v.found with
      | error missing => exact (List.append_nil _).symm
      | ok metadata =>
        dsimp only
        cases run.wantsClient v.schema with
        | false => rfl
        | true => exact List.append_assoc ..
    rw [List.foldl_cons, ih, hfirst, List.flatMap_cons, List.map_append, List.append_assoc]

/-- The account lists the layouts that are reported missing. -/
theorem skipped_foldl_advance (p : Progress) (visits : List Visit) :
    (visits.foldl run.advance p).skipped = p.skipped ++ visits.filterMap Visit.missing? := by
  induction visits generalizing p with
  | nil => exact (List.append_nil _).symm
  | cons v rest ih =>
    have hfirst : (run.advance p v).skipped = p.skipped ++ v.missing?.toList := by
      unfold advance Visit.missing?
      cases v.found with
      | error missing => rfl
      | ok metadata =>
        dsimp only
        cases run.wantsClient v.schema with
        | false => exact (List.append_nil _).symm
        | true => exact (List.append_nil _).symm
    rw [List.foldl_cons, ih, hfirst, List.append_assoc]
    cases hm : v.missing? with
    | none => simp [hm]
    | some missing => simp [hm]

/-- The account knows the clients of the visits. -/
theorem mem_clients_foldl_advance (p : Progress) (visits : List Visit) (name : String) :
    name ∈ (visits.foldl run.advance p).clients.keys ↔
      name ∈ p.clients.keys ∨ ∃ v ∈ visits, run.givesClient v = true ∧ v.schema.name = name := by
  induction visits generalizing p with
  | nil => simp
  | cons v rest ih =>
    have hfirst : name ∈ (run.advance p v).clients.keys ↔
        name ∈ p.clients.keys ∨ run.givesClient v = true ∧ v.schema.name = name := by
      unfold advance givesClient Visit.isFound
      cases v.found with
      | error missing => simp [Progress.skip, Except.isOk, Except.toBool]
      | ok metadata =>
        dsimp only
        cases run.wantsClient v.schema with
        | false => simp [Progress.wrote]
        | true =>
          simp only [if_true, Progress.addClient, Progress.wrote, NameSet.add,
            OrderedMap.mem_keys_insert]
          simp [Except.isOk, Except.toBool, eq_comm, or_comm]
    rw [List.foldl_cons, ih, hfirst]
    simp only [List.mem_cons, exists_eq_or_imp, or_assoc]

/-- A visit leaves an account without clients unless it gives one. -/
theorem hasNoClients_advance (p : Progress) (v : Visit) :
    (run.advance p v).hasNoClients = (p.hasNoClients && !run.givesClient v) := by
  unfold advance givesClient Visit.isFound
  cases v.found with
  | error missing => simp [Progress.hasNoClients, Progress.skip, Except.isOk, Except.toBool]
  | ok metadata =>
    dsimp only
    cases run.wantsClient v.schema with
    | false => simp [Progress.hasNoClients, Progress.wrote, Except.isOk, Except.toBool]
    | true =>
      have hname : v.schema.name ∈ (p.clients.add v.schema.name).keys := by
        unfold NameSet.add
        rw [OrderedMap.mem_keys_insert]
        exact .inl rfl
      have hsome : (p.clients.add v.schema.name).keys ≠ [] := List.ne_nil_of_mem hname
      simp [Progress.hasNoClients, Progress.wrote, Progress.addClient, hsome, Except.isOk,
        Except.toBool]

theorem hasNoClients_foldl_advance (p : Progress) (visits : List Visit) :
    (visits.foldl run.advance p).hasNoClients =
      (p.hasNoClients && !visits.any run.givesClient) := by
  induction visits generalizing p with
  | nil => simp
  | cons v rest ih =>
    rw [List.foldl_cons, ih, hasNoClients_advance, List.any_cons, Bool.not_or, Bool.and_assoc]

theorem clients_eq_nil_iff {visits : List Visit} :
    (visits.foldl run.advance {}).clients.keys = [] ↔ visits.any run.givesClient = false := by
  have hnone := run.hasNoClients_foldl_advance {} visits
  have hempty : ({} : Progress).hasNoClients = true := rfl
  rw [hempty, Bool.true_and] at hnone
  rw [← List.isEmpty_iff, ← Bool.not_eq_true']
  exact hnone ▸ Iff.rfl

/-! ## A successful run -/

/-- The index of some clients: one export for each, in order, under a name of its own. -/
def indexOf (clients : List String) : Document where
  body := clients.map fun name => .exportFrom [⟨"client", clientName name⟩] ("./" ++ name)

/-- What the events, the files, the report and the index of a successful run have to do with its
visits and with each other. -/
structure Account (t : Trace ε φ) (report : Report) (visits : List Visit) : Prop where
  /-- The schemas of the config are visited in order. -/
  schemas : visits.map Visit.schema = run.config.schemas
  /-- Each visit fetches the layout of its schema once. -/
  fetches : t.fetches = visits.map fun v => (v.schema.layout, v.answer)
  /-- Each schema that is found gives its schema module and, where it is to have one, its client
  module right behind. The index follows if there are clients. -/
  writes : t.writes = visits.flatMap run.visitWrites ++
    if report.clients = [] then []
    else [(run.indexPath, (indexOf report.clients).renderFile)]
  /-- The report lists the files in the order of writing. -/
  written : report.written = t.writes.map Prod.fst
  /-- The report lists the layouts of the other schemas. -/
  skipped : report.skipped = (visits.filter (!·.isFound)).map (·.schema.layout)
  /-- The report lists the clients in strictly increasing order. -/
  increasing : report.clients.Pairwise (· < ·)
  /-- The report lists the schemas that got a client. -/
  clients : ∀ name, name ∈ report.clients ↔
    ∃ v ∈ visits, run.givesClient v = true ∧ v.schema.name = name
  /-- An index is written exactly if there are clients. -/
  index : (∃ names answer, .wrote run.indexPath (indexModule names).renderFile answer ∈ t) ↔
    report.clients ≠ []
  /-- The index of the clients is the last of all. -/
  last : report.clients ≠ [] →
    t.getLast? = some (.wrote run.indexPath (indexOf report.clients).renderFile (.ok ()))
  /-- The index exports no name twice. -/
  distinct : (report.clients.map clientName).Nodup

/-- The events of a run with some visits and clients. -/
def eventsOf (visits : List Visit) (clients : List String) : Trace ε φ :=
  .ensured run.root (.ok ()) :: run.visitsEvents {} visits ++
    if clients = [] then []
    else [.wrote run.indexPath (indexOf clients).renderFile (.ok ())]

theorem fetches_eventsOf (visits : List Visit) (clients : List String) :
    (run.eventsOf visits clients : Trace ε φ).fetches =
      visits.map fun v => (v.schema.layout, v.answer) := by
  unfold eventsOf
  rw [Trace.fetches_append, ← run.fetches_visitsEvents {} visits]
  split
  · exact List.append_nil _
  · exact List.append_nil _

theorem writes_eventsOf (visits : List Visit) (clients : List String) :
    (run.eventsOf visits clients : Trace ε φ).writes = visits.flatMap run.visitWrites ++
      if clients = [] then [] else [(run.indexPath, (indexOf clients).renderFile)] := by
  unfold eventsOf
  rw [Trace.writes_append, ← run.writes_visitsEvents (ε := ε) (φ := φ) {} visits]
  split
  · rfl
  · rfl

variable {run} {w : World ε φ} {report : Report}

/-- A successful run is made of visits, and of the index if there are clients. -/
theorem visits_of_ok (h : run.resultIn w = .ok report) :
    ∃ visits : List Visit, visits.map Visit.schema = run.config.schemas ∧
      (let p := visits.foldl run.advance {}
      report.clients = p.clients.keys ∧ report.skipped = p.skipped ∧
        report.written = p.written ++ (if report.clients = [] then [] else [run.indexPath]) ∧
        run.traceIn w = run.eventsOf visits report.clients) := by
  have hrun : Action.after (run.execute w.source w.sink) [] = (.ok report, run.traceIn w) :=
    Prod.ext h rfl
  generalize run.traceIn w = trace at hrun ⊢
  rw [execute_eq] at hrun
  obtain ⟨p, t, hbody, hrest⟩ := Action.ok_of_bind hrun
  obtain ⟨u, t₁, hroot, hschemas⟩ := Action.ok_of_bind hbody
  rw [World.ensureDir_ok hroot] at hschemas
  obtain ⟨visits, hvisits, rfl, rfl⟩ := generateSchemas_ok hschemas
  obtain ⟨p, t₂, hindex, hend⟩ := Action.ok_of_bind hrest
  refine ⟨visits, hvisits, ?_⟩
  rw [after_writeIndex] at hindex
  generalize hp : visits.foldl run.advance {} = q at hindex ⊢
  by_cases hq : q.clients.keys = []
  · have hnone : q.hasNoClients = true := List.isEmpty_iff.mpr hq
    rw [if_pos hnone] at hindex
    cases hindex
    cases hend
    exact ⟨rfl, rfl, by simp [Progress.report, hq], by simp [Progress.report, hq, eventsOf]⟩
  · have hsome : ¬ q.hasNoClients = true := fun hempty => hq (List.isEmpty_iff.mp hempty)
    rw [if_neg hsome] at hindex
    obtain ⟨rfl, rfl⟩ := World.writeModule_ok hindex
    cases hend
    refine ⟨rfl, rfl, ?_, ?_⟩
    · simp [Progress.report, Progress.wrote, hq]
    · simp [Progress.report, Progress.wrote, hq, eventsOf]
      rfl

/-- What came of each visit is what the source said. -/
theorem visits_answered {visits : List Visit} {clients : List String}
    (h : run.traceIn w = run.eventsOf visits clients) :
    ∀ v ∈ visits, ∃ t, v.answer = w.fetch t v.schema.layout := by
  intro v hv
  refine (run.traceIn_course w).answers.fetch_of_mem ?_
  rw [h, run.fetches_eventsOf]
  exact List.mem_map.mpr ⟨v, hv, rfl⟩

/-- Where a source names the layout that it was asked about, the layouts that are reported missing
are those of the visits that found nothing. -/
theorem missing_of_requested {visits : List Visit}
    (h : ∀ v ∈ visits, ∀ missing, v.found = .error missing → missing = v.schema.layout) :
    visits.filterMap Visit.missing? = (visits.filter (!·.isFound)).map (·.schema.layout) := by
  induction visits with
  | nil => rfl
  | cons v rest ih =>
    have hrest := ih fun u hu => h u (List.mem_cons_of_mem v hu)
    have hv := h v List.mem_cons_self
    unfold Visit.missing? Visit.isFound at hrest ⊢
    cases hf : v.found with
    | ok metadata =>
      have hfound : (!v.found.isOk) = false := by
        rw [hf]
        rfl
      rw [List.filterMap_cons_none (by rw [hf]), List.filter_cons, hfound, hrest]
      rfl
    | error missing =>
      rw [List.filterMap_cons_some (by rw [hf]), List.filter_cons_of_pos (by rw [hf]; rfl), hrest,
        hv missing hf]
      rfl

/-- The files of visits do not have the text of an index. -/
theorem index_not_mem_visitWrites {visits : List Visit} {path : Path} {names : NameSet} :
    (path, (indexModule names).renderFile) ∉ visits.flatMap run.visitWrites := by
  intro hmem
  obtain ⟨v, -, hv⟩ := List.mem_flatMap.mp hmem
  unfold visitWrites at hv
  cases hf : v.found with
  | error missing =>
    rw [hf] at hv
    cases hv
  | ok metadata =>
    rw [hf] at hv
    rcases List.mem_cons.mp hv with he | hv
    · exact Module.Blueprint.schemaModule_ne_index _ names (Prod.mk.inj he).2.symm
    · split at hv
      · rw [List.mem_singleton] at hv
        exact Module.Blueprint.clientModule_ne_index _ names (Prod.mk.inj hv).2.symm
      · cases hv

/-- Different schemas of an accepted config have clients of different names. -/
theorem nodup_clientNames {config : Config} (hc : config.check = .ok ()) {names : List String}
    (hn : names.Nodup) (hs : ∀ name ∈ names, ∃ schema ∈ config.schemas, schema.name = name) :
    (names.map clientName).Nodup := by
  have hfragments := (Config.check_ok_iff.mp hc).2
  refine hn.map_on ?_
  intro name hname name' hname' he
  obtain ⟨s, hs₁, rfl⟩ := hs name hname
  obtain ⟨s', hs₂, rfl⟩ := hs name' hname'
  have hfragment : fragment s.name = fragment s'.name := (String.append_left_inj "Client").mp he
  rw [List.inj_on_of_nodup_map hfragments hs₁ hs₂ hfragment]

/-- In a successful run of an accepted config the report, the events and the index are those of its
visits. -/
theorem account_of_ok (w : World ε φ) {report : Report} (hc : run.config.check = .ok ())
    (hw : ∀ t layout missing, w.fetch t layout = .error (.notFound missing) → missing = layout)
    (h : run.resultIn w = .ok report) :
    ∃ visits, run.Account (run.traceIn w) report visits := by
  obtain ⟨visits, hvisits, hclients, hskipped, hwritten, htrace⟩ := visits_of_ok h
  have hfetches : (run.traceIn w).fetches = visits.map fun v => (v.schema.layout, v.answer) := by
    rw [htrace, run.fetches_eventsOf]
  have hwrites : (run.traceIn w).writes = visits.flatMap run.visitWrites ++
      if report.clients = [] then []
      else [(run.indexPath, (indexOf report.clients).renderFile)] := by
    rw [htrace, run.writes_eventsOf]
  have hmem : ∀ name, name ∈ report.clients ↔
      ∃ v ∈ visits, run.givesClient v = true ∧ v.schema.name = name := by
    intro name
    rw [hclients, run.mem_clients_foldl_advance]
    exact or_iff_right List.not_mem_nil
  have hincreasing : report.clients.Pairwise (· < ·) := by
    rw [hclients]
    exact NameSet.keys_increasing _
  refine ⟨visits, hvisits, hfetches, hwrites, ?written, ?skipped, hincreasing, hmem, ?index, ?last,
    ?distinct⟩
  case written =>
    rw [hwritten, hwrites, run.written_foldl_advance, List.map_append]
    split
    · rfl
    · rfl
  case skipped =>
    rw [hskipped, run.skipped_foldl_advance]
    refine missing_of_requested fun v hv missing hf => ?_
    obtain ⟨t, ht⟩ := visits_answered htrace v hv
    refine hw t v.schema.layout missing ?_
    rw [← ht]
    unfold Visit.answer
    rw [hf]
    rfl
  case index =>
    constructor
    · rintro ⟨names, answer, he⟩ hnone
      have hwrite : (run.indexPath, (indexModule names).renderFile) ∈ (run.traceIn w).writes :=
        List.mem_filterMap.mpr ⟨_, he, rfl⟩
      rw [hwrites, if_pos hnone, List.append_nil] at hwrite
      exact index_not_mem_visitWrites hwrite
    · intro hsome
      refine ⟨(visits.foldl run.advance {}).clients, .ok (), ?_⟩
      unfold eventsOf at htrace
      rw [htrace, if_neg hsome, hclients]
      exact List.mem_append_right _ List.mem_cons_self
  case last =>
    intro hsome
    unfold eventsOf at htrace
    rw [htrace, if_neg hsome]
    exact List.getLast?_concat
  case distinct =>
    refine nodup_clientNames hc (hincreasing.imp fun hlt => ?_) fun name hname => ?_
    · exact String.ne_of_lt hlt
    · obtain ⟨v, hv, -, rfl⟩ := (hmem name).mp hname
      refine ⟨v.schema, ?_, rfl⟩
      rw [← hvisits]
      exact List.mem_map_of_mem hv

/-- Three layouts, of which the server does not know the second, and a client for the first. -/
def threeLayouts : Run where
  config :=
    { schemas :=
        [{ layout := "API_Orders", name := "Orders" }, { layout := "API_Old", name := "Old" },
          { layout := "API_Items", name := "Items", generateClient := some false }] }
  envNames := {}

/-- A world in which every layout is found but one, and everything can be written. -/
def withoutLayout (gone : String) : World Unit Unit where
  fetch _ layout := if layout = gone then .error (.notFound layout) else .ok {}
  ensureDir _ _ := .ok ()
  writeFile _ _ _ := .ok ()

/-- The account of a run in which one layout is missing. -/
theorem account_of_three_layouts :
    threeLayouts.config.check = .ok () ∧
      threeLayouts.resultIn (withoutLayout "API_Old") =
        .ok ⟨[⟨"schema/Orders.ts"⟩, ⟨"schema/client/Orders.ts"⟩, ⟨"schema/Items.ts"⟩,
          ⟨"schema/client/index.ts"⟩], ["Orders"], ["API_Old"]⟩ ∧
      ∃ visits, threeLayouts.Account (threeLayouts.traceIn (withoutLayout "API_Old"))
        ⟨[⟨"schema/Orders.ts"⟩, ⟨"schema/client/Orders.ts"⟩, ⟨"schema/Items.ts"⟩,
          ⟨"schema/client/index.ts"⟩], ["Orders"], ["API_Old"]⟩ visits := by
  have hc : threeLayouts.config.check = .ok () := by decide
  have h : threeLayouts.resultIn (withoutLayout "API_Old") =
      .ok ⟨[⟨"schema/Orders.ts"⟩, ⟨"schema/client/Orders.ts"⟩, ⟨"schema/Items.ts"⟩,
        ⟨"schema/client/index.ts"⟩], ["Orders"], ["API_Old"]⟩ := by rfl
  refine ⟨hc, h, account_of_ok (withoutLayout "API_Old") hc ?_ h⟩
  intro t layout missing hm
  unfold withoutLayout at hm
  dsimp only at hm
  split at hm
  · cases hm
    rfl
  · cases hm

end Run

end TypedLayouts
