import TypedLayouts.Proofs.Files.Directories
import TypedLayouts.Proofs.Run.Independence

/-!
# Directories that a run makes

A run makes two directories: that of all files before anything else, and that of the clients before
the first of them. It makes no others. So a file is written into a directory that the run made
exactly if its own path says so, and the path comes from the whole name of a schema, slashes and
all. Names without slashes are always fine; the check of a config does not look at the slashes.
-/

namespace TypedLayouts

open Layout (FetchError Metadata)

variable {ε φ : Type}

namespace Run

variable (run : Run)

/-- Every file is written into the directory of the run or that of its clients, and that directory
was made before. -/
def WritesIntoMadeDirs (t : Trace ε φ) : Prop :=
  ∀ before path text answer after, t = before ++ .wrote path text answer :: after →
    ∃ dir ∈ [run.root, run.clientDir], path.LiesIn dir ∧ .ensured dir (.ok ()) ∈ before

/-- The files of a schema lie where a run makes directories: the schema module in the directory of
the run, and the client module there or in the directory of clients. -/
structure InPlace (schema : SchemaConfig) : Prop where
  /-- The schema module does. -/
  schemaModule : (run.schemaPath schema.name).LiesIn run.root
  /-- The client module does, if there is one. -/
  clientModule : run.wantsClient schema = true →
    ∃ dir ∈ [run.root, run.clientDir], (run.clientPath schema.name).LiesIn dir

/-! ## Calls in the right order -/

/-- Behind some calls, others write each file into a directory that was asked for before. -/
def Grounded (made calls : List Call) : Prop :=
  ∀ before path text after, calls = before ++ .writeFile path text :: after →
    ∃ dir ∈ [run.root, run.clientDir], path.LiesIn dir ∧ .ensureDir dir ∈ made ++ before

namespace Grounded

variable {run} {made calls calls' : List Call}

theorem nil : run.Grounded made [] := by
  intro before path text after he
  cases before <;> cases he

/-- A call that writes no file needs no directory. -/
theorem single {c : Call} (h : ∀ path text, c ≠ .writeFile path text) :
    run.Grounded made [c] := by
  intro before path text after he
  cases before with
  | nil =>
    cases he
    exact absurd rfl (h path text)
  | cons d before =>
    rw [List.cons_append, List.cons.injEq] at he
    exact absurd he.2.symm (by simp)

theorem writeFile {path : Path} {text : String} {dir : Path}
    (hdir : dir ∈ [run.root, run.clientDir]) (hlies : path.LiesIn dir)
    (hmade : .ensureDir dir ∈ made) : run.Grounded made [.writeFile path text] := by
  intro before path' text' after he
  cases before with
  | nil =>
    cases he
    exact ⟨dir, hdir, hlies, List.mem_append_left _ hmade⟩
  | cons d before =>
    rw [List.cons_append, List.cons.injEq] at he
    exact absurd he.2.symm (by simp)

theorem append (h : run.Grounded made calls) (h' : run.Grounded (made ++ calls) calls') :
    run.Grounded made (calls ++ calls') := by
  intro before path text after he
  rcases List.append_eq_append_iff.mp he with ⟨more, rfl, hmore⟩ | ⟨more, rfl, hmore⟩
  · obtain ⟨dir, hdir, hlies, hmade⟩ := h' more path text after hmore
    exact ⟨dir, hdir, hlies, by rwa [List.append_assoc] at hmade⟩
  · cases more with
    | nil =>
      obtain ⟨dir, hdir, hlies, hmade⟩ := h' [] path text after hmore.symm
      rw [List.append_nil, List.append_nil] at hmade
      exact ⟨dir, hdir, hlies, hmade⟩
    | cons c more =>
      rw [List.cons_append, List.cons.injEq] at hmore
      obtain ⟨rfl, rfl⟩ := hmore
      exact h before path text more rfl

/-- The first of some calls need no more than all of them. -/
theorem of_prefix (h : run.Grounded made calls') (hp : calls <+: calls') :
    run.Grounded made calls := by
  obtain ⟨more, rfl⟩ := hp
  rintro before path text after rfl
  exact h before path text (after ++ more) (by simp)

end Grounded

/-! ## The calls of visits -/

section Visits

variable {run} {made : List Call}

/-- A schema in its place is visited behind the directories that are there by then. -/
theorem grounded_visitEvents {p : Progress} {v : Visit} (h : run.InPlace v.schema)
    (hroot : .ensureDir run.root ∈ made)
    (hclients : p.hasNoClients = false → .ensureDir run.clientDir ∈ made) :
    run.Grounded made (run.visitEvents p v : Trace ε φ).calls := by
  have hfetch : run.Grounded made [.fetch v.schema.layout] := .single nofun
  unfold visitEvents
  cases v.found with
  | error missing => exact hfetch
  | ok metadata =>
    have hschema : run.Grounded (made ++ [.fetch v.schema.layout])
        [.writeFile (run.schemaPath v.schema.name)
          (run.blueprint v.schema metadata).schemaModule.renderFile] :=
      .writeFile List.mem_cons_self h.schemaModule (List.mem_append_left _ hroot)
    refine hfetch.append (hschema.append ?_)
    by_cases hwants : run.wantsClient v.schema = true
    · obtain ⟨dir, hdir, hlies⟩ := h.clientModule hwants
      rw [if_pos hwants]
      unfold clientEvents
      cases hp : p.hasNoClients with
      | true =>
        have hmade : .ensureDir dir ∈ made ++ [Call.ensureDir run.clientDir] := by
          rcases List.mem_cons.mp hdir with rfl | hdir
          · exact List.mem_append_left _ hroot
          · rw [List.mem_singleton.mp hdir]
            exact List.mem_append_right _ (List.mem_singleton_self _)
        have hensure : run.Grounded
            (made ++ [.fetch v.schema.layout] ++ [.writeFile (run.schemaPath v.schema.name)
              (run.blueprint v.schema metadata).schemaModule.renderFile])
            [.ensureDir run.clientDir] := .single nofun
        refine hensure.append (.writeFile hdir hlies ?_)
        simp only [List.mem_append] at hmade ⊢
        tauto
      | false =>
        refine .writeFile hdir hlies ?_
        rcases List.mem_cons.mp hdir with rfl | hdir
        · simp [hroot]
        · rw [List.mem_singleton.mp hdir]
          simp [hclients hp]
    · rw [if_neg hwants]
      exact .nil

/-- Once a schema has a client, the directory of clients was asked for. -/
theorem clientDir_mem_visitEvents {p : Progress} {v : Visit}
    (hclients : p.hasNoClients = false → .ensureDir run.clientDir ∈ made)
    (h : (run.advance p v).hasNoClients = false) :
    .ensureDir run.clientDir ∈ made ++ (run.visitEvents p v : Trace ε φ).calls := by
  cases hp : p.hasNoClients with
  | false => exact List.mem_append_left _ (hclients hp)
  | true =>
    have hdirs := run.dirs_visitEvents (ε := ε) (φ := φ) p v
    rw [hasNoClients_advance, hp, Bool.true_and, Bool.not_eq_false'] at h
    rw [hp, h] at hdirs
    have hmem : run.clientDir ∈ (run.visitEvents p v : Trace ε φ).dirs := by
      rw [hdirs]
      exact List.mem_singleton_self _
    obtain ⟨e, he, hdir⟩ := List.mem_filterMap.mp hmem
    refine List.mem_append_right _ (List.mem_map.mpr ⟨e, he, ?_⟩)
    cases e with
    | ensured dir answer =>
      cases hdir
      rfl
    | _ => cases hdir

/-- Schemas in their places are visited behind the directories that are there by then. -/
theorem grounded_visitsEvents {p : Progress} {visits : List Visit}
    (h : ∀ v ∈ visits, run.InPlace v.schema) (hroot : .ensureDir run.root ∈ made)
    (hclients : p.hasNoClients = false → .ensureDir run.clientDir ∈ made) :
    run.Grounded made (run.visitsEvents p visits : Trace ε φ).calls ∧
      ((visits.foldl run.advance p).hasNoClients = false →
        .ensureDir run.clientDir ∈ made ++ (run.visitsEvents p visits : Trace ε φ).calls) := by
  induction visits generalizing p made with
  | nil => exact ⟨.nil, fun hp => List.mem_append_left _ (hclients hp)⟩
  | cons v visits ih =>
    have hfirst := grounded_visitEvents (ε := ε) (φ := φ) (p := p) (h v List.mem_cons_self) hroot
      hclients
    have hdirs := clientDir_mem_visitEvents (ε := ε) (φ := φ) (p := p) (v := v) hclients
    have hrest := ih (p := run.advance p v) (fun u hu => h u (List.mem_cons_of_mem v hu))
      (List.mem_append_left _ hroot) hdirs
    unfold visitsEvents
    unfold Trace.calls at *
    rw [List.map_append, ← List.append_assoc]
    exact ⟨hfirst.append hrest.1, hrest.2⟩

/-- Where all schemas are in their places, a run in which nothing fails makes its directories in
time. -/
theorem grounded_eventsOf {visits : List Visit} (h : ∀ v ∈ visits, run.InPlace v.schema) :
    run.Grounded [] (run.eventsOf visits (visits.foldl run.advance {}).clients.keys :
      Trace ε φ).calls := by
  have hroot : run.Grounded [] [.ensureDir run.root] := .single nofun
  have hmade : Call.ensureDir run.root ∈ [Call.ensureDir run.root] := List.mem_singleton_self _
  obtain ⟨hvisits, hclients⟩ := grounded_visitsEvents (ε := ε) (φ := φ) (p := {}) h hmade nofun
  unfold eventsOf
  unfold Trace.calls at *
  rw [List.map_append]
  refine (hroot.append hvisits).append ?_
  by_cases hnone : (visits.foldl run.advance {}).clients.keys = []
  · rw [if_pos hnone]
    exact .nil
  · have hsome : (visits.foldl run.advance {}).hasNoClients = false := by
      unfold Progress.hasNoClients
      rw [List.isEmpty_eq_false_iff]
      exact hnone
    have hindex : run.indexPath.LiesIn run.clientDir :=
      Path.parent?_of_components (Path.components_div (isFileName_fileName (by decide)))
    rw [if_neg hnone]
    exact .writeFile (List.mem_cons_of_mem _ (List.mem_singleton_self _)) hindex (hclients hsome)

end Visits

/-! ## Runs -/

variable {run} {w : World ε φ}

/-- What was asked for in front of another event was done. -/
theorem WritesIntoMadeDirs.of_grounded (h : run.Grounded [] (run.traceIn w).calls) :
    run.WritesIntoMadeDirs (run.traceIn w) := by
  intro before path text answer after htrace
  have hcalls : (run.traceIn w).calls =
      Trace.calls before ++ .writeFile path text :: Trace.calls after := by
    rw [htrace]
    unfold Trace.calls
    rw [List.map_append]
    rfl
  obtain ⟨dir, hdir, hlies, hmade⟩ := h _ path text _ hcalls
  obtain ⟨e, he, hcall⟩ := List.mem_map.mp hmade
  refine ⟨dir, hdir, hlies, ?_⟩
  cases e with
  | ensured dir' answer' =>
    cases hcall
    cases answer' with
    | ok a => exact he
    | error cause =>
      -- A failure would have been the last event.
      obtain ⟨k, hk⟩ := List.mem_iff_getElem?.mp he
      have hbound := (List.getElem?_eq_some_iff.mp hk).1
      have hk' : (run.traceIn w)[k]? = some (.ensured dir (.error cause)) := by
        rw [htrace, List.getElem?_append_left hbound]
        exact hk
      have hlast := congrArg List.length (run.ends_at_failure hk' rfl).2
      rw [htrace] at hlast
      simp only [List.length_append, List.length_cons, List.length_take, List.length_nil] at hlast
      omega
  | _ => cases hcall

/-- Where all schemas are in their places, every run writes into directories that it made. -/
theorem writesIntoMadeDirs_of_inPlace (h : ∀ s ∈ run.config.schemas, run.InPlace s)
    (w : World ε φ) : run.WritesIntoMadeDirs (run.traceIn w) := by
  obtain ⟨report, hreport⟩ := run.exists_report w.failure_lenient
  obtain ⟨visits, hvisits, hclients, -, -, htrace⟩ := visits_of_ok hreport
  have hplaces : ∀ v ∈ visits, run.InPlace v.schema := by
    intro v hv
    refine h v.schema ?_
    rw [← hvisits]
    exact List.mem_map_of_mem hv
  have hgrounded := grounded_eventsOf (ε := ε) (φ := φ) hplaces
  rw [← hclients, ← htrace] at hgrounded
  exact .of_grounded (hgrounded.of_prefix (run.calls_prefix_of_mends w.lenient_mends))

end Run

/-! ## Worlds that are told -/

/-- A world that answers one fetch after the other, and in which nothing fails. -/
def World.telling (founds : List (Except String Metadata)) : World ε φ where
  fetch t layout := (founds.getD t.fetches.length (.error layout)).mapError .notFound
  ensureDir _ _ := .ok ()
  writeFile _ _ _ := .ok ()

theorem World.failure_telling (founds : List (Except String Metadata)) (t : Trace ε φ) (c : Call) :
    ((World.telling founds : World ε φ).answer t c).failure = none := by
  cases c with
  | fetch layout =>
    have he : (World.telling founds : World ε φ).answer t (.fetch layout) =
        .fetched layout ((founds.getD t.fetches.length (.error layout)).mapError .notFound) := rfl
    rw [he]
    cases founds.getD t.fetches.length (.error layout) with
    | ok metadata => rfl
    | error missing => rfl
  | ensureDir dir => rfl
  | writeFile path text => rfl

namespace Run

variable {run : Run}

variable (run) in
theorem exists_eventsOf_append (front rest : List Visit) (v : Visit) (clients : List String) :
    ∃ more : Trace ε φ, run.eventsOf (front ++ v :: rest) clients =
      .ensured run.root (.ok ()) :: run.visitsEvents {} front ++
        (run.visitEvents (front.foldl run.advance {}) v ++ more) := by
  unfold eventsOf
  rw [visitsEvents_append, visitsEvents, ← List.cons_append, List.append_assoc, List.append_assoc]
  exact ⟨_, rfl⟩

/-- The source answers the fetch of a visit behind what happened in the visits before. -/
theorem answer_behind {w : World ε φ} {front rest : List Visit} {v : Visit} {clients : List String}
    (h : run.traceIn w = run.eventsOf (front ++ v :: rest) clients) :
    v.answer = w.fetch (.ensured run.root (.ok ()) :: run.visitsEvents {} front)
      v.schema.layout := by
  obtain ⟨more, hmore⟩ := run.exists_eventsOf_append (ε := ε) (φ := φ) front rest v clients
  have hanswers := (run.traceIn_course w).answers
  rw [h, hmore] at hanswers
  exact (Event.fetched.inj hanswers.at_event).2

variable (run) in
/-- Any findings may come of the fetches of a run. -/
theorem traceIn_telling {visits : List Visit} (h : visits.map Visit.schema = run.config.schemas) :
    run.traceIn (World.telling (visits.map Visit.found) : World ε φ) =
      run.eventsOf visits (visits.foldl run.advance {}).clients.keys := by
  obtain ⟨report, hreport⟩ :=
    run.exists_report (World.failure_telling (ε := ε) (φ := φ) (visits.map Visit.found))
  obtain ⟨visits', hvisits', hclients, -, -, htrace⟩ := visits_of_ok hreport
  have hlength : visits'.length = visits.length := by
    simpa using congrArg List.length (hvisits'.trans h.symm)
  have hsame : visits' = visits := by
    refine List.ext_getElem hlength fun i hi' hi => ?_
    have hschema : visits'[i].schema = visits[i].schema := by
      have hboth := congrArg (·[i]?) (hvisits'.trans h.symm)
      simpa [hi, hi'] using hboth
    have hsplit : visits' = visits'.take i ++ visits'[i] :: visits'.drop (i + 1) := by simp
    rw [hsplit] at htrace
    -- As many fetches as visits are behind a visit when its fetch is answered.
    have hfetched : Trace.fetches (.ensured run.root (.ok ()) ::
        run.visitsEvents {} (visits'.take i) : Trace ε φ) = _ :=
      run.fetches_visitsEvents {} (visits'.take i)
    have hanswer := answer_behind htrace
    unfold World.telling at hanswer
    dsimp only at hanswer
    rw [hfetched] at hanswer
    have hfound : visits'[i].found = visits[i].found := by
      simpa [hi, Nat.min_eq_left hi'.le] using found_of_answer hanswer
    rcases hx : visits'[i] with ⟨schema, found⟩
    rcases hy : visits[i] with ⟨schema', found'⟩
    rw [hx, hy] at hschema hfound
    exact congrArg₂ Visit.mk hschema hfound
  subst hsame
  rw [htrace, hclients]

/-! ## Runs that make all their directories -/

/-- A file that is written lies in one of the directories that a run makes. -/
theorem WritesIntoMadeDirs.lies {t : Trace ε φ} (h : run.WritesIntoMadeDirs t) {path : Path}
    (hpath : path ∈ t.paths) : ∃ dir ∈ [run.root, run.clientDir], path.LiesIn dir := by
  obtain ⟨⟨written, text⟩, hwrite, rfl⟩ := List.mem_map.mp hpath
  obtain ⟨e, he, hevent⟩ := List.mem_filterMap.mp hwrite
  cases e with
  | wrote path' text' answer =>
    cases hevent
    obtain ⟨before, after, hsplit⟩ := List.append_of_mem he
    obtain ⟨dir, hdir, hlies, -⟩ := h before _ _ answer after hsplit
    exact ⟨dir, hdir, hlies⟩
  | _ => cases hevent

variable (run) in
/-- When a schema module is written, the directories are made that the visits before it made. -/
theorem eventsOf_at_schema (front rest : List Visit) (schema : SchemaConfig) (metadata : Metadata)
    (clients : List String) :
    ∃ (before after : Trace ε φ) (text : String),
      run.eventsOf (front ++ ⟨schema, .ok metadata⟩ :: rest) clients =
          before ++ .wrote (run.schemaPath schema.name) text (.ok ()) :: after ∧
        before.dirs = run.root :: (run.visitsEvents {} front : Trace ε φ).dirs := by
  let fetched : Event ε φ := .fetched schema.layout (Visit.answer ⟨schema, .ok metadata⟩)
  obtain ⟨more, hmore⟩ := run.exists_eventsOf_append (ε := ε) (φ := φ) front rest
    ⟨schema, .ok metadata⟩ clients
  have hvisit : ∃ text client, (run.visitEvents (front.foldl run.advance {})
      ⟨schema, .ok metadata⟩ : Trace ε φ) =
      fetched :: .wrote (run.schemaPath schema.name) text (.ok ()) :: client := ⟨_, _, rfl⟩
  obtain ⟨text, client, hvisit⟩ := hvisit
  refine ⟨.ensured run.root (.ok ()) :: run.visitsEvents {} front ++ [fetched], client ++ more,
    text, ?_, ?_⟩
  · rw [hmore, hvisit]
    simp
  · rw [Trace.dirs_append]
    exact List.append_nil _

/-- A schema module lies in the directory of the run: the layouts before it may all be missing, and
then no other directory was made. -/
theorem schemaModule_in_root (h : ∀ w : World ε φ, run.WritesIntoMadeDirs (run.traceIn w))
    {s : SchemaConfig} (hs : s ∈ run.config.schemas) : (run.schemaPath s.name).LiesIn run.root := by
  obtain ⟨front, rest, hschemas⟩ := List.append_of_mem hs
  let missing (schema : SchemaConfig) : Visit := ⟨schema, .error schema.layout⟩
  have hvisits : (front.map missing ++ ⟨s, .ok {}⟩ :: rest.map missing).map Visit.schema =
      run.config.schemas := by
    have hkept : Visit.schema ∘ missing = id := rfl
    rw [List.map_append, List.map_cons, List.map_map, List.map_map, hkept, List.map_id,
      List.map_id, hschemas]
  obtain ⟨before, after, text, hevents, hdirs⟩ := run.eventsOf_at_schema (ε := ε) (φ := φ)
    (front.map missing) (rest.map missing) s {} _
  obtain ⟨dir, -, hlies, hmade⟩ := h _ _ _ _ _ _ ((run.traceIn_telling hvisits).trans hevents)
  have hquiet : (front.map missing).any run.givesClient = false := by
    simp [givesClient, missing, Visit.isFound, Except.isOk, Except.toBool]
  have hdir : dir ∈ before.dirs := List.mem_filterMap.mpr ⟨_, hmade, rfl⟩
  rw [hdirs, dirs_visitsEvents, hquiet, Bool.and_false] at hdir
  rwa [List.mem_singleton.mp hdir] at hlies

/-- Where every run writes into directories that it made, the schemas are in their places. -/
theorem inPlace_of_writesIntoMadeDirs
    (h : ∀ w : World ε φ, run.WritesIntoMadeDirs (run.traceIn w)) :
    ∀ s ∈ run.config.schemas, run.InPlace s := by
  intro s hs
  refine ⟨schemaModule_in_root h hs, fun hwants => (h everythingFound).lies ?_⟩
  rw [paths_everythingFound]
  refine List.mem_append_left _ (List.mem_flatMap.mpr ⟨s, hs, ?_⟩)
  exact run.mem_pathsOf.mpr (.inr ⟨hwants, rfl⟩)

/-- A schema whose name has no slash is in its place. -/
theorem InPlace.of_slashless {s : SchemaConfig} (h : '/' ∉ s.name.toList) : run.InPlace s where
  schemaModule := Path.parent?_of_components (Path.components_div (isFileName_fileName h))
  clientModule _ :=
    ⟨run.clientDir, List.mem_cons_of_mem _ (List.mem_singleton_self _),
      Path.parent?_of_components (Path.components_div (isFileName_fileName h))⟩

/-- Every run of a config, whatever is found and whatever fails, writes all its files into
directories that it made before exactly if the schemas are in their places; then all of its files
are below the directory of the run. Schemas whose names have no slashes are in their places. -/
theorem writes_into_made_dirs_iff (run : Run) :
    ((∀ w : World ε φ, run.WritesIntoMadeDirs (run.traceIn w)) ↔
        ∀ s ∈ run.config.schemas, run.InPlace s) ∧
      ((∀ s ∈ run.config.schemas, run.InPlace s) → ∀ w : World ε φ,
        ∀ path ∈ (run.traceIn w).paths, run.root.components <+: path.components) ∧
      ∀ s ∈ run.config.schemas, '/' ∉ s.name.toList → run.InPlace s := by
  refine ⟨⟨inPlace_of_writesIntoMadeDirs, writesIntoMadeDirs_of_inPlace⟩, ?below,
    fun s _ hs => .of_slashless hs⟩
  case below =>
    intro h w path hpath
    obtain ⟨dir, hdir, hlies⟩ := (writesIntoMadeDirs_of_inPlace h w).lies hpath
    have hbelow : run.root.components <+: dir.components := by
      rcases List.mem_cons.mp hdir with rfl | hdir
      · exact List.prefix_rfl
      · rw [List.mem_singleton.mp hdir, components_clientDir]
        exact List.prefix_append _ _
    exact hbelow.trans hlies.isPrefix

/-- One layout under some name. -/
def layoutNamed (name : String) : Run where
  config := { schemas := [{ layout := "API_Orders", name := name }] }
  envNames := {}

/-- A name with a slash is accepted, and its files go into directories that nobody made. So is an
absolute name, and its files go past the directory of the run. -/
theorem slashes_leave_made_dirs :
    (layoutNamed "sales/Orders").config.check = .ok () ∧
      ((layoutNamed "sales/Orders").traceIn (everythingFound : World Unit Unit)).paths =
        [⟨"schema/sales/Orders.ts"⟩, ⟨"schema/client/sales/Orders.ts"⟩,
          ⟨"schema/client/index.ts"⟩] ∧
      ¬ (layoutNamed "sales/Orders").WritesIntoMadeDirs
        ((layoutNamed "sales/Orders").traceIn (everythingFound : World Unit Unit)) ∧
      (layoutNamed "/Orders").config.check = .ok () ∧
      ((layoutNamed "/Orders").traceIn (everythingFound : World Unit Unit)).paths =
        [⟨"/Orders.ts"⟩, ⟨"/Orders.ts"⟩, ⟨"schema/client/index.ts"⟩] := by
  have hpaths : ((layoutNamed "sales/Orders").traceIn
      (everythingFound : World Unit Unit)).paths = [⟨"schema/sales/Orders.ts"⟩,
        ⟨"schema/client/sales/Orders.ts"⟩, ⟨"schema/client/index.ts"⟩] := by
    rw [paths_everythingFound]
    rfl
  have hoff : ∀ dir ∈ [(layoutNamed "sales/Orders").root, (layoutNamed "sales/Orders").clientDir],
      ¬ (⟨"schema/sales/Orders.ts"⟩ : Path).LiesIn dir := by decide
  refine ⟨by decide, hpaths, fun h => ?_, by decide, ?_⟩
  · have hwritten : (⟨"schema/sales/Orders.ts"⟩ : Path) ∈ ((layoutNamed "sales/Orders").traceIn
        (everythingFound : World Unit Unit)).paths := by
      rw [hpaths]
      exact List.mem_cons_self
    obtain ⟨dir, hdir, hlies⟩ := h.lies hwritten
    exact hoff dir hdir hlies
  · rw [paths_everythingFound]
    rfl

end Run

end TypedLayouts
