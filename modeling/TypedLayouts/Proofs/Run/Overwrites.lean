import Mathlib.Data.List.Nodup
import Mathlib.Data.List.Pairwise
import TypedLayouts.Proofs.Files.Components
import TypedLayouts.Proofs.Run.Account

/-!
# Files that a run writes twice

The check of a config compares fragments, and files are named by whole names. That keeps two schema
modules apart, and two client modules, as long as names are relative: equal paths have equal
fragments. It does not look at the directory of clients and its index, which share one tree with the
schema modules. `FilesApart` is what is missing: a run never overwrites a file of its own exactly if
the schemas satisfy it, and for names without slashes it says that no client is named `index`.
-/

namespace TypedLayouts

open Identifier (fragment innerPart)
open Layout (FetchError)

variable {ε φ : Type}

/-- The paths of the files that were asked for, in order. -/
def Trace.paths (t : Trace ε φ) : List Path :=
  t.writes.map Prod.fst

/-- What is there when all files of a trace are written to an empty directory. -/
def Trace.files (t : Trace ε φ) : Memory :=
  Memory.writeFiles {} t.writes

/-- The sink of a world never fails. -/
structure World.KeepsAll (w : World ε φ) : Prop where
  /-- Every directory can be made. -/
  ensureDir : ∀ t dir, w.ensureDir t dir = .ok ()
  /-- Every file can be written. -/
  writeFile : ∀ t path text, w.writeFile t path text = .ok ()

namespace Run

variable (run : Run)

/-- The files that a schema may get. -/
def pathsOf (schema : SchemaConfig) : List Path :=
  run.schemaPath schema.name
    :: if run.wantsClient schema then [run.clientPath schema.name] else []

/-- The files that a run may write. -/
def allPaths : List Path :=
  run.config.schemas.flatMap run.pathsOf
    ++ if run.config.schemas.any run.wantsClient then [run.indexPath] else []

/-- The files of a run are apart where the check of the config does not see to it. -/
structure FilesApart : Prop where
  /-- No client module is the index. -/
  index : ∀ s ∈ run.config.schemas, run.wantsClient s = true →
    ¬ (run.clientPath s.name).Same run.indexPath
  /-- No schema module is the index, if there is one. -/
  indexOfClients : ∀ s ∈ run.config.schemas, ∀ s' ∈ run.config.schemas, run.wantsClient s' = true →
    ¬ (run.schemaPath s.name).Same run.indexPath
  /-- No schema module is a client module. -/
  clients : ∀ s ∈ run.config.schemas, ∀ s' ∈ run.config.schemas, run.wantsClient s' = true →
    ¬ (run.schemaPath s.name).Same (run.clientPath s'.name)
  /-- No absolute name is that of a file in the directory of the run. -/
  absolute : ∀ s ∈ run.config.schemas, ∀ s' ∈ run.config.schemas,
    (fileName s.name).isAbsolute = true → (fileName s'.name).isAbsolute = false →
      ¬ (run.schemaPath s.name).Same (run.schemaPath s'.name)

/-! ## The files of a run are among those of its schemas -/

/-- The files of a visit. -/
def visitPaths (v : Visit) : List Path :=
  if v.isFound then run.pathsOf v.schema else []

theorem map_fst_visitWrites (v : Visit) :
    (run.visitWrites v).map Prod.fst = run.visitPaths v := by
  unfold visitWrites visitPaths pathsOf Visit.isFound
  cases v.found with
  | error missing => rfl
  | ok metadata =>
    dsimp only
    cases run.wantsClient v.schema with
    | false => rfl
    | true => rfl

variable {run} {w : World ε φ} {report : Report}

/-- The files of a successful run are those of its visits, and the index if one has a client. -/
theorem paths_of_ok (h : run.resultIn w = .ok report) :
    ∃ visits : List Visit, visits.map Visit.schema = run.config.schemas ∧
      (∀ v ∈ visits, ∃ t, v.answer = w.fetch t v.schema.layout) ∧
      (run.traceIn w).paths = visits.flatMap run.visitPaths ++
        if visits.any run.givesClient then [run.indexPath] else [] := by
  obtain ⟨visits, hvisits, hclients, -, -, htrace⟩ := visits_of_ok h
  have hnone : report.clients = [] ↔ visits.any run.givesClient = false := by
    rw [hclients, run.clients_eq_nil_iff]
  refine ⟨visits, hvisits, visits_answered htrace, ?_⟩
  have hpaths : (visits.flatMap run.visitWrites).map Prod.fst =
      visits.flatMap run.visitPaths := by
    rw [List.map_flatMap]
    congr 1
    exact funext run.map_fst_visitWrites
  unfold Trace.paths
  rw [htrace, run.writes_eventsOf, List.map_append, hpaths]
  cases hany : visits.any run.givesClient with
  | false => rw [if_pos (hnone.mpr hany)]; rfl
  | true =>
    have hsome : report.clients ≠ [] := by
      rw [ne_eq, hnone, hany]
      exact Bool.noConfusion
    rw [if_neg hsome]
    rfl

variable (run) in
/-- No run writes other files than those of its schemas, nor in another order. -/
theorem paths_sublist_of_ok (h : run.resultIn w = .ok report) :
    (run.traceIn w).paths.Sublist run.allPaths := by
  obtain ⟨visits, hvisits, -, hpaths⟩ := paths_of_ok h
  rw [hpaths]
  unfold allPaths
  rw [← hvisits, List.flatMap_map, List.any_map]
  refine List.Sublist.append ?_ ?_
  · clear hvisits hpaths
    induction visits with
    | nil => exact List.Sublist.refl _
    | cons v rest ih =>
      rw [List.flatMap_cons, List.flatMap_cons]
      refine List.Sublist.append ?_ ih
      unfold visitPaths
      split
      · exact List.Sublist.refl _
      · exact List.nil_sublist _
  · cases hany : visits.any run.givesClient with
    | false => exact List.nil_sublist _
    | true =>
      obtain ⟨v, hv, hgives⟩ := List.any_eq_true.mp hany
      have hwants : visits.any (run.wantsClient ∘ Visit.schema) = true :=
        List.any_eq_true.mpr ⟨v, hv, (Bool.and_eq_true_iff.mp hgives).2⟩
      rw [hwants]

end Run

/-- A world in which nothing fails but that layouts may be missing. -/
def World.lenient (w : World ε φ) : World ε φ where
  fetch t layout := match w.fetch t layout with
    | .error (.failed _ _) => .error (.notFound layout)
    | answer => answer
  ensureDir _ _ := .ok ()
  writeFile _ _ _ := .ok ()

theorem World.lenient_mends (w : World ε φ) : w.lenient.Mends w := by
  intro t c h
  cases c with
  | fetch layout =>
    have he : w.lenient.answer t (.fetch layout) = .fetched layout (w.lenient.fetch t layout) := rfl
    have he' : w.answer t (.fetch layout) = .fetched layout (w.fetch t layout) := rfl
    rw [he'] at h
    rw [he, he']
    unfold lenient
    dsimp only
    rcases hf : w.fetch t layout with (missing | ⟨failing, cause⟩) | metadata
    · rfl
    · rw [hf] at h
      cases h
    · rfl
  | ensureDir dir => exact w.unfailing_mends t (.ensureDir dir) h
  | writeFile path text => exact w.unfailing_mends t (.writeFile path text) h

theorem World.failure_lenient (w : World ε φ) (t : Trace ε φ) (c : Call) :
    (w.lenient.answer t c).failure = none := by
  cases c with
  | fetch layout =>
    have he : w.lenient.answer t (.fetch layout) = .fetched layout (w.lenient.fetch t layout) := rfl
    rw [he]
    unfold lenient
    dsimp only
    rcases w.fetch t layout with (missing | ⟨failing, cause⟩) | metadata
    · rfl
    · rfl
    · rfl
  | ensureDir dir => rfl
  | writeFile path text => rfl

namespace Run

variable (run : Run) (w : World ε φ)

/-- The files of a trace are a matter of its calls. -/
theorem paths_eq_filterMap_calls (t : Trace ε φ) :
    t.paths = t.calls.filterMap fun
      | .writeFile path _ => some path
      | _ => none := by
  unfold Trace.paths Trace.writes Trace.calls
  rw [List.map_filterMap, List.filterMap_map]
  congr 1
  funext e
  cases e with
  | fetched layout answer => rfl
  | ensured dir answer => rfl
  | wrote path text answer => rfl

/-- Whatever happens, a run writes no other files than those of its schemas, nor in another
order. -/
theorem paths_sublist : (run.traceIn w).paths.Sublist run.allPaths := by
  obtain ⟨report, hreport⟩ := run.exists_report w.failure_lenient
  refine List.Sublist.trans ?_ (run.paths_sublist_of_ok hreport)
  rw [paths_eq_filterMap_calls, paths_eq_filterMap_calls]
  exact (run.calls_prefix_of_mends w.lenient_mends).sublist.filterMap _

/-- A world in which every layout is found and nothing fails. -/
def everythingFound : World ε φ where
  fetch _ _ := .ok {}
  ensureDir _ _ := .ok ()
  writeFile _ _ _ := .ok ()

/-- Where every layout is found, a run writes all files of its schemas. -/
theorem paths_everythingFound :
    (run.traceIn (everythingFound : World ε φ)).paths = run.allPaths := by
  obtain ⟨report, hreport⟩ := run.exists_report (everythingFound : World ε φ).failure_lenient
  obtain ⟨visits, hvisits, hfound, hpaths⟩ := paths_of_ok (w := everythingFound) hreport
  have hall : ∀ v ∈ visits, v.isFound = true := by
    intro v hv
    obtain ⟨t, ht⟩ := hfound v hv
    unfold Visit.answer at ht
    unfold Visit.isFound
    cases hf : v.found with
    | ok metadata => rfl
    | error missing =>
      rw [hf] at ht
      cases ht
  rw [hpaths]
  unfold allPaths
  rw [← hvisits, List.flatMap_map, List.any_map]
  congr 1
  · refine List.flatMap_congr fun v hv => ?_
    unfold visitPaths
    rw [if_pos (hall v hv)]
  · have hany : visits.any run.givesClient = visits.any (run.wantsClient ∘ Visit.schema) := by
      rw [Bool.eq_iff_iff, List.any_eq_true, List.any_eq_true]
      refine exists_congr fun v => and_congr_right fun hv => ?_
      unfold givesClient
      rw [hall v hv, Bool.true_and]
      rfl
    rw [hany]

/-! ## Names and paths -/

theorem inner_fileName (name : String) :
    (fileName name).inner = innerPart name.toList ++ ['t', 's'] := by
  have hextension : innerPart ".ts".toList = ['t', 's'] := by decide
  unfold fileName Path.inner
  rw [String.append_assoc, String.toList_append, Identifier.innerPart_append]
  exact congrArg _ hextension

/-- In one directory, names that are both relative or both absolute give the same file only if they
have the same fragment. -/
theorem fragment_eq_of_same {dir : Path} {name name' : String}
    (h : (dir / fileName name).Same (dir / fileName name'))
    (ha : (fileName name).isAbsolute = (fileName name').isAbsolute) :
    fragment name = fragment name' := by
  have hinner := h.inner_eq
  refine Identifier.fragment_congr ?_
  cases hname : (fileName name').isAbsolute with
  | true =>
    rw [hname] at ha
    rw [Path.div_of_isAbsolute ha, Path.div_of_isAbsolute hname, inner_fileName,
      inner_fileName] at hinner
    exact List.append_cancel_right hinner
  | false =>
    rw [hname] at ha
    rw [Path.inner_div ha, Path.inner_div hname, inner_fileName, inner_fileName] at hinner
    exact List.append_cancel_right (List.append_cancel_left hinner)

/-- An absolute name gives one file for both modules. -/
theorem schemaPath_eq_clientPath {name : String} (h : (fileName name).isAbsolute = true) :
    run.schemaPath name = run.clientPath name := by
  unfold schemaPath clientPath
  rw [Path.div_of_isAbsolute h, Path.div_of_isAbsolute h]

theorem mem_pathsOf {schema : SchemaConfig} {path : Path} :
    path ∈ run.pathsOf schema ↔ path = run.schemaPath schema.name ∨
      run.wantsClient schema = true ∧ path = run.clientPath schema.name := by
  unfold pathsOf
  cases run.wantsClient schema with
  | false => simp
  | true => simp

variable {run}

/-- Different schemas have different files. -/
theorem FilesApart.not_same (h : run.FilesApart)
    (hn : (run.config.schemas.map fun schema => fragment schema.name).Nodup) {s s' : SchemaConfig}
    (hs : s ∈ run.config.schemas) (hs' : s' ∈ run.config.schemas) (hne : s ≠ s') {x y : Path}
    (hx : x ∈ run.pathsOf s) (hy : y ∈ run.pathsOf s') : ¬ x.Same y := by
  have hfragment : fragment s.name ≠ fragment s'.name :=
    fun he => hne (List.inj_on_of_nodup_map hn hs hs' he)
  -- An absolute name leaves no place for a client beside its schema module.
  have hrelative : ∀ r ∈ run.config.schemas, run.wantsClient r = true →
      (fileName r.name).isAbsolute = false := by
    intro r hr hc
    refine Bool.eq_false_iff.mpr fun habs => h.clients r hr r hr hc ?_
    rw [run.schemaPath_eq_clientPath habs]
    exact rfl
  rcases run.mem_pathsOf.mp hx with rfl | ⟨hc, rfl⟩
  · rcases run.mem_pathsOf.mp hy with rfl | ⟨hc', rfl⟩
    · intro hsame
      cases ha : (fileName s.name).isAbsolute with
      | true =>
        cases ha' : (fileName s'.name).isAbsolute with
        | true => exact hfragment (fragment_eq_of_same hsame (ha.trans ha'.symm))
        | false => exact h.absolute s hs s' hs' ha ha' hsame
      | false =>
        cases ha' : (fileName s'.name).isAbsolute with
        | true => exact h.absolute s' hs' s hs ha' ha hsame.symm
        | false => exact hfragment (fragment_eq_of_same hsame (ha.trans ha'.symm))
    · exact h.clients s hs s' hs' hc'
  · rcases run.mem_pathsOf.mp hy with rfl | ⟨hc', rfl⟩
    · exact fun hsame => h.clients s' hs' s hs hc hsame.symm
    · intro hsame
      have ha := (hrelative s hs hc).trans (hrelative s' hs' hc').symm
      exact hfragment (fragment_eq_of_same hsame ha)

/-- Files that are all different are apart. -/
theorem FilesApart.of_pairwise (h : run.allPaths.Pairwise fun p q => ¬ p.Same q) :
    run.FilesApart := by
  unfold allPaths at h
  rw [List.pairwise_append, List.pairwise_flatMap] at h
  obtain ⟨⟨hown, hother⟩, -, hindex⟩ := h
  have hsymm : Std.Symm fun s s' : SchemaConfig =>
      ∀ x ∈ run.pathsOf s, ∀ y ∈ run.pathsOf s', ¬ x.Same y :=
    ⟨fun s s' h x hx y hy hsame => h y hy x hx hsame.symm⟩
  have happart := List.Pairwise.forall hother
  have hbehind : ∀ s ∈ run.config.schemas, ∀ s' ∈ run.config.schemas,
      run.wantsClient s' = true → ∀ x ∈ run.pathsOf s, ¬ x.Same run.indexPath := by
    intro s hs s' hs' hwants x hx
    refine hindex x (List.mem_flatMap.mpr ⟨s, hs, hx⟩) _ ?_
    rw [if_pos (List.any_eq_true.mpr ⟨s', hs', hwants⟩)]
    exact List.mem_singleton_self _
  refine ⟨?index, ?indexOfClients, ?clients, ?absolute⟩
  case index =>
    exact fun s hs hwants =>
      hbehind s hs s hs hwants _ (run.mem_pathsOf.mpr (.inr ⟨hwants, rfl⟩))
  case indexOfClients =>
    exact fun s hs s' hs' hwants =>
      hbehind s hs s' hs' hwants _ (run.mem_pathsOf.mpr (.inl rfl))
  case clients =>
    intro s hs s' hs' hwants
    by_cases he : s = s'
    · subst he
      have hpair := hown s hs
      unfold pathsOf at hpair
      rw [if_pos hwants] at hpair
      exact (List.pairwise_cons.mp hpair).1 _ (List.mem_singleton_self _)
    · exact happart hs hs' he _ (run.mem_pathsOf.mpr (.inl rfl)) _
        (run.mem_pathsOf.mpr (.inr ⟨hwants, rfl⟩))
  case absolute =>
    intro s hs s' hs' ha ha'
    have hne : s ≠ s' := by
      rintro rfl
      rw [ha] at ha'
      cases ha'
    exact happart hs hs' hne _ (run.mem_pathsOf.mpr (.inl rfl)) _
      (run.mem_pathsOf.mpr (.inl rfl))

/-- In an accepted config, files that are apart are all different. -/
theorem FilesApart.pairwise (hc : run.config.check = .ok ()) (h : run.FilesApart) :
    run.allPaths.Pairwise fun p q => ¬ p.Same q := by
  have hfragments := (Config.check_ok_iff.mp hc).2
  unfold allPaths
  rw [List.pairwise_append, List.pairwise_flatMap]
  refine ⟨⟨fun s hs => ?own, ?other⟩, ?_, ?behind⟩
  case own =>
    unfold pathsOf
    split
    · rename_i hwants
      exact List.pairwise_pair.mpr (h.clients s hs s hs hwants)
    · exact List.pairwise_singleton _ _
  case other =>
    refine (List.Nodup.of_map _ hfragments).pairwise_of_forall_ne ?_
    exact fun s hs s' hs' hne x hx y hy => h.not_same hfragments hs hs' hne hx hy
  case behind =>
    intro x hx y hy
    obtain ⟨s, hs, hx⟩ := List.mem_flatMap.mp hx
    split at hy
    · rename_i hany
      obtain ⟨s', hs', hwants⟩ := List.any_eq_true.mp hany
      rw [List.mem_singleton.mp hy]
      rcases run.mem_pathsOf.mp hx with rfl | ⟨hc, rfl⟩
      · exact h.indexOfClients s hs s' hs' hwants
      · exact h.index s hs hc
    · cases hy
  · split
    · exact List.pairwise_singleton _ _
    · exact List.Pairwise.nil

/-! ## Names without slashes -/

theorem isFileName_fileName {name : String} (h : '/' ∉ name.toList) :
    Path.IsFileName (name ++ "." ++ TypeScript.Document.extension) := by
  have hlong : 3 ≤ (name ++ "." ++ TypeScript.Document.extension).length := by
    rw [String.length_append, String.length_append, Nat.add_assoc]
    exact Nat.le_add_left 3 name.length
  refine ⟨?_, ?_, ?_, ?_⟩
  · simp [TypeScript.Document.extension]
  · simp [TypeScript.Document.extension, h]
  · intro he
    rw [he] at hlong
    exact absurd hlong (by decide)
  · intro he
    rw [he] at hlong
    exact absurd hlong (by decide)

theorem components_schemaPath {name : String} (h : '/' ∉ name.toList) :
    (run.schemaPath name).components =
      run.root.components ++ [.name (name ++ "." ++ TypeScript.Document.extension)] :=
  Path.components_div (isFileName_fileName h)

theorem components_clientDir :
    run.clientDir.components = run.root.components ++ [.name "client"] := by
  have hdir : Path.IsFileName "client" := ⟨by decide, by decide, by decide, by decide⟩
  exact Path.components_div hdir

theorem components_clientPath {name : String} (h : '/' ∉ name.toList) :
    (run.clientPath name).components = run.root.components ++
      [.name "client", .name (name ++ "." ++ TypeScript.Document.extension)] := by
  have hfile := Path.components_div (p := run.clientDir) (isFileName_fileName h)
  rw [components_clientDir, List.append_assoc] at hfile
  exact hfile

/-- Where names have no slashes, files are apart exactly if no client is named like the index. -/
theorem filesApart_iff_of_slashless
    (h : ∀ s ∈ run.config.schemas, '/' ∉ s.name.toList) :
    run.FilesApart ↔ ∀ s ∈ run.config.schemas, run.wantsClient s = true → s.name ≠ "index" := by
  have hindex : '/' ∉ "index".toList := by decide
  have hcross : ∀ {name name' : String}, '/' ∉ name.toList → '/' ∉ name'.toList →
      ¬ (run.schemaPath name).Same (run.clientPath name') := by
    intro name name' hname hname' hsame
    unfold Path.Same at hsame
    rw [components_schemaPath hname, components_clientPath hname'] at hsame
    have hlength := congrArg List.length hsame
    simp at hlength
  constructor
  · intro hapart s hs hwants he
    refine hapart.index s hs hwants ?_
    rw [he]
    exact rfl
  · intro hnames
    refine ⟨?index, ?indexOfClients, ?clients, ?absolute⟩
    case index =>
      intro s hs hwants hsame
      unfold Path.Same indexPath at hsame
      rw [components_clientPath (h s hs), components_clientPath hindex] at hsame
      have hname := List.append_cancel_left hsame
      simp only [List.cons.injEq, Path.Component.name.injEq, and_true, true_and] at hname
      refine hnames s hs hwants ?_
      rw [String.append_assoc, String.append_assoc] at hname
      exact (String.append_left_inj _).mp hname
    case indexOfClients => exact fun s hs s' hs' hwants => hcross (h s hs) hindex
    case clients => exact fun s hs s' hs' hwants => hcross (h s hs) (h s' hs')
    case absolute =>
      intro s hs s' hs' ha
      have hrelative : (fileName s.name).isAbsolute = false :=
        (isFileName_fileName (h s hs)).relative
      rw [hrelative] at ha
      cases ha

/-! ## Runs that overwrite nothing -/

/-- In an accepted config, no run whose sink never fails writes a file twice exactly if the files of
the schemas are apart; then all files are there at the end. Where names have no slashes, that is so
exactly if no client is named like the index. -/
theorem overwrites_nothing_iff (hc : run.config.check = .ok ()) :
    ((∀ w : World ε φ, w.KeepsAll → (run.traceIn w).paths.Pairwise fun p q => ¬ p.Same q) ↔
        run.FilesApart) ∧
      (run.FilesApart → ∀ (w : World ε φ), ∀ file ∈ (run.traceIn w).writes,
        (run.traceIn w).files.file? file.1 = some file.2) ∧
      ((∀ s ∈ run.config.schemas, '/' ∉ s.name.toList) →
        (run.FilesApart ↔
          ∀ s ∈ run.config.schemas, run.wantsClient s = true → s.name ≠ "index")) := by
  have hapart : run.FilesApart → ∀ w : World ε φ,
      (run.traceIn w).paths.Pairwise fun p q => ¬ p.Same q :=
    fun h w => (h.pairwise hc).sublist (run.paths_sublist w)
  refine ⟨⟨fun h => ?_, fun h w _ => hapart h w⟩, fun h w file hfile => ?_,
    filesApart_iff_of_slashless⟩
  · have hall := h everythingFound ⟨fun _ _ => rfl, fun _ _ _ => rfl⟩
    rw [paths_everythingFound] at hall
    exact .of_pairwise hall
  · exact Memory.file?_writeFiles (List.pairwise_map.mp (hapart h w)) hfile

/-- Three layouts without slashes in their names, and none of them the index. -/
theorem three_layouts_overwrite_nothing :
    threeLayouts.config.check = .ok () ∧ threeLayouts.FilesApart ∧
      ∀ w : World Unit Unit, w.KeepsAll →
        (threeLayouts.traceIn w).paths.Pairwise fun p q => ¬ p.Same q := by
  have hc : threeLayouts.config.check = .ok () := by decide
  have hiff := overwrites_nothing_iff (ε := Unit) (φ := Unit) hc
  have hapart : threeLayouts.FilesApart := (hiff.2.2 (by decide)).mpr (by decide)
  exact ⟨hc, hapart, hiff.1.mpr hapart⟩

/-- A layout whose client is named like the index. -/
def layoutNamedIndex : Run where
  config := { schemas := [{ layout := "API_Index", name := "index" }] }
  envNames := {}

/-- The config is accepted, but the index takes the place of the client. -/
theorem index_overwrites_client :
    layoutNamedIndex.config.check = .ok () ∧
      (everythingFound : World Unit Unit).KeepsAll ∧
      (layoutNamedIndex.traceIn (everythingFound : World Unit Unit)).paths =
        [⟨"schema/index.ts"⟩, ⟨"schema/client/index.ts"⟩, ⟨"schema/client/index.ts"⟩] ∧
      ¬ (layoutNamedIndex.traceIn (everythingFound : World Unit Unit)).paths.Pairwise
        fun p q => ¬ p.Same q := by
  have hpaths : (layoutNamedIndex.traceIn (everythingFound : World Unit Unit)).paths =
      [⟨"schema/index.ts"⟩, ⟨"schema/client/index.ts"⟩, ⟨"schema/client/index.ts"⟩] := by
    rw [paths_everythingFound]
    rfl
  refine ⟨by decide, ⟨fun _ _ => rfl, fun _ _ _ => rfl⟩, hpaths, ?_⟩
  rw [hpaths]
  intro hapart
  have hlast := (List.pairwise_cons.mp (List.pairwise_cons.mp hapart).2).1
  exact hlast _ (List.mem_singleton_self _) rfl

end Run

end TypedLayouts
