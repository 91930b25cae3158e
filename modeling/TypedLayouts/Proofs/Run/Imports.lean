import TypedLayouts.Proofs.Run.MadeDirectories

/-!
# Imports of generated files

A client module imports the schema module as `../` and the name of the schema, and the index exports
a client from `./` and its name. Such a specifier is followed from the directory of the file that it
stands in, and the extension is put behind the name that it leads to. The files are named apart from
that, by joining directories with whole names.

The two agree where a name goes down no level on the way to its last part, as names without slashes
do. Where the files are below a relative directory they agree for no other names.
-/

namespace TypedLayouts

open Layout (FetchError Metadata)
open TypedLayouts.Module (Blueprint)
open TypeScript (Document Statement)

variable {ε φ : Type}

namespace Path

variable {p : Path} {name leaf : String}

/-- The place of the file whose place without the extension this is. -/
def extended? : List Component → Option (List Component)
  | .name text :: above => some (.name (text ++ "." ++ Document.extension) :: above)
  | _ => none

/-- The place of the file that a relative specifier in the file `p` means. -/
def importPlace? (p : Path) (specifier : String) : Option (List Component) :=
  p.parent?.bind fun dir => extended? (walk (walk [] dir) (⟨specifier⟩ : Path).turns)

/-- A name that stays on its level: it leads to a file of that name that lies as deep as if the name
had only its last part. -/
def IsLevel (name : String) : Prop :=
  ∃ (way : Path) (leaf : String), IsFileName leaf ∧ (⟨name⟩ : Path) = way / ⟨leaf⟩ ∧
    way.isAbsolute = false ∧ height way.turns = 0

theorem IsFileName.isLevel (h : IsFileName name) : IsLevel name := by
  refine ⟨⟨""⟩, name, h, ?_, rfl, rfl⟩
  have hdiv : (⟨""⟩ : Path) / ⟨name⟩ = Path.join ⟨""⟩ ⟨name⟩ := rfl
  rw [hdiv]
  unfold join
  rw [h.relative]
  simp

/-! ## The last part of a name -/

theorem relative_of_slashless (h : '/' ∉ leaf.toList) : (⟨leaf⟩ : Path).isAbsolute = false :=
  beq_eq_false_iff_ne.mpr fun hhead => h (List.mem_of_mem_head? hhead)

/-- Every name has a last part, behind all slashes. -/
theorem exists_leaf (name : String) :
    ∃ (way : Path) (leaf : String), '/' ∉ leaf.toList ∧ (⟨name⟩ : Path) = way / ⟨leaf⟩ := by
  have hjoin : ∀ (way : Path) (leaf : String), '/' ∉ leaf.toList →
      (way.text.isEmpty || way.text.toList.getLast? == some '/') = true →
        way / ⟨leaf⟩ = ⟨way.text ++ leaf⟩ := by
    intro way leaf hleaf hway
    have hdiv : way / ⟨leaf⟩ = way.join ⟨leaf⟩ := rfl
    rw [hdiv]
    unfold join
    rw [relative_of_slashless hleaf, if_neg Bool.false_ne_true, if_pos hway]
  by_cases hslash : '/' ∈ name.toList
  · -- The last slash is the first one from behind.
    obtain ⟨back, front, hsplit, hback⟩ :=
      List.eq_append_cons_of_mem (List.mem_reverse.mpr hslash)
    have hname : name.toList = (front.reverse ++ ['/']) ++ back.reverse := by
      have hreversed := congrArg List.reverse hsplit
      simpa using hreversed
    have hleaf : '/' ∉ (String.ofList back.reverse).toList := by simpa using hback
    refine ⟨⟨String.ofList (front.reverse ++ ['/'])⟩, String.ofList back.reverse, hleaf, ?_⟩
    rw [hjoin _ _ hleaf (by simp), ← String.ofList_append, ← hname, String.ofList_toList]
  · refine ⟨⟨""⟩, name, hslash, ?_⟩
    rw [hjoin _ _ hslash (by simp), String.empty_append]

theorem relative_fileName (h : '/' ∉ leaf.toList) : (Run.fileName leaf).isAbsolute = false :=
  (Run.isFileName_fileName h).relative

/-- The extension goes to the last part of a name. -/
theorem fileName_eq_div {way : Path} (hleaf : '/' ∉ leaf.toList)
    (h : (⟨name⟩ : Path) = way / ⟨leaf⟩) : Run.fileName name = way / Run.fileName leaf := by
  have hdiv : (⟨name⟩ : Path) = way.join ⟨leaf⟩ := h
  have hfile : way / Run.fileName leaf = way.join (Run.fileName leaf) := rfl
  rw [hfile]
  unfold join at hdiv ⊢
  rw [relative_of_slashless hleaf, if_neg Bool.false_ne_true] at hdiv
  rw [relative_fileName hleaf, if_neg Bool.false_ne_true]
  unfold Run.fileName
  split
  · rename_i hway
    rw [if_pos hway] at hdiv
    rw [Path.mk.inj hdiv, String.append_assoc, String.append_assoc, String.append_assoc]
  · rename_i hway
    rw [if_neg hway] at hdiv
    rw [Path.mk.inj hdiv]
    simp only [String.append_assoc]

/-! ## Relative specifiers -/

theorem turns_up (name : String) :
    (⟨"../" ++ name⟩ : Path).turns = .parent :: (⟨name⟩ : Path).turns := by
  have hsegments : segmentsOf ("../" ++ name).toList = ".." :: segmentsOf name.toList := by
    rw [String.toList_append]
    exact segmentsOf_append_slash ['.', '.'] name.toList
  have hturns : (⟨"../" ++ name⟩ : Path).turns =
      (segmentsOf ("../" ++ name).toList).filterMap Component.ofSegment? := rfl
  rw [hturns, hsegments]
  rfl

theorem turns_here (name : String) : (⟨"./" ++ name⟩ : Path).turns = (⟨name⟩ : Path).turns := by
  have hsegments : segmentsOf ("./" ++ name).toList = "." :: segmentsOf name.toList := by
    rw [String.toList_append]
    exact segmentsOf_append_slash ['.'] name.toList
  have hturns : (⟨"./" ++ name⟩ : Path).turns =
      (segmentsOf ("./" ++ name).toList).filterMap Component.ofSegment? := rfl
  rw [hturns, hsegments]
  rfl

/-! ## Files of a directory -/

section Files

variable (dir : Path) {way : Path}

/-- The file of a name has the place that the way in front of its last part leads to. -/
theorem place_fileName (hleaf : '/' ∉ leaf.toList) (h : (⟨name⟩ : Path) = way / ⟨leaf⟩)
    (hway : way.isAbsolute = false) :
    (dir / Run.fileName name).place =
        .name (leaf ++ "." ++ Document.extension) :: walk dir.place way.turns ∧
      ∃ parent, (dir / Run.fileName name).parent? = some parent ∧
        walk [] parent = walk dir.place way.turns := by
  have hlast : (Run.fileName leaf).turns = [.name (leaf ++ "." ++ Document.extension)] :=
    (Run.isFileName_fileName hleaf).turns
  have hshort := relative_fileName hleaf
  have hname := fileName_eq_div hleaf h
  have hrelative : (Run.fileName name).isAbsolute = false := by
    rw [hname, isAbsolute_div hshort, hway]
  have hturns : (Run.fileName name).turns =
      way.turns ++ [.name (leaf ++ "." ++ Document.extension)] := by
    rw [hname, turns_div hshort, hlast]
  refine ⟨?_, ?_⟩
  · rw [place_div hrelative, hturns, walk_concat_name]
  · have hsplit : (dir / Run.fileName name).turns =
        (dir.turns ++ way.turns) ++ [.name (leaf ++ "." ++ Document.extension)] := by
      rw [turns_div hrelative, hturns, List.append_assoc]
    obtain ⟨parent, hparent, hplace⟩ := exists_parent hsplit
    refine ⟨parent, hparent, ?_⟩
    rw [hplace, isAbsolute_div hrelative, walk_append, place_eq]

/-- What a name leads to, without its extension. -/
theorem extended?_walk_turns (hleaf : IsFileName leaf) (h : (⟨name⟩ : Path) = way / ⟨leaf⟩)
    (start : List Component) :
    extended? (walk start (⟨name⟩ : Path).turns) =
      some (.name (leaf ++ "." ++ Document.extension) :: walk start way.turns) := by
  rw [h, turns_div hleaf.relative, hleaf.turns, walk_concat_name]
  rfl

/-- Only a name whose last part is the name of a file leads to a file of that name. -/
theorem isFileName_of_extended? (hleaf : '/' ∉ leaf.toList) {above : List Component}
    (h : extended? (walk dir.place (⟨name⟩ : Path).turns) =
      some (.name (leaf ++ "." ++ Document.extension) :: above)) : IsFileName leaf := by
  have hmem : .name leaf ∈ walk dir.place (⟨name⟩ : Path).turns := by
    unfold extended? at h
    split at h
    · rename_i text above' hplace
      obtain ⟨htext, -⟩ := List.cons.inj (Option.some.inj h)
      have hsame : text = leaf := by simpa using htext
      rw [hplace, hsame]
      exact List.mem_cons_self
    · cases h
  have hnames : leaf.toList ≠ [] ∧ leaf ≠ "." ∧ leaf ≠ ".." := by
    rcases name_mem_walk hmem with hmem | hmem
    · exact name_mem_place hmem
    · exact name_mem_turns hmem
  exact ⟨hnames.1, hleaf, hnames.2.1, hnames.2.2⟩

/-- What is below the root with its extension is below it without. -/
theorem root_mem_of_extended? {place file : List Component} (h : extended? place = some file)
    (hfile : .root ∈ file) : .root ∈ place := by
  unfold extended? at h
  split at h
  · rw [← Option.some.inj h] at hfile
    simpa using hfile
  · cases h

end Files

end Path

/-! ## Specifiers of modules -/

namespace TypeScript

/-- The specifier of the module that a statement imports or exports from. -/
def Statement.source? : Statement → Option String
  | .importNames _ source => some source
  | .exportFrom _ source => some source
  | _ => none

/-- The relative specifiers of a document. -/
def Document.relativeSources (doc : Document) : List String :=
  (doc.body.filterMap Statement.source?).filter (·.toList.head? = some '.')

end TypeScript

/-- A client module imports one module by a relative specifier. -/
theorem relativeSources_clientModule (b : Blueprint) :
    b.clientModule.relativeSources = ["../" ++ b.name] := by
  have hguards : b.guards.filterMap Statement.source? = [] := by
    unfold Blueprint.guards
    split
    · rw [List.filterMap_map]
      exact List.filterMap_eq_nil_iff.mpr fun _ _ => rfl
    · rfl
  have hpackages : Module.clientPackage.toList.head? = some '@' ∧
      Module.webViewerPackage.toList.head? = some '@' := by decide
  have hpackage : b.target.package.toList.head? = some '@' := by
    cases b.target with
    | standard tokenStore => exact hpackages.1
    | webViewer script => exact hpackages.2
  unfold Document.relativeSources Blueprint.clientModule
  rw [List.filterMap_append, List.filterMap_append, hguards]
  simp [Statement.source?, hpackage]

/-- An index exports from one module for each client. -/
theorem relativeSources_indexOf (clients : List String) :
    (Run.indexOf clients).relativeSources = clients.map ("./" ++ ·) := by
  have hsources : (Run.indexOf clients).body.filterMap Statement.source? =
      clients.map ("./" ++ ·) := by
    unfold Run.indexOf
    rw [List.filterMap_map]
    exact congrFun (List.filterMap_eq_map (f := ("./" ++ ·))) clients
  have hrelative : ∀ source ∈ clients.map ("./" ++ ·), source.toList.head? = some '.' := by
    intro source hsource
    obtain ⟨name, -, rfl⟩ := List.mem_map.mp hsource
    rw [String.toList_append]
    rfl
  unfold Document.relativeSources
  rw [hsources]
  exact List.filter_eq_self.mpr fun source hsource => decide_eq_true (hrelative source hsource)

namespace Run

open TypedLayouts.Path (IsFileName IsLevel height importPlace? extended? walk back)

/-! ## Imports of a name -/

variable {run : Run} {name : String}

theorem place_clientDir : run.clientDir.place = .name "client" :: run.root.place := by
  unfold Path.place
  rw [components_clientDir, Path.walk_concat_name]

/-- The index lies in the directory of clients. -/
theorem importPlace?_indexPath (specifier : String) :
    importPlace? run.indexPath specifier =
      extended? (walk run.clientDir.place (⟨specifier⟩ : Path).turns) := by
  have hparent : run.indexPath.parent? = some run.clientDir.components :=
    Path.parent?_of_components (Path.components_div (isFileName_fileName (by decide)))
  unfold importPlace?
  rw [hparent]
  rfl

/-- A client module lies where the way to its last part leads. -/
theorem importPlace?_clientPath {way : Path} {leaf : String} (hleaf : '/' ∉ leaf.toList)
    (h : (⟨name⟩ : Path) = way / ⟨leaf⟩) (hway : way.isAbsolute = false) :
    importPlace? (run.clientPath name) ("../" ++ name) =
      extended? (walk (back (walk run.clientDir.place way.turns)) (⟨name⟩ : Path).turns) := by
  obtain ⟨-, parent, hparent, hplace⟩ :=
    Path.place_fileName run.clientDir hleaf h hway
  have hclient : (run.clientPath name).parent? = some parent := hparent
  unfold importPlace?
  rw [hclient, Option.bind_some, hplace, Path.turns_up]
  rfl

/-- A name that stays on its level is imported from where its files are. -/
theorem imports_of_isLevel (h : IsLevel name) :
    importPlace? (run.clientPath name) ("../" ++ name) = some (run.schemaPath name).place ∧
      importPlace? run.indexPath ("./" ++ name) = some (run.clientPath name).place := by
  obtain ⟨way, leaf, hleaf, hname, hway, hlevel⟩ := h
  have hclient : (run.clientPath name).place = _ :=
    (Path.place_fileName _ hleaf.slashless hname hway).1
  have hschema : (run.schemaPath name).place = _ :=
    (Path.place_fileName _ hleaf.slashless hname hway).1
  refine ⟨?_, ?_⟩
  · rw [importPlace?_clientPath hleaf.slashless hname hway, Path.extended?_walk_turns hleaf hname,
      hschema, place_clientDir, Path.walk_twice (Path.root_not_mem_turns way) hlevel]
  · rw [importPlace?_indexPath, Path.turns_here, Path.extended?_walk_turns hleaf hname, hclient]

/-- Below a relative directory, only a name that stays on its level is imported from where its files
are. -/
theorem isLevel_of_imports (hroot : run.root.isAbsolute = false)
    (hclient : importPlace? (run.clientPath name) ("../" ++ name) =
      some (run.schemaPath name).place)
    (hindex : importPlace? run.indexPath ("./" ++ name) = some (run.clientPath name).place) :
    IsLevel name := by
  have hrootless : .root ∉ run.root.place := by
    rw [Path.place_of_relative hroot]
    exact (Path.height_walk (by simp) (Path.root_not_mem_turns _)).2
  have hclientless : .root ∉ run.clientDir.place := by
    rw [place_clientDir]
    simpa using hrootless
  obtain ⟨way, leaf, hleaf, hname⟩ := Path.exists_leaf name
  rw [importPlace?_indexPath, Path.turns_here] at hindex
  have hway : way.isAbsolute = false := by
    -- An absolute way leads below the root, and nothing relative leads there.
    refine Bool.eq_false_iff.mpr fun habs => ?_
    have hfile : (fileName name).isAbsolute = true := by
      rw [Path.fileName_eq_div hleaf hname, Path.isAbsolute_div (Path.relative_fileName hleaf),
        habs]
    have halone : run.clientPath name = fileName name := Path.div_of_isAbsolute hfile
    have hfar : .root ∈ (run.clientPath name).place := by
      rw [halone, Path.place_eq, hfile]
      exact Path.root_mem_walk (List.mem_singleton_self _)
    exact (Path.height_walk hclientless (Path.root_not_mem_turns _)).2
      (Path.root_mem_of_extended? hindex hfar)
  have hplace : (run.clientPath name).place = _ := (Path.place_fileName _ hleaf hname hway).1
  rw [hplace] at hindex
  have hfile : IsFileName leaf := Path.isFileName_of_extended? _ hleaf hindex
  refine ⟨way, leaf, hfile, hname, hway, ?_⟩
  have hschema : (run.schemaPath name).place = _ := (Path.place_fileName _ hleaf hname hway).1
  rw [importPlace?_clientPath hleaf hname hway, Path.extended?_walk_turns hfile hname, hschema,
    place_clientDir] at hclient
  obtain ⟨-, hback⟩ := List.cons.inj (Option.some.inj hclient)
  -- The way is gone down twice to the import, and once to the schema module.
  have hturns := Path.root_not_mem_turns way
  have htwice : walk (.name "client" :: run.root.place) (way.turns ++ .parent :: way.turns) =
      walk run.root.place way.turns := by
    rw [Path.walk_append]
    exact hback
  have hstart : .root ∉ Path.Component.name "client" :: run.root.place := by simpa using hrootless
  have hturnsTwice : .root ∉ way.turns ++ .parent :: way.turns := by simp [hturns]
  have hdown := (Path.height_walk hstart hturnsTwice).1
  have honce := (Path.height_walk hrootless hturns).1
  rw [htwice, honce, Path.height_append, Path.height_cons, Path.height_cons] at hdown
  simp only [Path.Component.height] at hdown
  omega

/-- A name without slashes that is accepted is the name of a file. -/
theorem isLevel_of_slashless (hc : run.config.check = .ok ()) {s : SchemaConfig}
    (hs : s ∈ run.config.schemas) (h : '/' ∉ s.name.toList) : IsLevel s.name := by
  have hfragment := (Config.check_ok_iff.mp hc).1 s hs
  have hempty : Identifier.fragment "" = "" ∧ Identifier.fragment "." = "" ∧
      Identifier.fragment ".." = "" := by decide
  refine IsFileName.isLevel ⟨fun hnil => hfragment ?_, h, fun he => hfragment ?_, fun he =>
    hfragment ?_⟩
  · rw [String.toList_eq_nil_iff.mp hnil]
    exact hempty.1
  · rw [he]
    exact hempty.2.1
  · rw [he]
    exact hempty.2.2

/-! ## Imports of a run -/

variable {w : World ε φ} {report : Report}

variable (run) in
/-- The relative specifiers in the files of some visits, and of the index of some clients, mean the
files that are written. -/
structure ImportsResolve (visits : List Visit) (clients : List String) : Prop where
  /-- A client module imports its schema module, and nothing else. -/
  schemaModules : ∀ v ∈ visits, ∀ metadata, v.found = .ok metadata →
    run.wantsClient v.schema = true →
      (run.blueprint v.schema metadata).clientModule.relativeSources.map
          (importPlace? (run.clientPath v.schema.name)) =
        [some (run.schemaPath v.schema.name).place]
  /-- The index exports from the client modules. -/
  clientModules : (indexOf clients).relativeSources.map (importPlace? run.indexPath) =
    clients.map fun name => some (run.clientPath name).place

/-- The exports of an index resolve exactly if each of them does. -/
theorem exports_resolve_iff {clients : List String} :
    (indexOf clients).relativeSources.map (importPlace? run.indexPath) =
        clients.map (fun name => some (run.clientPath name).place) ↔
      ∀ name ∈ clients,
        importPlace? run.indexPath ("./" ++ name) = some (run.clientPath name).place := by
  rw [relativeSources_indexOf, List.map_map, List.map_inj_left]
  simp only [Function.comp_apply]

/-- In a successful run of an accepted config, the relative imports of all files that are written
resolve to files of the run where the names of the clients stay on their level, as names without
slashes do. Below a relative directory they resolve for no other names. -/
theorem imports_resolve_iff (w : World ε φ) (hc : run.config.check = .ok ())
    (h : run.resultIn w = .ok report) :
    ∃ visits : List Visit, visits.map Visit.schema = run.config.schemas ∧
      run.traceIn w = run.eventsOf visits report.clients ∧
      (∀ name, name ∈ report.clients ↔
        ∃ v ∈ visits, run.givesClient v = true ∧ v.schema.name = name) ∧
      ((∀ name ∈ report.clients, IsLevel name) → run.ImportsResolve visits report.clients) ∧
      (run.root.isAbsolute = false → run.ImportsResolve visits report.clients →
        ∀ name ∈ report.clients, IsLevel name) ∧
      ∀ s ∈ run.config.schemas, '/' ∉ s.name.toList → IsLevel s.name := by
  obtain ⟨visits, hvisits, hclients, -, -, htrace⟩ := visits_of_ok h
  have hmem : ∀ name, name ∈ report.clients ↔
      ∃ v ∈ visits, run.givesClient v = true ∧ v.schema.name = name := by
    intro name
    rw [hclients, run.mem_clients_foldl_advance]
    exact or_iff_right List.not_mem_nil
  refine ⟨visits, hvisits, htrace, hmem, fun hlevel => ⟨?schemas, ?index⟩,
    fun hroot hresolve => ?only, fun s hs => isLevel_of_slashless hc hs⟩
  case schemas =>
    intro v hv metadata hfound hwants
    have hgives : run.givesClient v = true := by
      unfold givesClient Visit.isFound
      rw [hfound, hwants]
      rfl
    have hname := hlevel v.schema.name ((hmem _).mpr ⟨v, hv, hgives, rfl⟩)
    rw [relativeSources_clientModule, List.map_singleton]
    exact congrArg (fun place => [place]) (imports_of_isLevel hname).1
  case index =>
    exact exports_resolve_iff.mpr fun name hname => (imports_of_isLevel (hlevel name hname)).2
  case only =>
    intro name hname
    obtain ⟨v, hv, hgives, rfl⟩ := (hmem name).mp hname
    have hindex := exports_resolve_iff.mp hresolve.clientModules _ hname
    unfold givesClient Visit.isFound at hgives
    cases hfound : v.found with
    | error missing =>
      rw [hfound] at hgives
      cases hgives
    | ok metadata =>
      have hwants : run.wantsClient v.schema = true := (Bool.and_eq_true_iff.mp hgives).2
      have hschema := hresolve.schemaModules v hv metadata hfound hwants
      rw [relativeSources_clientModule, List.map_singleton] at hschema
      exact isLevel_of_imports hroot (List.singleton_inj.mp hschema) hindex

/-- A layout is missing, and the one client resolves. -/
theorem imports_of_three_layouts :
    threeLayouts.config.check = .ok () ∧
      threeLayouts.resultIn (withoutLayout "API_Old") =
        .ok ⟨[⟨"schema/Orders.ts"⟩, ⟨"schema/client/Orders.ts"⟩, ⟨"schema/Items.ts"⟩,
          ⟨"schema/client/index.ts"⟩], ["Orders"], ["API_Old"]⟩ ∧
      ∃ visits, threeLayouts.traceIn (withoutLayout "API_Old") =
          threeLayouts.eventsOf visits ["Orders"] ∧
        threeLayouts.ImportsResolve visits ["Orders"] := by
  have hc : threeLayouts.config.check = .ok () := by decide
  have h : threeLayouts.resultIn (withoutLayout "API_Old") =
      .ok ⟨[⟨"schema/Orders.ts"⟩, ⟨"schema/client/Orders.ts"⟩, ⟨"schema/Items.ts"⟩,
        ⟨"schema/client/index.ts"⟩], ["Orders"], ["API_Old"]⟩ := by rfl
  obtain ⟨visits, -, htrace, -, hresolve, -, hslashless⟩ :=
    imports_resolve_iff (withoutLayout "API_Old") hc h
  refine ⟨hc, h, visits, htrace, hresolve fun name hname => ?_⟩
  rw [List.mem_singleton.mp hname]
  exact hslashless _ List.mem_cons_self (by decide)

/-- The client of a name with a slash lies below the directory of clients, from where the import of
its schema module leads back to the client itself. -/
theorem slashes_misdirect_imports :
    (layoutNamed "sales/Orders").config.check = .ok () ∧
      (layoutNamed "sales/Orders").resultIn (everythingFound : World Unit Unit) =
        .ok ⟨[⟨"schema/sales/Orders.ts"⟩, ⟨"schema/client/sales/Orders.ts"⟩,
          ⟨"schema/client/index.ts"⟩], ["sales/Orders"], []⟩ ∧
      (∀ schema ∈ (layoutNamed "sales/Orders").config.schemas, ∀ metadata,
        ((layoutNamed "sales/Orders").blueprint schema metadata).clientModule.relativeSources =
          ["../sales/Orders"]) ∧
      importPlace? ⟨"schema/client/sales/Orders.ts"⟩ "../sales/Orders" =
        some (⟨"schema/client/sales/Orders.ts"⟩ : Path).place ∧
      (⟨"schema/client/sales/Orders.ts"⟩ : Path).place ≠
        (⟨"schema/sales/Orders.ts"⟩ : Path).place := by
  refine ⟨by decide, by rfl, fun schema hschema metadata => ?_, by decide, by decide⟩
  rw [List.mem_singleton.mp hschema]
  exact relativeSources_clientModule _

end Run

end TypedLayouts
