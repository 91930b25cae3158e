import TypedLayouts.Proofs.Files.Tree
import TypedLayouts.Proofs.OrderedMaps

/-!
# Memory in place of a disk

Memory takes every call, and a disk refuses some: a file has no directory, or a file and a directory
would be in one place. Where a disk has refused none of a row of calls, both hold the same files,
and the directories of the disk are those that memory has on record and the ones above them.

What carries this through a run is that the nodes below the working directory are those of the
memory (`Mirrors`). A call that succeeds keeps it: the disk itself rules out that a directory comes
where memory has a file.
-/

namespace TypedLayouts

/-- One of the two operations of a sink, with what it is asked. -/
inductive FileCall where
  /-- To make a directory. -/
  | ensureDir (dir : Path)
  /-- To write a file. -/
  | writeFile (path : Path) (text : String)
  deriving DecidableEq, Repr

namespace FileCall

variable {ε σ : Type}

/-- The path that a call is about. -/
def path : FileCall → Path
  | ensureDir dir => dir
  | writeFile path _ => path

/-- Make a call on a sink. -/
def on {m : Type → Type} (sink : Sink ε m) : FileCall → m (Except ε Unit)
  | ensureDir dir => sink.ensureDir dir
  | writeFile path text => sink.writeFile path text

/-- Make some calls on a sink in order, whatever comes of each. -/
def all (sink : Sink ε (StateM σ)) (calls : List FileCall) : StateM σ (List (Except ε Unit)) :=
  calls.mapM (on sink)

theorem all_cons (sink : Sink ε (StateM σ)) (c : FileCall) (calls : List FileCall) (s : σ) :
    (all sink (c :: calls)).run s =
      (((c.on sink).run s).1 :: ((all sink calls).run ((c.on sink).run s).2).1,
        ((all sink calls).run ((c.on sink).run s).2).2) := by
  unfold all
  rw [List.mapM_cons, StateT.run_bind]
  rfl

end FileCall

namespace Memory

/-- A directory is on record at a place or below it. -/
def HasBelow (s : Memory) (place : List Path.Component) : Prop :=
  ∃ key dir, s.dirs.get? key = some dir ∧ place <+: key

variable {s : Memory} {p : Path} {place : List Path.Component}

theorem hasBelow_ensureDir :
    (s.ensureDir p).HasBelow place ↔ place <+: p.components ∨ s.HasBelow place := by
  constructor
  · rintro ⟨key, dir, hdir, hpre⟩
    rw [dirs_ensureDir] at hdir
    split at hdir
    · rename_i hkey
      rw [hkey]
      exact .inl hpre
    · exact .inr ⟨key, dir, hdir, hpre⟩
  · rintro (hpre | ⟨key, dir, hdir, hpre⟩)
    · refine ⟨p.components, (s.dirs.get? p.components).getD p, ?_, hpre⟩
      rw [dirs_ensureDir, if_pos rfl]
    · by_cases hkey : p.components = key
      · refine ⟨key, (s.dirs.get? key).getD p, ?_, hpre⟩
        rw [dirs_ensureDir, if_pos hkey]
      · refine ⟨key, dir, ?_, hpre⟩
        rw [dirs_ensureDir, if_neg hkey]
        exact hdir

end Memory

namespace Path.IsPlain

variable {p : Path} {names : List String}

theorem map_name_isPrefix_iff (h : p.IsPlain) :
    names.map Component.name <+: p.components ↔ names <+: p.segments := by
  rw [h.components]
  exact List.prefix_map_iff_of_injective fun _ _ heq => Component.name.inj heq

theorem eq_map_name_iff (h : p.IsPlain) :
    p.components = names.map Component.name ↔ names = p.segments := by
  rw [h.components, List.map_inj_right fun _ _ heq => Component.name.inj heq]
  exact eq_comm

end Path.IsPlain

namespace Disk

variable {d d' : Disk} {s : Memory} {names : List String} {p : Path} {text : String}

/-- The working directory is empty. -/
def IsEmpty (d : Disk) : Prop :=
  ∀ names, names ≠ [] → d.node? (d.home ++ names) = none

theorem isEmpty_of_no_nodes (h : d.nodes = ∅) : d.IsEmpty := by
  intro names hne
  unfold node?
  rw [h, if_neg]
  · rfl
  · intro habove
    obtain ⟨rest, hrest⟩ := List.isPrefixOf_iff_prefix.mp habove
    rw [List.append_assoc] at hrest
    have hnil := List.append_right_eq_self.mp hrest
    exact hne (List.append_eq_nil_iff.mp hnil).1

/-- What is below the working directory of a disk is what a memory holds. -/
structure Mirrors (d : Disk) (s : Memory) : Prop where
  rooted : d.Rooted
  file : ∀ names text, d.node? (d.home ++ names) = some (.file text) ↔
    (s.files.get? (names.map .name)).map Prod.snd = some text
  directory : ∀ names, d.node? (d.home ++ names) = some .directory ↔
    names = [] ∨ s.HasBelow (names.map .name)
  recorded : ∀ key dir, s.dirs.get? key = some dir → dir.IsPlain ∧ dir.components = key

theorem mirrors_empty (h : d.IsEmpty) : d.Mirrors {} := by
  have hnil : ∀ names, d.node? (d.home ++ names) ≠ none → names = [] := by
    intro names hthere
    by_contra hne
    exact hthere (h names hne)
  constructor
  · constructor
    · intro names hthere
      rw [hnil names hthere]
      exact reaches_nil
    · intro names hthere
      rw [hnil names hthere]
      exact nofun
  · intro names text
    constructor
    · intro hfile
      have hthere : d.node? (d.home ++ names) ≠ none := by
        rw [hfile]
        exact nofun
      rw [hnil names hthere, node?_home] at hfile
      cases hfile
    · intro hnone
      cases hnone
  · intro names
    constructor
    · intro hdir
      refine .inl (hnil names ?_)
      rw [hdir]
      exact nofun
    · rintro (rfl | ⟨key, dir, hnone, -⟩)
      · exact node?_home
      · cases hnone
  · intro key dir hnone
    cases hnone

theorem Mirrors.ensureDir (h : d.Mirrors s) (hp : p.IsPlain) (hok : d.ensureDir p = .ok d') :
    d'.Mirrors (s.ensureDir p) := by
  obtain ⟨hclean, hmakes⟩ := ensureDir_ok hp hok
  constructor
  · exact h.rooted.of_makes (clean_of_text hclean) hmakes
  · intro names text
    have hfiles : (s.ensureDir p).files = s.files := rfl
    rw [hmakes.home, hmakes.node?_below, hfiles, ← h.file]
    split
    · rename_i hpre
      constructor
      · intro hdir
        cases hdir
      · intro hfile
        refine absurd hfile (hmakes.free _ text ?_)
        exact (List.prefix_append_right_inj _).mpr hpre
    · rfl
  · intro names
    rw [hmakes.home, hmakes.node?_below, Memory.hasBelow_ensureDir, hp.map_name_isPrefix_iff]
    by_cases hpre : names <+: p.segments
    · simp [hpre]
    · rw [if_neg hpre, h.directory]
      simp [hpre]
  · intro key dir hdir
    rw [Memory.dirs_ensureDir] at hdir
    split at hdir
    · rename_i hkey
      cases hdir
      cases hold : s.dirs.get? key with
      | none => exact ⟨hp, hkey⟩
      | some old => exact h.recorded key old hold
    · exact h.recorded key dir hdir

theorem Mirrors.writeFile (h : d.Mirrors s) (hp : p.IsPlain)
    (hok : d.writeFile p text = .ok d') : d'.Mirrors (s.writeFile p text) := by
  obtain ⟨hclean, hreach, hnode, rfl⟩ := writeFile_ok hp hok
  constructor
  · exact h.rooted.put (clean_of_text hclean) hreach hnode
  · intro names written
    rw [home_put, node?_put_below hnode, Memory.files_writeFile]
    by_cases heq : names = p.segments
    · rw [if_pos heq, if_pos (hp.eq_map_name_iff.mpr heq), Option.map_some]
      simp
    · rw [if_neg heq, if_neg (mt hp.eq_map_name_iff.mp heq)]
      exact h.file names written
  · intro names
    have hdirs : (s.writeFile p text).dirs = s.dirs := rfl
    rw [home_put, node?_put_below hnode, Memory.HasBelow, hdirs, ← Memory.HasBelow, ← h.directory]
    by_cases heq : names = p.segments
    · rw [if_pos heq, heq]
      simp [hnode]
    · rw [if_neg heq]
  · exact h.recorded

/-- The directories on record, as they were written first. -/
theorem Mirrors.hasBelow_iff (h : d.Mirrors s) :
    s.HasBelow (names.map .name) ↔ ∃ dir ∈ s.dirPaths, names <+: dir.segments := by
  unfold Memory.HasBelow Memory.dirPaths
  constructor
  · rintro ⟨key, dir, hdir, hpre⟩
    obtain ⟨hplain, rfl⟩ := h.recorded key dir hdir
    refine ⟨dir, ?_, hplain.map_name_isPrefix_iff.mp hpre⟩
    exact List.mem_map_of_mem (OrderedMap.get?_eq_some_iff.mp hdir)
  · rintro ⟨dir, hmem, hpre⟩
    obtain ⟨⟨key, dir⟩, hentry, rfl⟩ := List.mem_map.mp hmem
    have hdir := OrderedMap.get?_eq_some_iff.mpr hentry
    obtain ⟨hplain, rfl⟩ := h.recorded key dir hdir
    exact ⟨dir.components, dir, hdir, hplain.map_name_isPrefix_iff.mpr hpre⟩

/-- Reading a file says the same on both sides. -/
theorem Mirrors.readText (h : d.Mirrors s) (hp : p.IsPlain) (hpath : d.refusesPath p = false) :
    (d.readText p).toOption = s.file? p := by
  refine Option.ext fun text => ?_
  have hfile := h.file p.segments text
  rw [← hp.components, ← readText_ok_iff h.rooted hp hpath] at hfile
  have hread : (d.readText p).toOption = some text ↔ d.readText p = .ok text := by
    cases d.readText p with
    | error e => simp [Except.toOption]
    | ok found => simp [Except.toOption]
  exact hread.trans hfile

/-- The same disk but for what is below the working directory. -/
structure SameAround (d d' : Disk) : Prop where
  home : d'.home = d.home
  limits : d'.limits = d.limits
  node? : ∀ place, ¬ d.home <+: place → d'.node? place = d.node? place

theorem SameAround.trans {d'' : Disk} (h : d.SameAround d') (h' : d'.SameAround d'') :
    d.SameAround d'' := by
  refine ⟨h'.home.trans h.home, h'.limits.trans h.limits, fun place hplace => ?_⟩
  rw [h'.node? place (h.home ▸ hplace), h.node? place hplace]

theorem Makes.sameAround (h : d.Makes names d') : d.SameAround d' := by
  refine ⟨h.home, h.limits, fun place hplace => ?_⟩
  rw [h.node?]
  split
  · rename_i hpre
    rcases List.prefix_or_prefix_of_prefix hpre (List.prefix_append d.home names) with hup | hdown
    · exact (node?_of_above_home hup).symm
    · exact absurd hdown hplace
  · rfl

theorem sameAround_put (node : Node) : d.SameAround (d.put (d.home ++ names) node) := by
  refine ⟨rfl, rfl, fun place hplace => ?_⟩
  have hne : place ≠ d.home ++ names := by
    rintro rfl
    exact hplace (List.prefix_append _ _)
  rw [node?_put, if_neg hne]
  split
  · rename_i hup
    exact (node?_of_above_home hup).symm
  · rfl

/-! ## Runs of calls -/

theorem change_of_ok {f : Disk → Except FileError Disk} (h : f d = .ok d') :
    (change f).run d = (.ok (), d') := by
  unfold change
  rw [StateT.run_modifyGet, h]
  rfl

theorem change_of_error {f : Disk → Except FileError Disk} {e : FileError} (h : f d = .error e) :
    (change f).run d = (.error e, d) := by
  unfold change
  rw [StateT.run_modifyGet, h]
  rfl

theorem eq_ok_of_change {f : Disk → Except FileError Disk} (h : ((change f).run d).1 = .ok ()) :
    f d = .ok ((change f).run d).2 := by
  cases hf : f d with
  | ok d' => rw [change_of_ok hf]
  | error e =>
    rw [change_of_error hf] at h
    cases h

variable {c : FileCall} {calls : List FileCall} {ε : Type}

theorem Mirrors.call (h : d.Mirrors s) (hc : c.path.IsPlain)
    (hok : ((c.on Disk.sink).run d).1 = .ok ()) :
    ((c.on Disk.sink).run d).2.Mirrors ((c.on (Memory.sink ε)).run s).2 := by
  cases c with
  | ensureDir dir => exact h.ensureDir hc (eq_ok_of_change hok)
  | writeFile path text => exact h.writeFile hc (eq_ok_of_change hok)

theorem sameAround_call (hc : c.path.IsPlain) (hok : ((c.on Disk.sink).run d).1 = .ok ()) :
    d.SameAround ((c.on Disk.sink).run d).2 := by
  cases c with
  | ensureDir dir => exact (ensureDir_ok hc (eq_ok_of_change hok)).2.sameAround
  | writeFile path text =>
    obtain ⟨-, -, -, hput⟩ := writeFile_ok hc (eq_ok_of_change hok)
    exact hput ▸ sameAround_put (.file text)

theorem Mirrors.all (h : d.Mirrors s) (hplain : ∀ c ∈ calls, c.path.IsPlain)
    (hok : ∀ r ∈ ((FileCall.all Disk.sink calls).run d).1, r = .ok ()) :
    ((FileCall.all Disk.sink calls).run d).2.Mirrors
        ((FileCall.all (Memory.sink ε) calls).run s).2 ∧
      d.SameAround ((FileCall.all Disk.sink calls).run d).2 := by
  induction calls generalizing d s with
  | nil => exact ⟨h, rfl, rfl, fun _ _ => rfl⟩
  | cons c calls ih =>
    rw [FileCall.all_cons] at hok ⊢
    rw [FileCall.all_cons]
    rw [List.forall_mem_cons] at hplain hok
    have hfirst := h.call (ε := ε) hplain.1 hok.1
    obtain ⟨hrest, haround⟩ := ih hfirst hplain.2 hok.2
    exact ⟨hrest, (sameAround_call hplain.1 hok.1).trans haround⟩

/-- Calls on plain paths, none of which a disk refuses that was empty at first: memory holds the
same files, the directories are those on record with the ones above them, and around the working
directory nothing changes. Only where a path itself is too long for the disk, the file there cannot
be read by it. -/
theorem memory_stands_for_disk (hempty : d.IsEmpty) (hplain : ∀ c ∈ calls, c.path.IsPlain)
    (hok : ∀ r ∈ ((FileCall.all Disk.sink calls).run d).1, r = .ok ()) :
    let d' := ((FileCall.all Disk.sink calls).run d).2
    let s := ((FileCall.all (Memory.sink ε) calls).run {}).2
    (∀ p : Path, p.IsPlain → d.refusesPath p = false → (d'.readText p).toOption = s.file? p) ∧
      (∀ names, d'.node? (d.home ++ names) = some .directory ↔
        names = [] ∨ ∃ dir ∈ s.dirPaths, names <+: dir.segments) ∧
      ∀ place, ¬ d.home <+: place → d'.node? place = d.node? place := by
  intro d' s
  obtain ⟨hmirrors, haround⟩ : d'.Mirrors s ∧ d.SameAround d' :=
    (mirrors_empty hempty).all hplain hok
  refine ⟨fun p hp hpath => hmirrors.readText hp ?_, fun names => ?_, haround.node?⟩
  · rw [refusesPath_congr haround.limits]
    exact hpath
  · rw [← haround.home, hmirrors.directory, hmirrors.hasBelow_iff]

/-- A directory is made with the one above it, and a file in it is written twice, first by another
spelling of its path. -/
theorem memory_stands_for_disk_of_orders :
    let d : Disk := { limits := none }
    let calls : List FileCall :=
      [.ensureDir ⟨"schema/client"⟩, .writeFile ⟨"schema//client/Orders.ts"⟩ "first",
        .writeFile ⟨"schema/client/Orders.ts"⟩ "second"]
    let d' := ((FileCall.all Disk.sink calls).run d).2
    d.IsEmpty ∧ (∀ c ∈ calls, c.path.IsPlain) ∧
      (∀ r ∈ ((FileCall.all Disk.sink calls).run d).1, r = .ok ()) ∧
      (d'.readText ⟨"schema/client/Orders.ts"⟩).toOption = some "second" ∧
      d'.node? (d.home ++ ["schema"]) = some .directory := by
  intro d calls d'
  have hempty : d.IsEmpty := isEmpty_of_no_nodes rfl
  have hplain : ∀ c ∈ calls, c.path.IsPlain := by decide
  let made := (d.put ["home", "project", "schema"] .directory).put
    ["home", "project", "schema", "client"] .directory
  let written := made.put ["home", "project", "schema", "client", "Orders.ts"] (.file "first")
  let rewritten := written.put ["home", "project", "schema", "client", "Orders.ts"] (.file "second")
  have hdir : d.ensureDir ⟨"schema/client"⟩ = .ok made := by
    unfold ensureDir
    rw [checkText_eq_ok (by simp) rfl]
    rfl
  have hfirst : made.writeFile ⟨"schema//client/Orders.ts"⟩ "first" = .ok written := by
    unfold writeFile
    rw [checkText_eq_ok (by simp) rfl]
    rfl
  have hsecond : written.writeFile ⟨"schema/client/Orders.ts"⟩ "second" = .ok rewritten := by
    unfold writeFile
    rw [checkText_eq_ok (by simp) rfl]
    rfl
  have hrun : (FileCall.all Disk.sink calls).run d = ([.ok (), .ok (), .ok ()], rewritten) := by
    have hdir := change_of_ok (f := (·.ensureDir _)) hdir
    have hfirst := change_of_ok (f := (·.writeFile _ _)) hfirst
    have hsecond := change_of_ok (f := (·.writeFile _ _)) hsecond
    simp only [calls, FileCall.all_cons, FileCall.on, Disk.sink, hdir, hfirst, hsecond]
    rfl
  have hok : ∀ r ∈ ((FileCall.all Disk.sink calls).run d).1, r = .ok () := by
    rw [hrun]
    decide
  obtain ⟨hread, hdirs, -⟩ := memory_stands_for_disk (ε := FileError) hempty hplain hok
  refine ⟨hempty, hplain, hok, ?_, (hdirs _).mpr ?_⟩
  · rw [hread _ (by decide) rfl]
    decide
  · decide

end Disk

end TypedLayouts
