import TypedLayouts.Proofs.OrderedMaps
import TypedLayouts.Proofs.Run.ClientSettings

/-!
# Running again

Where the source always says the same about a layout, a run in memory makes calls that do not depend
on what is there already. At each path the last of the calls counts, so the same calls once more
change nothing: a second run leaves the memory as the first one left it, and comes to the same
result.
-/

namespace TypedLayouts

open Layout (FetchError Metadata)
open TypedLayouts.Module (Blueprint)
open TypeScript (Document)

variable {ε φ α β : Type}

namespace Memory

/-! ## Calls on memory -/

/-- Memory behind a call. -/
def obey (s : Memory) : Call → Memory
  | .fetch _ => s
  | .ensureDir dir => s.ensureDir dir
  | .writeFile path text => s.writeFile path text

/-- Memory behind some calls. -/
def replay (s : Memory) (calls : List Call) : Memory :=
  calls.foldl obey s

/-- The directory that is on record at a place, behind a call. -/
def dirBehind (key : List Path.Component) (found : Option Path) : Call → Option Path
  | .ensureDir dir => if dir.components = key then some (found.getD dir) else found
  | _ => found

/-- The file that is on record at a place, behind a call. -/
def fileBehind (key : List Path.Component) (found : Option (Path × String)) :
    Call → Option (Path × String)
  | .writeFile path text =>
    if path.components = key then some ((found.map Prod.fst).getD path, text) else found
  | _ => found

variable (s : Memory) (calls : List Call) (key : List Path.Component)

theorem dirs_replay :
    (s.replay calls).dirs.get? key = calls.foldl (dirBehind key) (s.dirs.get? key) := by
  induction calls generalizing s with
  | nil => rfl
  | cons c calls ih =>
    have hstep : (s.obey c).dirs.get? key = dirBehind key (s.dirs.get? key) c := by
      cases c with
      | ensureDir dir => exact dirs_ensureDir s dir key
      | _ => rfl
    rw [List.foldl_cons, ← hstep]
    exact ih (s.obey c)

theorem files_replay :
    (s.replay calls).files.get? key = calls.foldl (fileBehind key) (s.files.get? key) := by
  induction calls generalizing s with
  | nil => rfl
  | cons c calls ih =>
    have hstep : (s.obey c).files.get? key = fileBehind key (s.files.get? key) c := by
      cases c with
      | writeFile path text => exact files_writeFile s path text key
      | _ => rfl
    rw [List.foldl_cons, ← hstep]
    exact ih (s.obey c)

/-- At one place, calls leave the directory alone, or they put one there unless there is one. -/
theorem foldl_dirBehind :
    (∀ found, calls.foldl (dirBehind key) found = found) ∨
      ∃ dir, ∀ found, calls.foldl (dirBehind key) found = some (found.getD dir) := by
  induction calls with
  | nil => exact .inl fun _ => rfl
  | cons c calls ih =>
    simp only [List.foldl_cons]
    by_cases hc : ∀ found, dirBehind key found c = found
    · simp only [hc]
      exact ih
    · obtain ⟨dir, hdir⟩ : ∃ dir, ∀ found, dirBehind key found c = some (found.getD dir) := by
        cases c with
        | ensureDir dir =>
          by_cases hkey : dir.components = key
          · exact ⟨dir, fun found => if_pos hkey⟩
          · exact absurd (fun found => if_neg hkey) hc
        | _ => exact absurd (fun found => rfl) hc
      simp only [hdir]
      rcases ih with ih | ⟨later, ih⟩
      · exact .inr ⟨dir, fun found => ih _⟩
      · exact .inr ⟨dir, fun found => ih _⟩

/-- At one place, calls leave the file alone, or they give it one text, and a path unless it has
one. -/
theorem foldl_fileBehind :
    (∀ found, calls.foldl (fileBehind key) found = found) ∨
      ∃ path text, ∀ found,
        calls.foldl (fileBehind key) found = some ((found.map Prod.fst).getD path, text) := by
  induction calls with
  | nil => exact .inl fun _ => rfl
  | cons c calls ih =>
    simp only [List.foldl_cons]
    by_cases hc : ∀ found, fileBehind key found c = found
    · simp only [hc]
      exact ih
    · -- The first call here decides about the path, and the last one about the text.
      obtain ⟨path, text, hfile⟩ : ∃ path text, ∀ found,
          fileBehind key found c = some ((found.map Prod.fst).getD path, text) := by
        cases c with
        | writeFile path text =>
          by_cases hkey : path.components = key
          · exact ⟨path, text, fun found => if_pos hkey⟩
          · exact absurd (fun found => if_neg hkey) hc
        | _ => exact absurd (fun found => rfl) hc
      simp only [hfile]
      rcases ih with ih | ⟨later, last, ih⟩
      · exact .inr ⟨path, text, fun found => ih _⟩
      · exact .inr ⟨path, last, fun found => ih _⟩

/-- The same calls once more change nothing. -/
theorem replay_replay : (s.replay calls).replay calls = s.replay calls := by
  have hdirs : ((s.replay calls).replay calls).dirs = (s.replay calls).dirs := by
    refine OrderedMap.ext_get? fun key => ?_
    rw [dirs_replay, dirs_replay]
    rcases foldl_dirBehind calls key with h | ⟨dir, h⟩
    · rw [h, h]
    · rw [h, h]
      rfl
  have hfiles : ((s.replay calls).replay calls).files = (s.replay calls).files := by
    refine OrderedMap.ext_get? fun key => ?_
    rw [files_replay, files_replay]
    rcases foldl_fileBehind calls key with h | ⟨path, text, h⟩
    · rw [h, h]
    · rw [h, h]
      rfl
  cases h : (s.replay calls).replay calls
  cases h' : s.replay calls
  rw [h, h'] at hdirs hfiles
  cases hdirs
  cases hfiles
  rfl

/-- Files that no call writes are as they were. -/
theorem file?_replay {p : Path} (h : ∀ path text, .writeFile path text ∈ calls → ¬ path.Same p) :
    (s.replay calls).file? p = s.file? p := by
  induction calls generalizing s with
  | nil => rfl
  | cons c calls ih =>
    have hfirst : (s.obey c).file? p = s.file? p := by
      cases c with
      | writeFile path text =>
        exact file?_writeFile_of_not_same text (h path text List.mem_cons_self)
      | _ => rfl
    have hrest := ih (s.obey c) fun path text hmem => h path text (List.mem_cons_of_mem c hmem)
    exact hrest.trans hfirst

end Memory

/-! ## Runs in memory -/

/-- A source that always says the same about a layout. -/
def Source.saying (answer : String → Except (FetchError ε) Metadata) :
    Source ε (StateM Memory) where
  fetch layout := pure (answer layout)

/-- What comes of a run in memory, and the memory then. -/
def Run.inMemory (run : Run) (answer : String → Except (FetchError ε) Metadata) (s : Memory) :
    Except (RunError ε φ) Report × Memory :=
  (run.execute (Source.saying answer) (Memory.sink φ)).run.run s

/-- A part of a run in memory does what it does in a world, and the memory is the one behind these
calls. -/
def Memory.Follows (x : ExceptT (RunError ε φ) (StateM Memory) α) (y : Action ε φ α) : Prop :=
  ∀ s t, ∃ r more, y.after t = (r, t ++ more) ∧ x.run.run s = (r, s.replay more.calls)

namespace Memory.Follows

theorem pure (a : α) :
    Follows (Pure.pure a : ExceptT (RunError ε φ) (StateM Memory) α) (Pure.pure a) :=
  fun s t => ⟨.ok a, [], by rw [Action.after_pure, List.append_nil], rfl⟩

theorem bind {x : ExceptT (RunError ε φ) (StateM Memory) α} {y : Action ε φ α}
    {f : α → ExceptT (RunError ε φ) (StateM Memory) β} {g : α → Action ε φ β}
    (h : Follows x y) (hf : ∀ a, Follows (f a) (g a)) : Follows (x >>= f) (y >>= g) := by
  intro s t
  obtain ⟨r, more, hy, hx⟩ := h s t
  have hrun : (x >>= f).run.run s =
      match x.run.run s with
      | (.ok a, s') => (f a).run.run s'
      | (.error problem, s') => (.error problem, s') := by
    rw [ExceptT.run_bind, StateT.run_bind]
    rcases x.run.run s with ⟨_ | _, s'⟩
    · rfl
    · rfl
  rw [Action.after_bind, hrun, hy, hx]
  cases r with
  | error problem => exact ⟨.error problem, more, rfl, rfl⟩
  | ok a =>
    obtain ⟨r, rest, hg, hf⟩ := hf a (s.replay more.calls) (t ++ more)
    refine ⟨r, more ++ rest, ?_, ?_⟩
    · rw [← List.append_assoc]
      exact hg
    · unfold Trace.calls replay at *
      rw [List.map_append, List.foldl_append]
      exact hf

theorem throw (problem : RunError ε φ) :
    Follows (MonadExcept.throw problem : ExceptT (RunError ε φ) (StateM Memory) α)
      (MonadExcept.throw problem) :=
  fun s t => ⟨.error problem, [], by rw [List.append_nil]; rfl, rfl⟩

variable (run : Run) (answer : String → Except (FetchError ε) Metadata)

theorem fetch (layout : String) :
    Follows (liftM ((Source.saying answer).fetch layout) :
        ExceptT (RunError ε φ) (StateM Memory) (Except (FetchError ε) Metadata))
      (liftM ((World.ofSource fun _ => answer : World ε φ).source.fetch layout)) :=
  fun _ _ => ⟨.ok (answer layout), [.fetched layout (answer layout)], rfl, rfl⟩

theorem ensureDir (dir : Path) :
    Follows (Run.ensureDir (ε := ε) (Memory.sink φ) dir)
      (Run.ensureDir (World.ofSource fun _ => answer : World ε φ).sink dir) :=
  fun _ _ => ⟨.ok (), [.ensured dir (.ok ())], rfl, rfl⟩

theorem writeModule (path : Path) (doc : Document) (p : Progress) :
    Follows (Run.writeModule (ε := ε) (Memory.sink φ) path doc p)
      (Run.writeModule (World.ofSource fun _ => answer : World ε φ).sink path doc p) :=
  fun _ _ => ⟨.ok (p.wrote path), [.wrote path doc.renderFile (.ok ())], rfl, rfl⟩

theorem writeClient (b : Blueprint) (p : Progress) :
    Follows (run.writeClient (ε := ε) (Memory.sink φ) b p)
      (run.writeClient (World.ofSource fun _ => answer : World ε φ).sink b p) := by
  have hmodule := fun p => (writeModule answer (run.clientPath b.name) b.clientModule p).bind
    fun p : Progress => Follows.pure (ε := ε) (φ := φ) (p.addClient b.name)
  unfold Run.writeClient
  by_cases hp : p.hasNoClients = true
  · rw [if_pos hp, if_pos hp]
    exact (ensureDir answer run.clientDir).bind fun _ => hmodule p
  · rw [if_neg hp, if_neg hp]
    exact hmodule p

theorem generateSchema (schema : SchemaConfig) (p : Progress) :
    Follows (run.generateSchema (Source.saying answer) (Memory.sink φ) schema p)
      (run.generateSchema (World.ofSource fun _ => answer : World ε φ).source
        (World.ofSource fun _ => answer : World ε φ).sink schema p) := by
  unfold Run.generateSchema
  refine (fetch answer schema.layout).bind fun found => ?_
  rcases found with (missing | ⟨failing, cause⟩) | metadata
  · exact .pure _
  · exact .throw _
  · refine (writeModule answer _ _ p).bind fun p => ?_
    by_cases hc : (run.config.view schema).generateClient = true
    · rw [if_pos hc, if_pos hc]
      exact writeClient run answer _ p
    · rw [if_neg hc, if_neg hc]
      exact .pure p

theorem generateSchemas (schemas : List SchemaConfig) (p : Progress) :
    Follows (run.generateSchemas (Source.saying answer) (Memory.sink φ) schemas p)
      (run.generateSchemas (World.ofSource fun _ => answer : World ε φ).source
        (World.ofSource fun _ => answer : World ε φ).sink schemas p) := by
  induction schemas generalizing p with
  | nil => exact .pure p
  | cons schema rest ih => exact (generateSchema run answer schema p).bind ih

theorem execute :
    Follows (run.execute (Source.saying answer) (Memory.sink φ))
      (run.execute (World.ofSource fun _ => answer : World ε φ).source
        (World.ofSource fun _ => answer : World ε φ).sink) := by
  unfold Run.execute
  refine (ensureDir answer run.root).bind fun _ => ?_
  refine (generateSchemas run answer run.config.schemas {}).bind fun p => ?_
  refine bind ?_ fun p => .pure p.report
  unfold Run.writeIndex
  by_cases hp : p.hasNoClients = true
  · rw [if_pos hp, if_pos hp]
    exact .pure p
  · rw [if_neg hp, if_neg hp]
    exact writeModule answer _ _ p

end Memory.Follows

namespace Run

variable (run : Run) (answer : String → Except (FetchError ε) Metadata) (s : Memory)

/-- A run in memory makes the calls of the run in a world, whatever is there already. -/
theorem inMemory_eq :
    run.inMemory answer s =
      (run.resultIn (World.ofSource fun _ => answer : World ε φ),
        s.replay (run.traceIn (World.ofSource fun _ => answer : World ε φ)).calls) := by
  obtain ⟨r, more, hrun, hmemory⟩ := Memory.Follows.execute run answer s ([] : Trace ε φ)
  have hresult : run.resultIn (World.ofSource fun _ => answer : World ε φ) = r :=
    congrArg Prod.fst hrun
  have htrace : run.traceIn (World.ofSource fun _ => answer : World ε φ) = more :=
    congrArg Prod.snd hrun
  rw [hresult, htrace]
  exact hmemory

/-- Running again in the memory that a run left comes to the same result, and leaves the memory as
it is. Files that a run does not write are as they were before it. -/
theorem regenerates :
    run.inMemory (φ := φ) answer (run.inMemory (φ := φ) answer s).2 = run.inMemory answer s ∧
      ∀ p, (∀ path ∈ (run.traceIn (World.ofSource fun _ => answer : World ε φ)).paths,
          ¬ path.Same p) →
        (run.inMemory (φ := φ) answer s).2.file? p = s.file? p := by
  refine ⟨?_, fun p hp => ?_⟩
  · rw [inMemory_eq, inMemory_eq, Memory.replay_replay]
  · rw [inMemory_eq]
    refine s.file?_replay _ fun path text hcall => hp path ?_
    rw [paths_eq_filterMap_calls]
    exact List.mem_filterMap.mpr ⟨_, hcall, rfl⟩

/-- What a source says that knows all layouts but one. -/
def allBut (gone layout : String) : Except (FetchError Unit) Metadata :=
  if layout = gone then .error (.notFound layout) else .ok {}

/-- Three layouts, one of which is gone, where earlier runs left the modules of that one and of one
that is still there. -/
theorem regenerates_three_layouts :
    let left := (({} : Memory).writeFile ⟨"schema/Old.ts"⟩ "old").writeFile
      ⟨"schema//Orders.ts"⟩ "old"
    (∀ path ∈ (threeLayouts.traceIn
          (World.ofSource fun _ => allBut "API_Old" : World Unit Unit)).paths,
        ¬ path.Same ⟨"schema/Old.ts"⟩) ∧
      threeLayouts.inMemory (φ := Unit) (allBut "API_Old")
          (threeLayouts.inMemory (φ := Unit) (allBut "API_Old") left).2 =
        threeLayouts.inMemory (allBut "API_Old") left ∧
      (threeLayouts.inMemory (φ := Unit) (allBut "API_Old") left).2.file? ⟨"schema/Old.ts"⟩ =
        some "old" := by
  intro left
  have hpaths : (threeLayouts.traceIn
      (World.ofSource fun _ => allBut "API_Old" : World Unit Unit)).paths =
        [⟨"schema/Orders.ts"⟩, ⟨"schema/client/Orders.ts"⟩, ⟨"schema/Items.ts"⟩,
          ⟨"schema/client/index.ts"⟩] := by rfl
  have hapart : ∀ path ∈ (threeLayouts.traceIn
      (World.ofSource fun _ => allBut "API_Old" : World Unit Unit)).paths,
        ¬ path.Same ⟨"schema/Old.ts"⟩ := by
    rw [hpaths]
    decide
  have h := regenerates (φ := Unit) threeLayouts (allBut "API_Old") left
  have hleft : left.file? ⟨"schema/Old.ts"⟩ = some "old" := by rfl
  exact ⟨hapart, h.1, (h.2 _ hapart).trans hleft⟩

end Run

end TypedLayouts
