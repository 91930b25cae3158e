import TypedLayouts.Proofs.Module.Openings
import TypedLayouts.Proofs.Run.Program

/-!
# Runs that fail

A run ends at its first failure, with the error of that failure, and up to there it is the run that
would not have failed: the calls of a failing run are the first calls of the run whose sink never
fails, and of every run whose earlier answers are the same. The index comes last of all, so a run
that fails at another call has not written it.
-/

namespace TypedLayouts

open Layout (FetchError)
open TypedLayouts.Module (NameSet indexModule)

variable {ε φ : Type}

/-- A world with the same source and a sink that never fails. -/
def World.unfailing (w : World ε φ) : World ε φ :=
  { w with ensureDir := fun _ _ => .ok (), writeFile := fun _ _ _ => .ok () }

/-- A world answers like another one, unless that fails. -/
def World.Mends (w' w : World ε φ) : Prop :=
  ∀ t c, (w.answer t c).failure = none → w'.answer t c = w.answer t c

/-- Events without a failure would happen in a world that mends failures, too. -/
theorem World.Mends.answers {w w' : World ε φ} (hm : w'.Mends w) {t s : Trace ε φ}
    (h : w.Answers t s) (hs : ∀ e ∈ s, e.failure = none) : w'.Answers t s := by
  induction s generalizing t with
  | nil => trivial
  | cons e s ih =>
    refine ⟨?_, ih h.2 fun d hd => hs d (List.mem_cons_of_mem e hd)⟩
    have he := hs e List.mem_cons_self
    rw [h.1] at he
    rw [hm t e.call he]
    exact h.1

/-- A sink that never fails answers like one that may fail, unless that fails. -/
theorem World.unfailing_mends (w : World ε φ) : w.unfailing.Mends w := by
  intro t c h
  cases c with
  | fetch layout => rfl
  | ensureDir dir =>
    have he : w.answer t (.ensureDir dir) = .ensured dir (w.ensureDir t dir) := rfl
    rw [he] at h ⊢
    cases hw : w.ensureDir t dir with
    | ok a => rfl
    | error cause =>
      rw [hw] at h
      cases h
  | writeFile path text =>
    have he : w.answer t (.writeFile path text) = .wrote path text (w.writeFile t path text) := rfl
    rw [he] at h ⊢
    cases hw : w.writeFile t path text with
    | ok a => rfl
    | error cause =>
      rw [hw] at h
      cases h

namespace Run

variable (run : Run) {w w' : World ε φ}

/-- A run takes its course from the empty trace on. -/
theorem traceIn_course (w : World ε φ) :
    Course (fun _ => True) w [] (run.traceIn w) (run.resultIn w) := by
  obtain ⟨r, s, hrun, hcourse⟩ := run.execute_program.course w []
  have hresult : run.resultIn w = r := congrArg Prod.fst hrun
  have htrace : run.traceIn w = s := congrArg Prod.snd hrun
  rw [hresult, htrace]
  exact hcourse

/-- Where nothing fails, a run has a result. -/
theorem exists_report (h : ∀ t c, (w.answer t c).failure = none) :
    ∃ report, run.resultIn w = .ok report := by
  have hcourse := run.traceIn_course w
  cases hr : run.resultIn w with
  | ok report => exact ⟨report, rfl⟩
  | error problem =>
    have hends := hcourse.ends
    rw [hr] at hends
    obtain ⟨before, last, htrace, -, hlast⟩ := hends
    have hanswers := hcourse.answers
    rw [htrace] at hanswers
    rw [hanswers.at_event, h] at hlast
    cases hlast

/-- In two worlds a run is the same, or its events part at a call that is answered differently. -/
theorem traceIn_same_or_part (w w' : World ε φ) :
    run.traceIn w = run.traceIn w' ∨ (run.traceIn w).Part (run.traceIn w') := by
  obtain ⟨r, r', s, s', hrun, hrun', hcases⟩ := run.execute_program.same_or_part w w' []
  have htrace : run.traceIn w = s := congrArg Prod.snd hrun
  have htrace' : run.traceIn w' = s' := congrArg Prod.snd hrun'
  rw [htrace, htrace']
  exact hcases.imp_left And.right

/-- A failure is the last event of a run, and its error is that of the run. -/
theorem ends_at_failure {k : Nat} {e : Event ε φ} {problem : RunError ε φ}
    (he : (run.traceIn w)[k]? = some e) (hf : e.failure = some problem) :
    run.resultIn w = .error problem ∧ run.traceIn w = (run.traceIn w).take k ++ [e] := by
  have hends := (run.traceIn_course w).ends
  cases hr : run.resultIn w with
  | ok report =>
    rw [hr] at hends
    rw [hends e (List.mem_of_getElem? he)] at hf
    cases hf
  | error found =>
    rw [hr] at hends
    obtain ⟨before, last, htrace, hbefore, hlast⟩ := hends
    rw [htrace] at he ⊢
    have hk : k = before.length := by
      have hbound := (List.getElem?_eq_some_iff.mp he).1
      rw [List.length_append, List.length_singleton] at hbound
      rcases Nat.lt_or_ge k before.length with hlt | hge
      · rw [List.getElem?_append_left hlt] at he
        rw [hbefore e (List.mem_of_getElem? he)] at hf
        cases hf
      · omega
    subst hk
    rw [List.getElem?_concat_length] at he
    cases he
    rw [hlast] at hf
    cases hf
    rw [List.take_left]
    exact ⟨rfl, rfl⟩

/-- The calls of a run up to an event are made in every world that answers the events in front of it
alike. -/
theorem calls_prefix_of_answers {before : Trace ε φ} {e : Event ε φ}
    (h : run.traceIn w = before ++ [e]) (h' : w'.Answers [] before) :
    (run.traceIn w).calls <+: (run.traceIn w').calls := by
  rcases run.traceIn_same_or_part w w' with
    hsame | ⟨common, d, d', rest, rest', hd, hd', hcall, hne⟩
  · exact ⟨[], (List.append_nil _).trans (congrArg Trace.calls hsame)⟩
  · rcases List.eq_nil_or_concat rest with rfl | ⟨rest, last, rfl⟩
    · rw [hd, hd']
      unfold Trace.calls
      rw [List.map_append, List.map_append, List.map_cons, List.map_cons, hcall]
      exact ⟨rest'.map Event.call, by simp⟩
    · -- The events part in front of the last one, where both are answers of the second world.
      exfalso
      have hbefore : before = common ++ d :: rest := by
        rw [h] at hd
        have hconcat : common ++ d :: rest.concat last = common ++ d :: rest ++ [last] := by simp
        rw [hconcat] at hd
        exact (List.append_inj' hd rfl).1
      rw [hbefore] at h'
      have hanswers := (run.traceIn_course w').answers
      rw [hd'] at hanswers
      have he := h'.at_event
      have he' := hanswers.at_event
      rw [hcall] at he
      exact hne (he.trans he'.symm)

/-- The calls of a run open those of the run in every world that mends failures. -/
theorem calls_prefix_of_mends (hm : w'.Mends w) :
    (run.traceIn w).calls <+: (run.traceIn w').calls := by
  have hcourse := run.traceIn_course w
  rcases List.eq_nil_or_concat (run.traceIn w) with hnil | ⟨before, e, hconcat⟩
  · rw [hnil]
    exact List.nil_prefix
  · rw [List.concat_eq_append] at hconcat
    have hbefore : ∀ d ∈ before, d.failure = none := by
      have hends := hcourse.ends
      rw [hconcat] at hends
      cases hr : run.resultIn w with
      | ok report =>
        rw [hr] at hends
        exact fun d hd => hends d (List.mem_append_left _ hd)
      | error problem =>
        rw [hr] at hends
        obtain ⟨before', last, htrace, hfree, -⟩ := hends
        rw [(List.append_inj' htrace rfl).1]
        exact hfree
    have hanswers := hcourse.answers
    rw [hconcat] at hanswers
    exact run.calls_prefix_of_answers hconcat (hm.answers hanswers.left hbefore)

/-- The index is the last call of a run. -/
theorem index_is_last {i : Nat} {names : NameSet} {answer : Except φ Unit}
    (h : (run.traceIn w)[i]? =
      some (.wrote run.indexPath (indexModule names).renderFile answer)) :
    (run.traceIn w).length = i + 1 := by
  -- No call but that of `writeIndex` has the text of an index.
  have hcalls : run.Calls fun c =>
      ∀ names, c ≠ .writeFile run.indexPath (indexModule names).renderFile := by
    refine ⟨fun _ _ hc => ?_, fun _ hc => ?_, fun _ hc => ?_, fun b names hc => ?_,
      fun b names hc => ?_⟩
    · cases hc
    · cases hc
    · cases hc
    · exact b.schemaModule_ne_index names (Call.writeFile.inj hc).2
    · exact b.clientModule_ne_index names (Call.writeFile.inj hc).2
  obtain ⟨r, s, hbody, hcourse⟩ := hcalls.body.course w []
  have hfree : ∀ i : Nat,
      s[i]? ≠ some (.wrote run.indexPath (indexModule names).renderFile answer) :=
    fun i hi => hcourse.calls _ (List.mem_of_getElem? hi) names rfl
  rw [run.traceIn_eq, hbody] at h ⊢
  cases r with
  | error problem => exact absurd h (hfree i)
  | ok p =>
    cases hp : p.hasNoClients with
    | true =>
      simp only [hp, if_true, List.nil_append] at h
      exact absurd h (hfree i)
    | false =>
      simp only [hp, List.nil_append, Bool.false_eq_true, if_false] at h ⊢
      have hbound := (List.getElem?_eq_some_iff.mp h).1
      rw [List.length_append, List.length_singleton] at hbound ⊢
      rcases Nat.lt_or_ge i s.length with hlt | hge
      · rw [List.getElem?_append_left hlt] at h
        exact absurd h (hfree i)
      · omega

/-- A failing run. If the event at `k` is a sink call that fails, the run ends there with its path,
and its calls are the first calls of the run with the same source and a sink that never fails. If it
is a fetch that fails for another reason than a missing layout, the run ends there with that error,
and its calls open those of every run with the same answers before. Either way the index is not
written, unless it is the failing call. -/
theorem failing_run (w : World ε φ) {k : Nat} {e : Event ε φ} (he : (run.traceIn w)[k]? = some e) :
    (∀ path cause,
        (e = .ensured path (.error cause) ∨ ∃ text, e = .wrote path text (.error cause)) →
      run.resultIn w = .error (.write path cause) ∧ (run.traceIn w).length = k + 1 ∧
        (run.traceIn w).calls = (run.traceIn w.unfailing).calls.take (k + 1)) ∧
      (∀ layout failing cause, e = .fetched layout (.error (.failed failing cause)) →
        run.resultIn w = .error (.fetch (.failed failing cause)) ∧
          (run.traceIn w).length = k + 1 ∧
          ∀ w' : World ε φ, w'.Answers [] ((run.traceIn w).take k) →
            (run.traceIn w).calls <+: (run.traceIn w').calls) ∧
      (e.failure ≠ none → ∀ i names answer, (run.traceIn w)[i]? =
          some (.wrote run.indexPath (indexModule names).renderFile answer) →
        i = k ∧ ∃ cause, answer = .error cause) := by
  have hlength : ∀ problem, e.failure = some problem → (run.traceIn w).length = k + 1 := by
    intro problem hf
    have hbound := (List.getElem?_eq_some_iff.mp he).1
    rw [(run.ends_at_failure he hf).2, List.length_append, List.length_take_of_le (by omega)]
    rfl
  refine ⟨?sink, ?source, ?index⟩
  case sink =>
    intro path cause hsink
    have hf : e.failure = some (.write path cause) := by
      rcases hsink with rfl | ⟨text, rfl⟩
      · rfl
      · rfl
    refine ⟨(run.ends_at_failure he hf).1, hlength _ hf, ?_⟩
    rw [List.prefix_iff_eq_take.mp (run.calls_prefix_of_mends w.unfailing_mends)]
    congr 1
    unfold Trace.calls
    rw [List.length_map, hlength _ hf]
  case source =>
    rintro layout failing cause rfl
    have hf : (Event.fetched layout (.error (.failed failing cause)) : Event ε φ).failure =
        some (.fetch (.failed failing cause)) := rfl
    obtain ⟨hresult, htrace⟩ := run.ends_at_failure he hf
    exact ⟨hresult, hlength _ hf, fun w' h' => run.calls_prefix_of_answers htrace h'⟩
  case index =>
    intro hne i names answer hi
    obtain ⟨problem, hf⟩ := Option.ne_none_iff_exists'.mp hne
    have hik : i = k := by
      have hlast := run.index_is_last hi
      have hend := hlength problem hf
      omega
    subst hik
    rw [he] at hi
    cases hi
    refine ⟨rfl, ?_⟩
    cases answer with
    | ok a => cases hf
    | error cause => exact ⟨cause, rfl⟩

/-- Two layouts with clients. -/
def twoLayouts : Run where
  config :=
    { schemas :=
        [{ layout := "API_Orders", name := "Orders" }, { layout := "API_Items", name := "Items" }] }
  envNames := {}

/-- A world in which every layout is found and everything can be made but one directory. -/
def withoutDirectory (dir : Path) : World Unit Unit where
  fetch _ _ := .ok {}
  ensureDir _ path := if path = dir then .error () else .ok ()
  writeFile _ _ _ := .ok ()

/-- A run that fails when it is to make the directory of clients. -/
theorem failing_run_without_directory :
    (twoLayouts.traceIn (withoutDirectory ⟨"schema/client"⟩))[3]? =
        some (.ensured ⟨"schema/client"⟩ (.error ())) ∧
      twoLayouts.resultIn (withoutDirectory ⟨"schema/client"⟩) =
        .error (.write ⟨"schema/client"⟩ ()) ∧
      (twoLayouts.traceIn (withoutDirectory ⟨"schema/client"⟩)).length = 4 ∧
      (twoLayouts.traceIn (withoutDirectory ⟨"schema/client"⟩)).calls =
        (twoLayouts.traceIn (withoutDirectory ⟨"schema/client"⟩).unfailing).calls.take 4 := by
  have he : (twoLayouts.traceIn (withoutDirectory ⟨"schema/client"⟩))[3]? =
      some (.ensured ⟨"schema/client"⟩ (.error ())) := by rfl
  exact ⟨he, (failing_run twoLayouts _ he).1 _ _ (.inl rfl)⟩

end Run

end TypedLayouts
