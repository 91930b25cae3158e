import TypedLayouts.Proofs.Run.Trace

/-!
# Runs as programs

Whatever a run does, it does by calls, one after the other, and what it asks next depends on the
answers alone. `Program` says so of a part of a run, and keeps a condition on the calls that the
part may make. Three facts hold of every program, and each is proved once, by induction on how the
program is put together:

* the events are its calls with the world's answers, and every call meets the condition;
* a failure is the last event, and it is the error that the program ends with;
* in two worlds the events are the same up to the first call that is answered differently.
-/

namespace TypedLayouts

open Layout (FetchError Metadata)
open TypedLayouts.Module (Blueprint)
open TypeScript (Document)

variable {ε φ α β : Type}

/-- What comes from pure values, fetches, directories and modules by chaining, where every call
meets a condition. -/
inductive Program (P : Call → Prop) : {α : Type} → (World ε φ → Action ε φ α) → Prop where
  /-- A result without a call. -/
  | pure {α : Type} (a : α) : Program P fun _ => (Pure.pure a : Action ε φ α)
  /-- One fetch. -/
  | lookUp {layout : String} (h : P (.fetch layout)) : Program P fun w => w.lookUp layout
  /-- One directory. -/
  | ensureDir {dir : Path} (h : P (.ensureDir dir)) :
    Program P fun w => Run.ensureDir w.sink dir
  /-- One module. -/
  | writeModule {path : Path} {doc : Document} (p : Progress)
      (h : P (.writeFile path doc.renderFile)) :
    Program P fun w => Run.writeModule w.sink path doc p
  /-- One program, and behind it another that may depend on its result. -/
  | bind {α β : Type} {x : World ε φ → Action ε φ α} {f : α → World ε φ → Action ε φ β}
      (hx : Program P x) (hf : ∀ a, Program P (f a)) : Program P fun w => x w >>= fun a => f a w

/-! ## What happens in a program -/

/-- The events behind a trace are calls with what the world answers to them. -/
def World.Answers (w : World ε φ) : Trace ε φ → Trace ε φ → Prop
  | _, [] => True
  | t, e :: s => e = w.answer t e.call ∧ World.Answers w (t ++ [e]) s

namespace World.Answers

variable {w : World ε φ} {t s s' : Trace ε φ}

/-- Answered events go on with answered events. -/
theorem append (h : w.Answers t s) (h' : w.Answers (t ++ s) s') : w.Answers t (s ++ s') := by
  induction s generalizing t with
  | nil => rwa [List.append_nil] at h'
  | cons e s ih =>
    refine ⟨h.1, ih h.2 ?_⟩
    rwa [List.append_assoc]

/-- The first part of answered events is answered. -/
theorem left (h : w.Answers t (s ++ s')) : w.Answers t s := by
  induction s generalizing t with
  | nil => trivial
  | cons e s ih => exact ⟨h.1, ih h.2⟩

/-- An event among answered events is the world's answer to its call. -/
theorem at_event {before after : Trace ε φ} {e : Event ε φ}
    (h : w.Answers t (before ++ e :: after)) : e = w.answer (t ++ before) e.call := by
  induction before generalizing t with
  | nil =>
    rw [List.append_nil]
    exact h.1
  | cons d before ih =>
    have hrest := ih h.2
    rwa [List.append_assoc] at hrest

end World.Answers

/-- What a world answers to a call is an event of that call. -/
@[simp] theorem World.call_answer (w : World ε φ) (t : Trace ε φ) (c : Call) :
    (w.answer t c).call = c := by
  cases c <;> rfl

/-- The events are free of failures if there is a result; otherwise the last of them is the failure
that is the error, and it is the only one. -/
def Trace.EndsIn (s : Trace ε φ) : Except (RunError ε φ) α → Prop
  | .ok _ => ∀ e ∈ s, e.failure = none
  | .error problem => ∃ before last, s = before ++ [last] ∧ (∀ e ∈ before, e.failure = none) ∧
      last.failure = some problem

/-- Events behind a trace, and the result that they lead to. -/
structure Course (P : Call → Prop) (w : World ε φ) (t s : Trace ε φ)
    (r : Except (RunError ε φ) α) : Prop where
  /-- The world answers every call. -/
  answers : w.Answers t s
  /-- Every call meets the condition. -/
  calls : ∀ e ∈ s, P e.call
  /-- Only the last event may be a failure, and then it is the error. -/
  ends : s.EndsIn r

namespace Course

variable {P : Call → Prop} {w : World ε φ} {t s s' : Trace ε φ}

/-- One event is a course, when the result says whether it is a failure. -/
theorem single {c : Call} {r : Except (RunError ε φ) α} (hc : P c)
    (hr : Trace.EndsIn [w.answer t c] r) : Course P w t [w.answer t c] r where
  answers := ⟨by rw [World.call_answer], trivial⟩
  calls e he := by
    rw [List.mem_singleton.mp he, World.call_answer]
    exact hc
  ends := hr

/-- A course with a result goes on with another one. -/
theorem append {a : α} {r : Except (RunError ε φ) β} (h : Course P w t s (.ok a))
    (h' : Course P w (t ++ s) s' r) : Course P w t (s ++ s') r where
  answers := h.answers.append h'.answers
  calls e he := (List.mem_append.mp he).elim (h.calls e) (h'.calls e)
  ends := by
    cases r with
    | ok b =>
      intro e he
      exact (List.mem_append.mp he).elim (h.ends e) (h'.ends e)
    | error problem =>
      obtain ⟨before, last, rfl, hbefore, hlast⟩ := h'.ends
      refine ⟨s ++ before, last, (List.append_assoc ..).symm, ?_, hlast⟩
      intro e he
      exact (List.mem_append.mp he).elim (h.ends e) (hbefore e)

end Course

/-- One event that is no failure leads to a result. -/
theorem Trace.endsIn_ok {e : Event ε φ} (h : e.failure = none) (a : α) :
    Trace.EndsIn [e] (.ok a : Except (RunError ε φ) α) := by
  intro d hd
  rw [List.mem_singleton.mp hd]
  exact h

/-- One event that is a failure leads to its error. -/
theorem Trace.endsIn_error {e : Event ε φ} {problem : RunError ε φ} (h : e.failure = some problem) :
    Trace.EndsIn [e] (.error problem : Except (RunError ε φ) α) :=
  ⟨[], e, rfl, by simp, h⟩

/-- Every program takes its course in every world. -/
theorem Program.course {P : Call → Prop} {x : World ε φ → Action ε φ α} (h : Program P x)
    (w : World ε φ) (t : Trace ε φ) :
    ∃ r s, (x w).after t = (r, t ++ s) ∧ Course P w t s r := by
  induction h generalizing t with
  | pure a =>
    refine ⟨.ok a, [], ?_, trivial, by simp, by simp [Trace.EndsIn]⟩
    rw [Action.after_pure, List.append_nil]
  | @lookUp layout hc =>
    refine ⟨_, _, w.after_lookUp layout t, .single hc ?_⟩
    have he : w.answer t (.fetch layout) = .fetched layout (w.fetch t layout) := rfl
    rw [he]
    rcases w.fetch t layout with (missing | ⟨failing, cause⟩) | metadata
    · exact Trace.endsIn_ok rfl _
    · exact Trace.endsIn_error rfl
    · exact Trace.endsIn_ok rfl _
  | @ensureDir dir hc =>
    refine ⟨_, _, w.after_ensureDir dir t, .single hc ?_⟩
    have he : w.answer t (.ensureDir dir) = .ensured dir (w.ensureDir t dir) := rfl
    rw [he]
    cases w.ensureDir t dir with
    | ok a => exact Trace.endsIn_ok rfl _
    | error cause => exact Trace.endsIn_error rfl
  | @writeModule path doc p hc =>
    refine ⟨_, _, w.after_writeModule path doc p t, .single hc ?_⟩
    have he : w.answer t (.writeFile path doc.renderFile) =
        .wrote path doc.renderFile (w.writeFile t path doc.renderFile) := rfl
    rw [he]
    cases w.writeFile t path doc.renderFile with
    | ok a => exact Trace.endsIn_ok rfl _
    | error cause => exact Trace.endsIn_error rfl
  | bind hx hf ihx ihf =>
    obtain ⟨r, s, hrun, hcourse⟩ := ihx t
    cases r with
    | error problem =>
      refine ⟨.error problem, s, ?_, hcourse.answers, hcourse.calls, hcourse.ends⟩
      rw [Action.after_bind, hrun]
    | ok a =>
      obtain ⟨r, s', hrest, hcourse'⟩ := ihf a (t ++ s)
      refine ⟨r, s ++ s', ?_, hcourse.append hcourse'⟩
      rw [Action.after_bind, hrun, ← List.append_assoc]
      exact hrest

/-! ## A program in two worlds -/

/-- Two rows of events are the same up to a call that is answered differently. -/
def Trace.Part (s s' : Trace ε φ) : Prop :=
  ∃ common e e' rest rest', s = common ++ e :: rest ∧ s' = common ++ e' :: rest' ∧
    e.call = e'.call ∧ e ≠ e'

/-- Two rows that part do so whatever comes behind them. -/
theorem Trace.Part.append {s s' : Trace ε φ} (h : s.Part s') (more more' : Trace ε φ) :
    Trace.Part (s ++ more) (s' ++ more') := by
  obtain ⟨common, e, e', rest, rest', rfl, rfl, hcall, hne⟩ := h
  exact ⟨common, e, e', rest ++ more, rest' ++ more', by simp, by simp, hcall, hne⟩

/-- Two rows that part do so behind a row that they share. -/
theorem Trace.Part.behind {s s' : Trace ε φ} (h : s.Part s') (common : Trace ε φ) :
    Trace.Part (common ++ s) (common ++ s') := by
  obtain ⟨more, e, e', rest, rest', rfl, rfl, hcall, hne⟩ := h
  exact ⟨common ++ more, e, e', rest, rest', by simp, by simp, hcall, hne⟩

/-- What stands behind the first part of a chain only adds events. -/
theorem Program.chain_extends {P : Call → Prop} {f : α → World ε φ → Action ε φ β}
    (hf : ∀ a, Program P (f a)) (w : World ε φ) {r : Except (RunError ε φ) α} {t s : Trace ε φ} :
    ∃ q u, (match (r, t ++ s) with
      | (.ok a, t') => (f a w).after t'
      | (.error problem, t') => (.error problem, t')) = (q, t ++ (s ++ u)) := by
  cases r with
  | error problem => exact ⟨.error problem, [], by rw [List.append_nil]⟩
  | ok a =>
    obtain ⟨q, u, hrun, _⟩ := (hf a).course w (t ++ s)
    exact ⟨q, u, by rw [← List.append_assoc]; exact hrun⟩

/-- One call in two worlds. -/
theorem World.same_or_part_of_call {w w' : World ε φ} {t : Trace ε φ} {c : Call}
    {r r' : Except (RunError ε φ) α} (h : w.answer t c = w'.answer t c → r = r') :
    r = r' ∧ [w.answer t c] = [w'.answer t c] ∨ Trace.Part [w.answer t c] [w'.answer t c] := by
  by_cases he : w.answer t c = w'.answer t c
  · exact .inl ⟨h he, by rw [he]⟩
  · exact .inr ⟨[], _, _, [], [], rfl, rfl, by rw [call_answer, call_answer], he⟩

/-- In two worlds a program comes to the same, or its events part at a call that is answered
differently. -/
theorem Program.same_or_part {P : Call → Prop} {x : World ε φ → Action ε φ α} (h : Program P x)
    (w w' : World ε φ) (t : Trace ε φ) :
    ∃ r r' s s', (x w).after t = (r, t ++ s) ∧ (x w').after t = (r', t ++ s') ∧
      (r = r' ∧ s = s' ∨ s.Part s') := by
  induction h generalizing t with
  | pure a =>
    refine ⟨.ok a, .ok a, [], [], ?_, ?_, .inl ⟨rfl, rfl⟩⟩
    · rw [Action.after_pure, List.append_nil]
    · rw [Action.after_pure, List.append_nil]
  | @lookUp layout hc =>
    refine ⟨_, _, _, _, w.after_lookUp layout t, w'.after_lookUp layout t,
      World.same_or_part_of_call fun he => ?_⟩
    rw [(Event.fetched.inj he).2]
  | @ensureDir dir hc =>
    refine ⟨_, _, _, _, w.after_ensureDir dir t, w'.after_ensureDir dir t,
      World.same_or_part_of_call fun he => ?_⟩
    rw [(Event.ensured.inj he).2]
  | @writeModule path doc p hc =>
    refine ⟨_, _, _, _, w.after_writeModule path doc p t, w'.after_writeModule path doc p t,
      World.same_or_part_of_call fun he => ?_⟩
    rw [(Event.wrote.inj he).2.2]
  | bind hx hf ihx ihf =>
    obtain ⟨r, r', s, s', hrun, hrun', hcases⟩ := ihx t
    rw [Action.after_bind, Action.after_bind, hrun, hrun']
    -- Behind a parting both go on as they like; otherwise the second part starts from one trace.
    rcases hcases with ⟨rfl, rfl⟩ | hpart
    · cases r with
      | error problem => exact ⟨_, _, s, s, rfl, rfl, .inl ⟨rfl, rfl⟩⟩
      | ok a =>
        obtain ⟨q, q', u, u', hrest, hrest', hcases⟩ := ihf a (t ++ s)
        refine ⟨q, q', s ++ u, s ++ u', ?_, ?_, ?_⟩
        · rw [← List.append_assoc]
          exact hrest
        · rw [← List.append_assoc]
          exact hrest'
        · rcases hcases with ⟨rfl, rfl⟩ | hpart
          · exact .inl ⟨rfl, rfl⟩
          · exact .inr (hpart.behind s)
    · obtain ⟨q, u, hrest⟩ := chain_extends hf w (r := r) (t := t) (s := s)
      obtain ⟨q', u', hrest'⟩ := chain_extends hf w' (r := r') (t := t) (s := s')
      exact ⟨q, q', s ++ u, s' ++ u', hrest, hrest', .inr (hpart.append u u')⟩

/-! ## The parts of a run are programs -/

namespace Run

variable (run : Run)

/-- Generate the modules of a schema whose layout is found. -/
def generateFound (w : World ε φ) (schema : SchemaConfig) (metadata : Metadata) (p : Progress) :
    Action ε φ Progress := do
  let b := run.blueprint schema metadata
  let p ← writeModule w.sink (run.schemaPath b.name) b.schemaModule p
  if (run.config.view schema).generateClient then run.writeClient w.sink b p else return p

/-- A schema whose layout is missing is passed over, and the modules of any other are generated. -/
theorem generateSchema_eq (w : World ε φ) (schema : SchemaConfig) (p : Progress) :
    run.generateSchema w.source w.sink schema p =
      w.lookUp schema.layout >>= fun
        | .error missing => pure (p.skip missing)
        | .ok metadata => run.generateFound w schema metadata p := by
  refine Action.ext_after fun t => ?_
  unfold generateSchema
  rw [Action.after_bind, Action.after_bind, World.after_lookUp, Action.after_call]
  have hanswer : w.source.fetch schema.layout t =
      (w.fetch t schema.layout, t ++ [w.answer t (.fetch schema.layout)]) := rfl
  rw [hanswer]
  rcases w.fetch t schema.layout with (missing | ⟨failing, cause⟩) | metadata
  · rfl
  · rfl
  · rfl

/-- The calls of a run but for the index. -/
structure Calls (P : Call → Prop) : Prop where
  /-- Layouts are fetched. -/
  fetch : ∀ layout, P (.fetch layout)
  /-- The directory of all files is made. -/
  root : P (.ensureDir run.root)
  /-- The directory of clients is made. -/
  clientDir : P (.ensureDir run.clientDir)
  /-- Schema modules are written. -/
  schemaModule : ∀ b : Blueprint, P (.writeFile (run.schemaPath b.name) b.schemaModule.renderFile)
  /-- Client modules are written. -/
  clientModule : ∀ b : Blueprint, P (.writeFile (run.clientPath b.name) b.clientModule.renderFile)

variable {run} {P : Call → Prop} (h : run.Calls P)
include h

/-- Writing a client is a program. -/
theorem Calls.writeClient (b : Blueprint) (p : Progress) :
    Program P fun w : World ε φ => run.writeClient w.sink b p := by
  have hmodule : Program P fun w : World ε φ =>
      writeModule w.sink (run.clientPath b.name) b.clientModule p >>= fun p =>
        pure (p.addClient b.name) :=
    .bind (.writeModule p (h.clientModule b)) fun p => .pure _
  unfold Run.writeClient
  by_cases hp : p.hasNoClients = true
  · simp only [hp, if_true]
    exact .bind (.ensureDir h.clientDir) fun _ => hmodule
  · simp only [hp]
    exact hmodule

/-- Generating the modules of a schema is a program. -/
theorem Calls.generateFound (schema : SchemaConfig) (metadata : Metadata) (p : Progress) :
    Program P fun w : World ε φ => run.generateFound w schema metadata p := by
  refine .bind (.writeModule p (h.schemaModule (run.blueprint schema metadata))) fun p => ?_
  by_cases hc : (run.config.view schema).generateClient = true
  · simp only [hc, if_true]
    exact h.writeClient _ p
  · simp only [hc]
    exact .pure p

/-- Generating a schema is a program. -/
theorem Calls.generateSchema (schema : SchemaConfig) (p : Progress) :
    Program P fun w : World ε φ => run.generateSchema w.source w.sink schema p := by
  simp only [generateSchema_eq]
  refine .bind (.lookUp (h.fetch _)) fun found => ?_
  cases found with
  | error missing => exact .pure _
  | ok metadata => exact h.generateFound schema metadata p

/-- Generating several schemas is a program. -/
theorem Calls.generateSchemas (schemas : List SchemaConfig) (p : Progress) :
    Program P fun w : World ε φ => run.generateSchemas w.source w.sink schemas p := by
  induction schemas generalizing p with
  | nil => exact .pure p
  | cons schema rest ih => exact .bind (h.generateSchema schema p) ih

/-- All of a run but the index is a program. -/
theorem Calls.body : Program P fun w : World ε φ => run.body w :=
  .bind (.ensureDir h.root) fun _ => h.generateSchemas run.config.schemas {}

omit h in
variable (run) in
/-- A run is a program. -/
theorem execute_program :
    Program (fun _ => True) fun w : World ε φ => run.execute w.source w.sink := by
  have hcalls : run.Calls fun _ => True :=
    ⟨fun _ => trivial, trivial, trivial, fun _ => trivial, fun _ => trivial⟩
  simp only [execute_eq]
  refine .bind hcalls.body fun p => .bind ?_ fun p => .pure p.report
  unfold writeIndex
  cases p.hasNoClients with
  | true => exact .pure p
  | false => exact .writeModule p trivial

end Run

end TypedLayouts
