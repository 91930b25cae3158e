import Mathlib.Data.List.Induction
import Mathlib.Logic.Function.Iterate
import TypedLayouts.Proofs.Files.Components

/-!
# Directories of paths

The directory of a path has all of its components but the last one. Where a path leads is worked out
from its components alone: a name goes one level down, and `..` takes back the name in front of it.
Two paths that lead to the same place need not have the same components.

The height of a row of components counts the levels that it goes down. Where a row goes down no
level on the whole, it comes to the same from a directory below, one level up and over again.
-/

namespace TypedLayouts.Path

/-- The components of the directory that a path lies in. The root lies in none, and neither does the
empty path. -/
def parent? (p : Path) : Option (List Component) :=
  match p.components.getLast? with
  | none | some .root => none
  | some _ => some p.components.dropLast

/-- A path lies in a directory, directly. -/
def LiesIn (p dir : Path) : Prop :=
  p.parent? = some dir.components

instance (p dir : Path) : Decidable (p.LiesIn dir) :=
  inferInstanceAs (Decidable (p.parent? = some dir.components))

theorem parent?_of_components {p : Path} {front : List Component} {name : String}
    (h : p.components = front ++ [.name name]) : p.parent? = some front := by
  unfold parent?
  rw [h, List.getLast?_concat, List.dropLast_concat]

/-- What lies in a directory is below it. -/
theorem LiesIn.isPrefix {p dir : Path} (h : p.LiesIn dir) : dir.components <+: p.components := by
  unfold LiesIn parent? at h
  split at h
  · cases h
  · cases h
  · rw [← Option.some.inj h]
    exact List.dropLast_prefix p.components

/-! ## Places -/

/-- The place one level up. A place is the row of names that lead there, the last one first; nothing
is above the root. -/
def back : List Component → List Component
  | .name _ :: above => above
  | .root :: above => .root :: above
  | place => .parent :: place

/-- Where one component leads. -/
def Component.step (place : List Component) : Component → List Component
  | .root => [.root]
  | .current => place
  | .name text => .name text :: place
  | .parent => back place

/-- Where some components lead. -/
def walk (place cs : List Component) : List Component :=
  cs.foldl Component.step place

/-- The place that a path leads to. -/
def place (p : Path) : List Component :=
  walk [] p.components

/-- The components of a path behind its opening. -/
def turns (p : Path) : List Component :=
  p.segments.filterMap Component.ofSegment?

theorem walk_append (start cs ds : List Component) :
    walk start (cs ++ ds) = walk (walk start cs) ds :=
  List.foldl_append

theorem walk_concat_name (start cs : List Component) (name : String) :
    walk start (cs ++ [.name name]) = .name name :: walk start cs :=
  walk_append start cs [.name name]

theorem root_not_mem_turns (p : Path) : .root ∉ p.turns := by
  intro hmem
  obtain ⟨segment, -, hsegment⟩ := List.mem_filterMap.mp hmem
  unfold Component.ofSegment? at hsegment
  split at hsegment <;> cases hsegment

/-- A `.` in front leads nowhere, so only the slash that opens a path counts beside its turns. -/
theorem place_eq (p : Path) :
    p.place = walk (if p.isAbsolute then [.root] else []) p.turns := by
  unfold place components turns
  rw [walk_append]
  by_cases ha : p.isAbsolute = true
  · rw [if_pos ha, if_pos ha]
    rfl
  · rw [if_neg ha, if_neg ha]
    split
    · rfl
    · rfl

theorem place_of_relative {p : Path} (h : p.isAbsolute = false) : p.place = walk [] p.turns := by
  rw [place_eq, h]
  rfl

variable {p q : Path} {name : String}

/-- A relative path has the turns of the directory in front of its own. -/
theorem turns_div (h : q.isAbsolute = false) : (p / q).turns = p.turns ++ q.turns := by
  unfold turns
  rw [segments_div h, List.filterMap_append]

/-- A relative path leads on from where the directory leads. -/
theorem place_div (h : q.isAbsolute = false) : (p / q).place = walk p.place q.turns := by
  rw [place_eq, place_eq, isAbsolute_div h, turns_div h, walk_append]

theorem IsFileName.turns (h : IsFileName name) : (⟨name⟩ : Path).turns = [.name name] := by
  unfold Path.turns Component.ofSegment?
  rw [h.segments]
  simp [h.ne_current, h.ne_parent]

/-- A path whose last turn is a name lies in the directory where its other turns lead. -/
theorem exists_parent {front : List Component} (h : p.turns = front ++ [.name name]) :
    ∃ dir, p.parent? = some dir ∧
      walk [] dir = walk (if p.isAbsolute then [.root] else []) front := by
  have hopens : ∃ opening, p.components = opening ++ p.turns ∧
      walk [] opening = if p.isAbsolute then [.root] else [] := by
    refine ⟨_, rfl, ?_⟩
    by_cases ha : p.isAbsolute = true
    · rw [if_pos ha, if_pos ha]
      rfl
    · rw [if_neg ha, if_neg ha]
      split
      · rfl
      · rfl
  obtain ⟨opening, hcomponents, hopening⟩ := hopens
  rw [h, ← List.append_assoc] at hcomponents
  exact ⟨opening ++ front, parent?_of_components hcomponents, by rw [walk_append, hopening]⟩

/-- A text that some turn of a path goes by is neither empty nor a dot or two. -/
theorem name_mem_turns {text : String} (h : .name text ∈ p.turns) :
    text.toList ≠ [] ∧ text ≠ "." ∧ text ≠ ".." := by
  obtain ⟨segment, hsegment, hturn⟩ := List.mem_filterMap.mp h
  unfold segments at hsegment
  have hsome : segment.isEmpty = false := by simpa using (List.mem_filter.mp hsegment).2
  unfold Component.ofSegment? at hturn
  split at hturn
  · cases hturn
  · cases hturn
  · rename_i hcurrent hparent
    cases hturn
    refine ⟨fun hnil => ?_, hcurrent, hparent⟩
    rw [String.toList_eq_nil_iff.mp hnil] at hsome
    cases hsome

/-- The names of a place are those of where it starts and of the way there. -/
theorem name_mem_walk {start cs : List Component} {text : String} (h : .name text ∈ walk start cs) :
    .name text ∈ start ∨ .name text ∈ cs := by
  induction cs generalizing start with
  | nil => exact .inl h
  | cons c cs ih =>
    have hstep : .name text ∈ c.step start → .name text ∈ start ∨ .name text ∈ c :: cs := by
      cases c with
      | root => simp [Component.step]
      | current => exact .inl
      | name other =>
        intro hmem
        rcases List.mem_cons.mp hmem with he | hmem
        · rw [he]
          exact .inr List.mem_cons_self
        · exact .inl hmem
      | parent =>
        rw [Component.step]
        unfold back
        split
        · exact fun hmem => .inl (List.mem_cons_of_mem _ hmem)
        · exact .inl
        · intro hmem
          rcases List.mem_cons.mp hmem with he | hmem
          · cases he
          · exact .inl hmem
    rcases ih h with hmem | hmem
    · exact hstep hmem
    · exact .inr (List.mem_cons_of_mem c hmem)

/-- The same of the names on the place of a path. -/
theorem name_mem_place {text : String} (h : .name text ∈ p.place) :
    text.toList ≠ [] ∧ text ≠ "." ∧ text ≠ ".." := by
  rw [place_eq] at h
  rcases name_mem_walk h with hmem | hmem
  · split at hmem <;> simp at hmem
  · exact name_mem_turns hmem

/-! ## Heights -/

/-- The levels that a component goes down. -/
def Component.height : Component → Int
  | .name _ => 1
  | .parent => -1
  | _ => 0

/-- The levels that some components go down. -/
def height : List Component → Int
  | [] => 0
  | c :: cs => c.height + height cs

theorem height_cons (c : Component) (cs : List Component) :
    height (c :: cs) = c.height + height cs :=
  rfl

theorem height_append (cs ds : List Component) : height (cs ++ ds) = height cs + height ds := by
  induction cs with
  | nil => exact (Int.zero_add _).symm
  | cons c cs ih => rw [List.cons_append, height_cons, height_cons, ih, Int.add_assoc]

/-- Away from the root, a place is as many levels down as the way there goes. -/
theorem height_walk {start cs : List Component} (hstart : .root ∉ start) (hcs : .root ∉ cs) :
    height (walk start cs) = height start + height cs ∧ .root ∉ walk start cs := by
  induction cs generalizing start with
  | nil => exact ⟨(Int.add_zero _).symm, hstart⟩
  | cons c cs ih =>
    rw [List.mem_cons, not_or] at hcs
    have hstep : height (c.step start) = height start + c.height ∧ .root ∉ c.step start := by
      cases c with
      | root => exact absurd rfl hcs.1
      | current => exact ⟨(Int.add_zero _).symm, hstart⟩
      | name name =>
        refine ⟨?_, by simpa [Component.step] using hstart⟩
        rw [Component.step, height_cons, Int.add_comm]
      | parent =>
        rw [Component.step]
        unfold back
        split
        · rw [List.mem_cons, not_or] at hstart
          rw [height_cons]
          exact ⟨by simp only [Component.height]; omega, hstart.2⟩
        · exact absurd List.mem_cons_self hstart
        · refine ⟨?_, by simpa using hstart⟩
          rw [height_cons, Int.add_comm]
    have hrest := ih hstep.2 hcs.2
    rw [height_cons, ← Int.add_assoc, ← hstep.1]
    exact hrest

/-- The root stays below all that is walked from it. -/
theorem root_mem_walk {start cs : List Component} (h : .root ∈ start) : .root ∈ walk start cs := by
  induction cs generalizing start with
  | nil => exact h
  | cons c cs ih =>
    suffices hstep : .root ∈ c.step start from ih hstep
    cases c with
    | root => exact List.mem_singleton_self _
    | current => exact h
    | name name => exact List.mem_cons_of_mem _ h
    | parent =>
      rw [Component.step]
      unfold back
      split
      · rcases List.mem_cons.mp h with he | h
        · cases he
        · exact h
      · exact h
      · exact List.mem_cons_of_mem _ h

/-! ## Level ways -/

/-- The place some levels further up. -/
def above (levels : Nat) (place : List Component) : List Component :=
  back^[levels] place

/-- Components lead some levels up, and then down some names. -/
theorem exists_route {cs : List Component} (h : .root ∉ cs) :
    ∃ (levels : Nat) (names : List String), height cs = names.length - levels ∧
      ∀ place, walk place cs = names.map .name ++ above levels place := by
  -- From behind: a `..` takes back the name that was reached last, or else goes one level up.
  induction cs using List.reverseRecOn with
  | nil => exact ⟨0, [], rfl, fun _ => rfl⟩
  | append_singleton cs c ih =>
    rw [List.mem_append, List.mem_singleton, not_or] at h
    obtain ⟨levels, names, hheight, hwalk⟩ := ih h.1
    have hlast : height (cs ++ [c]) = names.length - levels + c.height := by
      rw [height_append, hheight]
      simp [height]
    simp only [walk_append, hwalk, hlast]
    cases c with
    | root => exact absurd rfl h.2
    | current => exact ⟨levels, names, Int.add_zero _, fun _ => rfl⟩
    | name name =>
      refine ⟨levels, name :: names, ?_, fun _ => rfl⟩
      simp only [Component.height, List.length_cons]
      omega
    | parent =>
      cases names with
      | nil =>
        refine ⟨levels + 1, [], ?_, fun place => ?_⟩
        · simp only [Component.height, List.length_nil]
          omega
        · exact (Function.iterate_succ_apply' back levels place).symm
      | cons name names =>
        refine ⟨levels, names, ?_, fun _ => rfl⟩
        simp only [Component.height, List.length_cons]
        omega

/-- Names are taken back one by one. -/
theorem above_names (names : List String) (place : List Component) :
    above names.length (names.map .name ++ place) = place := by
  induction names with
  | nil => rfl
  | cons name names ih => exact ih

/-- A way that goes down no level on the whole leads to the same place from a directory below, one
level up and over again. -/
theorem walk_twice {cs : List Component} (hroot : .root ∉ cs) (h : height cs = 0)
    (place : List Component) :
    walk (back (walk (.name name :: place) cs)) cs = walk place cs := by
  obtain ⟨levels, names, hheight, hwalk⟩ := exists_route hroot
  obtain rfl : levels = names.length := by omega
  cases names with
  | nil =>
    simp only [hwalk]
    rfl
  | cons last names =>
    have hdown : back (walk (.name name :: place) cs) =
        names.map .name ++ above names.length place := by
      rw [hwalk]
      rfl
    have hup : above (names.length + 1) (names.map .name ++ above names.length place) =
        above (names.length + 1) place := by
      unfold above
      rw [Function.iterate_succ_apply', Function.iterate_succ_apply']
      exact congrArg back (above_names names _)
    rw [hdown, hwalk, hwalk, List.length_cons, hup]

end TypedLayouts.Path
