import Mathlib.Data.List.TakeWhile
import TypedLayouts.Proofs.TypeScript.Paths

/-!
# Names that statements use and declare

A statement of a module uses names and declares names. A module is closed when every name that a
statement uses is declared by a statement in front of it, so that it neither dangles nor is read
before its declaration has run.

Of a dotted name only the first segment is looked up. Verbatim text uses no name here. The names of
an expression can also be taken without those in the values of certain properties.
-/

namespace TypedLayouts.TypeScript

/-- The part of a dotted name that is looked up. -/
def firstSegment (name : String) : String :=
  String.ofList (name.toList.takeWhile (· != '.'))

namespace TypeExpr

mutual

/-- The names that a type uses. -/
def names : TypeExpr → List String
  | .union members => namesAll members
  | .array item => names item
  | .reference name arguments => firstSegment name :: namesAll arguments
  | .typeOf name => [firstSegment name]
  | .object members => namesMembers members
  | .string | .number | .null | .any | .literal _ => []

/-- The names that several types use. -/
def namesAll : List TypeExpr → List String
  | [] => []
  | t :: ts => names t ++ namesAll ts

/-- The names that the members of an object type use. -/
def namesMembers : List (String × TypeExpr) → List String
  | [] => []
  | (_, t) :: rest => names t ++ namesMembers rest

end

end TypeExpr

namespace Expr

mutual

/-- The names that an expression uses, but for those in the values of properties whose keys are
hidden. -/
def names (hidden : List String) : Expr → List String
  | .ident name => [firstSegment name]
  | .member target _ => names hidden target
  | .call callee types arguments =>
    names hidden callee ++ TypeExpr.namesAll types ++ namesAll hidden arguments
  | .construct callee arguments => names hidden callee ++ namesAll hidden arguments
  | .not operand => names hidden operand
  | .array items => namesAll hidden items
  | .object _ properties => namesProperties hidden properties
  | .null | .string _ | .raw _ => []

/-- The names that several expressions use. -/
def namesAll (hidden : List String) : List Expr → List String
  | [] => []
  | e :: es => names hidden e ++ namesAll hidden es

/-- The names that the properties of an object literal use. -/
def namesProperties (hidden : List String) : List (String × Expr) → List String
  | [] => []
  | (key, e) :: rest =>
    (if key ∈ hidden then [] else names hidden e) ++ namesProperties hidden rest

end

end Expr

namespace Statement

/-- The names that a statement uses, but for those in the values of properties whose keys are
hidden. -/
def uses (hidden : List String) : Statement → List String
  | .importNames _ _ => []
  | .exportType _ type => type.names
  | .exportConst _ value => value.names hidden
  | .when test consequent => test.names hidden ++ consequent.uses hidden
  | .throw value => value.names hidden
  | .exportFrom _ _ => []

/-- The names that a statement imports. -/
def imports : Statement → List String
  | .importNames names _ => names
  | _ => []

/-- The names that a statement declares and exports. -/
def exports : Statement → List String
  | .exportType name _ => [name]
  | .exportConst name _ => [name]
  | _ => []

/-- The names that a statement makes known to those behind it. -/
def declares (s : Statement) : List String :=
  s.imports ++ s.exports

end Statement

namespace Document

/-- The names that a module imports. -/
def imports (doc : Document) : List String :=
  doc.body.flatMap Statement.imports

/-- The names that a module declares and exports. -/
def exports (doc : Document) : List String :=
  doc.body.flatMap Statement.exports

/-- Every name that a statement uses is imported or exported by a statement in front of it. -/
def Closed (doc : Document) : Prop :=
  ∀ front s behind, doc.body = front ++ s :: behind →
    ∀ name ∈ s.uses [], ∃ earlier ∈ front, name ∈ earlier.declares

end Document

/-! ## Statements among known names -/

/-- The statements use known names and those that the statements in front of them declare. -/
def Scoped (known : List String) : List Statement → Prop
  | [] => True
  | s :: rest => (∀ name ∈ s.uses [], name ∈ known) ∧ Scoped (known ++ s.declares) rest

namespace Scoped

variable {known known' : List String} {first second statements : List Statement}

/-- More known names do no harm. -/
theorem mono (h : Scoped known statements) (hsub : known ⊆ known') : Scoped known' statements := by
  induction statements generalizing known known' with
  | nil => trivial
  | cons s rest ih =>
    refine ⟨fun name hn => hsub (h.1 name hn), ih h.2 ?_⟩
    exact List.append_subset.mpr ⟨List.subset_append_of_subset_left _ hsub,
      List.subset_append_right _ _⟩

/-- Statements behind others know what those declare. -/
theorem append (hf : Scoped known first)
    (hs : Scoped (known ++ first.flatMap Statement.declares) second) :
    Scoped known (first ++ second) := by
  induction first generalizing known with
  | nil => simpa using hs
  | cons s rest ih =>
    refine ⟨hf.1, ih hf.2 ?_⟩
    rw [List.flatMap_cons, ← List.append_assoc] at hs
    exact hs

/-- Groups of statements that need nothing of one another stand in any row. -/
theorem flatMap {α : Type} {f : α → List Statement} {as : List α}
    (h : ∀ a ∈ as, Scoped known (f a)) : Scoped known (as.flatMap f) := by
  induction as with
  | nil => trivial
  | cons a as ih =>
    rw [List.flatMap_cons]
    refine append (h a List.mem_cons_self) ?_
    exact mono (ih fun a' ha' => h a' (List.mem_cons_of_mem _ ha')) (List.subset_append_left _ _)

/-- A statement in the middle uses known names and those declared in front of it. -/
theorem uses_known {front behind : List Statement} {s : Statement}
    (h : Scoped known (front ++ s :: behind)) :
    ∀ name ∈ s.uses [], name ∈ known ∨ ∃ earlier ∈ front, name ∈ earlier.declares := by
  induction front generalizing known with
  | nil => exact fun name hn => .inl (h.1 name hn)
  | cons s' front ih =>
    intro name hn
    rcases ih h.2 name hn with hk | ⟨earlier, he, hd⟩
    · rcases List.mem_append.mp hk with hk | hk
      · exact .inl hk
      · exact .inr ⟨s', List.mem_cons_self, hk⟩
    · exact .inr ⟨earlier, List.mem_cons_of_mem _ he, hd⟩

/-- A module whose statements need no known names is closed. -/
theorem closed {doc : Document} (h : Scoped [] doc.body) : doc.Closed := by
  intro front s behind hbody name hn
  rw [hbody] at h
  rcases h.uses_known name hn with hk | he
  · exact absurd hk List.not_mem_nil
  · exact he

end Scoped

/-! ## Names with and without dots -/

/-- A name without dots is looked up as it stands. -/
theorem firstSegment_eq_self {name : String} (h : '.' ∉ name.toList) : firstSegment name = name := by
  unfold firstSegment
  rw [List.takeWhile_eq_self_iff.mpr, String.ofList_toList]
  intro c hc
  have hne : c ≠ '.' := fun he => h (he ▸ hc)
  simpa using hne

theorem Expr.names_properties (hidden : List String) (segments : List (List Char)) (e : Expr) :
    (e.properties segments).names hidden = e.names hidden := by
  induction segments generalizing e with
  | nil => rfl
  | cons segment segments ih => exact ih (.member e (String.ofList segment))

/-- A path cut at the first dot looks up what stands in front of it. -/
theorem Expr.names_path {front behind : String} (hidden : List String) (h : '.' ∉ front.toList) :
    (Expr.path (front ++ "." ++ behind)).names hidden = [front] := by
  rw [path_append_dot, path_of_not_mem h, names_properties, names, firstSegment_eq_self h]

end TypedLayouts.TypeScript
