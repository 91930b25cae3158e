import Mathlib.Data.List.Induction
import TypedLayouts.Proofs.Module.Exports

/-!
# Declared value lists

A schema module declares value lists behind everything else. A list has a claim to its fragment when
it has values and no list with values in front of it has that fragment; empty lists take no part in
this. Those that have a claim are declared, in the order of the catalog, and the backend decides
only how. So the fragment of each list with values is declared once in every kind, with the values
of the first such list that has it.
-/

namespace TypedLayouts.Layout

variable {α : Type} {key : α → String} {as : List α} {k : String}

/-- Where no key comes twice, the elements of a key are what looking for it finds. -/
theorem filter_eq_find? (h : (as.map key).Nodup) :
    (as.filter fun a => key a = k) = (as.find? fun a => key a = k).toList := by
  induction as with
  | nil => rfl
  | cons a as ih =>
    rw [List.map_cons, List.nodup_cons] at h
    by_cases hkey : key a = k
    · have hnone : (as.filter fun a => key a = k) = [] := by
        refine List.filter_eq_nil_iff.mpr fun b hb he => h.1 ?_
        have he : key b = k := by simpa using he
        exact hkey ▸ he ▸ List.mem_map_of_mem hb
      rw [List.filter_cons_of_pos (by simpa using hkey), hnone,
        List.find?_cons_of_pos (by simpa using hkey)]
      rfl
    · rw [List.filter_cons_of_neg (by simpa using hkey), ih h.2,
        List.find?_cons_of_neg (by simpa using hkey)]

end TypedLayouts.Layout

namespace TypedLayouts.Module

open Identifier (fragment)
open Layout TypeScript

/-! ## Claims -/

/-- A list with values, behind lists of which none with values has its fragment. -/
def HasClaim (front : List ValueList) (list : ValueList) : Prop :=
  list.values ≠ [] ∧
    ∀ earlier ∈ front, earlier.values ≠ [] → fragment earlier.name ≠ fragment list.name

instance (front : List ValueList) (list : ValueList) : Decidable (HasClaim front list) :=
  inferInstanceAs (Decidable (_ ∧ _))

/-- The lists that have a claim to their fragment, in order. -/
def claimants (lists : List ValueList) : List ValueList :=
  (lists.zipIdx.filter fun (list, place) => HasClaim (lists.take place) list).map Prod.fst

variable {lists front : List ValueList} {list : ValueList}

theorem claimants_concat : claimants (front ++ [list]) =
    claimants front ++ if HasClaim front list then [list] else [] := by
  have hfront : ∀ place ∈ front.zipIdx,
      decide (HasClaim ((front ++ [list]).take place.2) place.1) =
        decide (HasClaim (front.take place.2) place.1) := by
    intro place hplace
    have hlt : place.2 < front.length := by
      have hget := List.mem_zipIdx_iff_getElem?.mp hplace
      exact (List.getElem?_eq_some_iff.mp hget).1
    rw [List.take_append_of_le_length hlt.le]
  unfold claimants
  rw [List.zipIdx_append, List.filter_append, List.map_append, List.filter_congr hfront]
  congr 1
  by_cases hclaim : HasClaim front list
  · simp [hclaim]
  · simp [hclaim]

theorem hasClaim_iff (h : list.values ≠ []) : HasClaim front list ↔
    fragment list.name ∉
      (front.filter fun list => !list.values.isEmpty).map fun list => fragment list.name := by
  unfold HasClaim
  simp only [ne_eq, h, not_false_eq_true, true_and, List.mem_map, List.mem_filter, not_exists,
    not_and, and_imp, Bool.not_eq_true', List.isEmpty_eq_false_iff]

theorem declaredLists_concat : declaredLists (front ++ [list]) =
    declaredLists front ++ if HasClaim front list then [list] else [] := by
  unfold declaredLists
  rw [List.filter_append, firstsBy_append]
  congr 1
  by_cases hvalues : list.values = []
  · have hclaim : ¬ HasClaim front list := fun h => h.1 hvalues
    rw [if_neg hclaim, List.filter_cons_of_neg (by simpa using hvalues)]
    rfl
  · rw [List.filter_cons_of_pos (by simpa using hvalues), List.filter_nil, firstsBy_cons,
      if_neg List.not_mem_nil, List.filter_cons]
    simp only [hasClaim_iff hvalues, decide_eq_true_eq]
    rfl

theorem declaredLists_eq_claimants (lists : List ValueList) :
    declaredLists lists = claimants lists := by
  induction lists using List.reverseRecOn with
  | nil => rfl
  | append_singleton front list ih => rw [declaredLists_concat, claimants_concat, ih]

theorem declaredLists_filter :
    declaredLists (lists.filter fun list => !list.values.isEmpty) = declaredLists lists := by
  unfold declaredLists
  rw [List.filter_filter]
  simp only [Bool.and_self]

/-- What is declared for a fragment is the first list with values that has it. -/
theorem filter_declaredLists (k : String) :
    ((declaredLists lists).filter fun list => fragment list.name = k) =
      (lists.find? fun list => list.values ≠ [] ∧ fragment list.name = k).toList := by
  have hfilter : ((declaredLists lists).filter fun list => fragment list.name = k) =
      ((declaredLists lists).find? fun list => fragment list.name = k).toList :=
    filter_eq_find? nodup_keys_firstsBy
  have hfind : ((declaredLists lists).find? fun list => fragment list.name = k) =
      (lists.filter fun list => !list.values.isEmpty).find? fun list => fragment list.name = k :=
    find?_firstsBy List.not_mem_nil
  rw [hfilter, hfind, List.find?_filter]
  congr 2
  funext list
  simp

/-! ## Statements -/

namespace Declaration

def typeStatement (backend : Backend) (d : Declaration) : Statement :=
  match backend with
  | .validator => .exportType d.name (inferred d.constant)
  | .typesOnly => .exportType d.name d.type

/-- The statements of a declaration with a backend. -/
def statements (backend : Backend) (d : Declaration) : List Statement :=
  match backend with
  | .validator => d.withValidator
  | .typesOnly => [d.typeAlone]

end Declaration

/-- The statements that declare value lists with a backend. -/
def listStatements (backend : Backend) (lists : List ValueList) : List Statement :=
  lists.flatMap fun list => (Blueprint.listDeclaration list).statements backend

/-- The statements that export a name. -/
def exporting (name : String) (statements : List Statement) : List Statement :=
  statements.filter fun s => name ∈ s.exports

/-- The statements declare the type of a name's value list once, with the given values in order, and
with validators the validator too. -/
def DeclareOnce (backend : Backend) (name : String) (values : List String)
    (statements : List Statement) : Prop :=
  match backend with
  | .validator =>
    exporting (valueListValidatorName name) statements =
        [.exportConst (valueListValidatorName name) (zod "enum" [.array (values.map .string)])] ∧
      exporting (valueListTypeName name) statements =
        [.exportType (valueListTypeName name) (inferred (valueListValidatorName name))]
  | .typesOnly =>
    exporting (valueListTypeName name) statements =
      [.exportType (valueListTypeName name) (.union (values.map .literal))]

variable {backend : Backend} {name k : String}

theorem exporting_cons (s : Statement) (rest : List Statement) :
    exporting name (s :: rest) =
      if name ∈ s.exports then s :: exporting name rest else exporting name rest := by
  unfold exporting
  rw [List.filter_cons]
  simp only [decide_eq_true_eq]

theorem exporting_flatMap {f : ValueList → List Statement} {g : ValueList → Statement}
    (h : ∀ list, exporting name (f list) = if fragment list.name = k then [g list] else []) :
    exporting name (lists.flatMap f) =
      (lists.filter fun list => fragment list.name = k).map g := by
  induction lists with
  | nil => rfl
  | cons list lists ih =>
    have hcons : exporting name ((list :: lists).flatMap f) =
        exporting name (f list) ++ exporting name (lists.flatMap f) := by
      unfold exporting
      rw [List.flatMap_cons, List.filter_append]
    rw [hcons, h, ih]
    by_cases hkey : fragment list.name = k
    · simp [hkey]
    · simp [hkey]

theorem valueListTypeName_inj {name' : String} :
    valueListTypeName name = valueListTypeName name' ↔ fragment name = fragment name' :=
  String.append_right_inj _

theorem valueListValidatorName_inj {name' : String} :
    valueListValidatorName name = valueListValidatorName name' ↔ fragment name = fragment name' :=
  String.append_right_inj _

theorem valueListValidatorName_ne_type (name name' : String) :
    valueListValidatorName name ≠ valueListTypeName name' := by
  unfold valueListValidatorName valueListTypeName
  exact Blueprint.validator_ne_type ("VL" ++ fragment name) ("VL" ++ fragment name')

/-- The type of a name is exported by the lists with its fragment. -/
theorem exporting_type (list : ValueList) :
    exporting (valueListTypeName name) ((Blueprint.listDeclaration list).statements backend) =
      if fragment list.name = fragment name then
        [(Blueprint.listDeclaration list).typeStatement backend] else [] := by
  have hname : valueListTypeName name = (Blueprint.listDeclaration list).name ↔
      fragment list.name = fragment name := valueListTypeName_inj.trans eq_comm
  have hconstant : valueListTypeName name ≠ (Blueprint.listDeclaration list).constant :=
    (valueListValidatorName_ne_type _ _).symm
  cases backend with
  | typesOnly =>
    unfold Declaration.statements Declaration.typeAlone
    simp only [exporting_cons, Statement.exports, List.mem_singleton, hname]
    rfl
  | validator =>
    unfold Declaration.statements Declaration.withValidator
    simp only [exporting_cons, Statement.exports, List.mem_singleton, hname, if_neg hconstant]
    rfl

/-- The validator of a name is exported by the lists with its fragment. -/
theorem exporting_validator (list : ValueList) :
    exporting (valueListValidatorName name)
        ((Blueprint.listDeclaration list).statements .validator) =
      if fragment list.name = fragment name then
        [.exportConst (valueListValidatorName list.name) (choiceValidator list.values)] else [] := by
  have hname : valueListValidatorName name ≠ (Blueprint.listDeclaration list).name :=
    valueListValidatorName_ne_type _ _
  have hconstant : valueListValidatorName name = (Blueprint.listDeclaration list).constant ↔
      fragment list.name = fragment name := valueListValidatorName_inj.trans eq_comm
  unfold Declaration.statements Declaration.withValidator
  simp only [exporting_cons, Statement.exports, List.mem_singleton, hconstant, if_neg hname]
  rfl

/-- The fragment of a list with values is declared once, for the first such list that has it. -/
theorem declareOnce_of_find? {first : ValueList}
    (h : (lists.find? fun list => list.values ≠ [] ∧ fragment list.name = fragment name) =
      some first) :
    DeclareOnce backend name first.values (listStatements backend (declaredLists lists)) := by
  have hone : ((declaredLists lists).filter fun list => fragment list.name = fragment name) =
      [first] := by
    rw [filter_declaredLists, h]
    rfl
  have hsame : fragment first.name = fragment name := by
    have hfound := List.find?_some h
    simp only [decide_eq_true_eq] at hfound
    exact hfound.2
  have htype : exporting (valueListTypeName name) (listStatements backend (declaredLists lists)) =
      [(Blueprint.listDeclaration first).typeStatement backend] := by
    unfold listStatements
    rw [exporting_flatMap exporting_type, hone]
    rfl
  unfold DeclareOnce
  cases backend with
  | typesOnly =>
    rw [htype, ← valueListTypeName_inj.mpr hsame]
    rfl
  | validator =>
    constructor
    · unfold listStatements
      rw [exporting_flatMap exporting_validator, hone, ← valueListValidatorName_inj.mpr hsame]
      rfl
    · show exporting _ _ = _
      rw [htype, ← valueListTypeName_inj.mpr hsame, ← valueListValidatorName_inj.mpr hsame]
      rfl

/-! ## Schema modules with value lists -/

namespace Blueprint

/-- The blueprint with another backend and other value lists. -/
def withLists (b : Blueprint) (backend : Backend) (lists : List ValueList) : Blueprint :=
  { b with backend, schemas := { b.schemas with valueLists := lists } }

variable (b : Blueprint)

/-- The value lists are declared behind what is declared without them. -/
theorem schemaModule_withLists (backend : Backend) (lists : List ValueList) :
    (b.withLists backend lists).schemaModule.body =
      (b.withLists backend []).schemaModule.body
        ++ listStatements backend (declaredLists lists) := by
  have hdeclarations : (b.withLists backend lists).declarations =
      (b.withLists backend []).declarations ++ (declaredLists lists).map listDeclaration := by
    have hnone : (declaredLists (b.withLists backend []).schemas.valueLists).map listDeclaration =
        [] := rfl
    rw [declarations, declarations, hnone, List.append_nil]
    rfl
  unfold listStatements
  cases backend with
  | validator =>
    have hbody := fun lists => validatorModule_body (b.withLists .validator lists) rfl
    refine (hbody lists).trans ?_
    rw [hdeclarations, List.flatMap_append, List.flatMap_map, ← List.cons_append, ← hbody []]
    rfl
  | typesOnly =>
    have hbody := fun lists => typesModule_body (b.withLists .typesOnly lists)
    refine (hbody lists).trans ?_
    rw [hdeclarations, List.map_append, List.map_map, ← hbody [], List.map_eq_flatMap]
    rfl

theorem nodup_exports_listStatements (backend : Backend) (lists : List ValueList) :
    ((listStatements backend (declaredLists lists)).flatMap Statement.exports).Nodup := by
  have hkeys : ((declaredLists lists).map fun list => fragment list.name).Nodup :=
    nodup_keys_firstsBy
  have hstems := hkeys.map (letter_injective "VL")
  have hnames := fun list => Prod.mk.inj (listDeclaration_stem list)
  unfold listStatements
  rw [List.flatMap_assoc]
  cases backend with
  | validator =>
    have hexports : ∀ list, ((listDeclaration list).statements .validator).flatMap
        Statement.exports =
          ["Z" ++ ("VL" ++ fragment list.name), "T" ++ ("VL" ++ fragment list.name)] := by
      intro list
      rw [← (hnames list).1, ← (hnames list).2]
      rfl
    have hpairs := (nodup_pairs_iff _).mpr hstems
    rw [List.flatMap_map, List.flatMap_map] at hpairs
    simp only [hexports]
    exact hpairs
  | typesOnly =>
    have hexports : ∀ list, ((listDeclaration list).statements .typesOnly).flatMap
        Statement.exports = ["T" ++ ("VL" ++ fragment list.name)] := by
      intro list
      rw [← (hnames list).2]
      rfl
    have htypes := hstems.map (letter_injective "T")
    rw [List.map_map, List.map_map, List.map_eq_flatMap] at htypes
    simp only [hexports]
    exact htypes

/-- A schema module declares exactly the value lists that have a claim to their fragment, in order
and behind everything else, whatever the backend; lists without values make no difference. No name
is exported twice by these declarations, and the fragment of each list with values is declared once
in every kind, with the values of the first list with values that has it. -/
theorem declares_claimants (backend : Backend) (lists : List ValueList) :
    (b.withLists backend lists).schemaModule.body =
        (b.withLists backend []).schemaModule.body
          ++ listStatements backend (claimants lists) ∧
      (b.withLists backend lists).schemaModule =
        (b.withLists backend (lists.filter fun list => !list.values.isEmpty)).schemaModule ∧
      ((listStatements backend (claimants lists)).flatMap Statement.exports).Nodup ∧
      ∀ list ∈ lists, list.values ≠ [] →
        ∃ first,
          (lists.find? fun other =>
            other.values ≠ [] ∧ fragment other.name = fragment list.name) = some first ∧
          DeclareOnce backend list.name first.values
            (listStatements backend (claimants lists)) := by
  rw [← declaredLists_eq_claimants]
  refine ⟨b.schemaModule_withLists backend lists, ?_, nodup_exports_listStatements backend lists,
    fun list hlist hvalues => ?_⟩
  · have hfilter := b.schemaModule_withLists backend (lists.filter fun list => !list.values.isEmpty)
    rw [declaredLists_filter] at hfilter
    exact congrArg Document.mk ((b.schemaModule_withLists backend lists).trans hfilter.symm)
  · have hsome : (lists.find? fun other =>
        other.values ≠ [] ∧ fragment other.name = fragment list.name).isSome := by
      rw [List.find?_isSome]
      exact ⟨list, hlist, by simpa using hvalues⟩
    obtain ⟨first, hfirst⟩ := Option.isSome_iff_exists.mp hsome
    exact ⟨first, hfirst, declareOnce_of_find? hfirst⟩

end Blueprint

end TypedLayouts.Module
