import Mathlib.Data.List.Induction
import Mathlib.Data.List.Infix
import TypedLayouts.Files.Memory
import TypedLayouts.Files.Path
import TypedLayouts.Proofs.Text.Fragment

/-!
# Files that are the same

Two paths name the same file when their components are the same. The components do not show how the
slashes of a path were written, but they keep every character that an identifier may hold, and a
file whose name is free of slashes is one more component behind those of its directory.
-/

namespace TypedLayouts

open Identifier (innerPart isInner)

namespace Path

/-- Two paths name the same file. -/
def Same (p q : Path) : Prop :=
  p.components = q.components

instance (p q : Path) : Decidable (p.Same q) :=
  inferInstanceAs (Decidable (p.components = q.components))

theorem Same.symm {p q : Path} (h : p.Same q) : q.Same p :=
  Eq.symm h

/-! ## Characters of identifiers -/

/-- The characters of a path that an identifier may hold. -/
def inner (p : Path) : List Char :=
  innerPart p.text.toList

/-- Cutting at slashes loses slashes only. -/
theorem innerPart_splitOn (cs : List Char) :
    innerPart cs = (cs.splitOn '/').flatMap innerPart := by
  have hjoin : ∀ pieces : List (List Char),
      innerPart (['/'].intercalate pieces) = pieces.flatMap innerPart := by
    intro pieces
    induction pieces with
    | nil => rfl
    | cons piece rest ih =>
      cases rest with
      | nil => simp
      | cons next rest =>
        have hslash : innerPart ['/'] = [] := by decide
        rw [List.intercalate_cons_cons, Identifier.innerPart_append, Identifier.innerPart_append,
          ih, hslash, List.append_nil]
        exact List.flatMap_cons.symm
  rw [← hjoin, List.intercalate_splitOn]

/-- The characters of a component that an identifier may hold. -/
def Component.inner (c : Component) : List Char :=
  innerPart c.label.toList

/-- A segment has the characters of the component that it stands for. -/
theorem inner_ofSegment? (segment : String) :
    ((Component.ofSegment? segment).toList).flatMap Component.inner =
      innerPart segment.toList := by
  unfold Component.ofSegment?
  split
  · decide
  · decide
  · simp [Component.inner, Component.label]

/-- The components of a path keep the characters that an identifier may hold. -/
theorem inner_eq_flatMap (p : Path) : p.inner = p.components.flatMap Component.inner := by
  have hopening : (if p.isAbsolute then [Component.root]
      else if p.segments.head? = some "." then [Component.current] else []).flatMap
        Component.inner = [] := by
    split
    · rfl
    · split
      · rfl
      · rfl
  have hsegments : ∀ pieces : List (List Char),
      (((pieces.map String.ofList).filter (!·.isEmpty)).filterMap
        Component.ofSegment?).flatMap Component.inner = pieces.flatMap innerPart := by
    intro pieces
    induction pieces with
    | nil => rfl
    | cons piece rest ih =>
      cases piece with
      | nil => simpa [innerPart] using ih
      | cons c cs =>
        have hfirst := inner_ofSegment? (String.ofList (c :: cs))
        rw [String.toList_ofList] at hfirst
        rw [List.map_cons, List.filter_cons_of_pos (by simp), List.filterMap_cons,
          List.flatMap_cons, ← hfirst, ← ih]
        cases Component.ofSegment? (String.ofList (c :: cs)) with
        | none => rfl
        | some component => simp
  unfold components inner
  dsimp only
  rw [List.flatMap_append, hopening, innerPart_splitOn]
  exact (hsegments _).symm

/-- Paths to the same file have the same characters of identifiers. -/
theorem Same.inner_eq {p q : Path} (h : p.Same q) : p.inner = q.inner := by
  rw [inner_eq_flatMap, inner_eq_flatMap, h]

/-- A relative path is read behind the one that it follows. -/
theorem inner_div {p q : Path} (h : q.isAbsolute = false) :
    (p / q).inner = p.inner ++ q.inner := by
  have hdiv : p / q = p.join q := rfl
  rw [hdiv]
  unfold join inner
  rw [h, if_neg Bool.false_ne_true]
  split
  · rw [String.toList_append, Identifier.innerPart_append]
  · rw [String.toList_append, String.toList_append, Identifier.innerPart_append,
      Identifier.innerPart_append]
    have hslash : innerPart "/".toList = [] := by decide
    rw [hslash, List.append_nil]

/-- An absolute path stands alone. -/
theorem div_of_isAbsolute {p q : Path} (h : q.isAbsolute = true) : p / q = q := by
  have hdiv : p / q = p.join q := rfl
  rw [hdiv]
  unfold join
  rw [h, if_pos rfl]

/-! ## Files without slashes -/

/-- A text that names a file in a directory: one segment, which stands for itself. -/
structure IsFileName (name : String) : Prop where
  /-- It is not empty. -/
  nonempty : name.toList ≠ []
  /-- It has no slash. -/
  slashless : '/' ∉ name.toList
  /-- It is not the directory itself. -/
  ne_current : name ≠ "."
  /-- It is not the directory above. -/
  ne_parent : name ≠ ".."

/-- The nonempty pieces between slashes. -/
def segmentsOf (cs : List Char) : List String :=
  ((cs.splitOn '/').map String.ofList).filter (!·.isEmpty)

theorem segmentsOf_append_slash (cs ds : List Char) :
    segmentsOf (cs ++ '/' :: ds) = segmentsOf cs ++ segmentsOf ds := by
  unfold segmentsOf
  rw [List.splitOn_append_cons_self, List.map_append, List.filter_append]

variable {p : Path} {name : String}

theorem IsFileName.segmentsOf (h : IsFileName name) : segmentsOf name.toList = [name] := by
  have hne : name.isEmpty = false := by
    rw [String.isEmpty_eq_false_iff]
    rintro rfl
    exact h.nonempty rfl
  unfold Path.segmentsOf
  rw [List.splitOn_eq_singleton h.slashless, List.map_singleton, String.ofList_toList]
  simp [hne]

theorem IsFileName.relative (h : IsFileName name) : isAbsolute ⟨name⟩ = false := by
  refine beq_eq_false_iff_ne.mpr fun hhead => h.slashless ?_
  exact List.mem_of_mem_head? hhead

/-- A relative path has the segments of the directory in front of its own. -/
theorem segments_div {q : Path} (h : q.isAbsolute = false) :
    (p / q).segments = p.segments ++ q.segments := by
  have hdiv : p / q = p.join q := rfl
  have hsegments : ∀ q : Path, q.segments = Path.segmentsOf q.text.toList := fun _ => rfl
  rw [hdiv, hsegments, hsegments, hsegments]
  unfold join
  rw [h, if_neg Bool.false_ne_true]
  by_cases hempty : p.text = ""
  · have hnil : segmentsOf [] = [] := rfl
    simp [hempty, hnil]
  by_cases hslash : p.text.toList.getLast? = some '/'
  · obtain ⟨front, hfront⟩ := List.getLast?_eq_some_iff.mp hslash
    have hlast : segmentsOf (front ++ ['/']) = segmentsOf front := by
      rw [segmentsOf_append_slash]
      exact List.append_nil _
    rw [if_pos (by simp [hslash]), String.toList_append, hfront, hlast, List.append_assoc,
      List.singleton_append, segmentsOf_append_slash]
  · rw [if_neg (by simp [hempty, hslash]), String.toList_append, String.toList_append,
      List.append_assoc]
    exact segmentsOf_append_slash p.text.toList q.text.toList

/-- A relative path is as absolute as its directory. -/
theorem isAbsolute_div {q : Path} (h : q.isAbsolute = false) :
    (p / q).isAbsolute = p.isAbsolute := by
  have hdiv : p / q = p.join q := rfl
  rw [hdiv]
  unfold join
  rw [h, if_neg Bool.false_ne_true]
  by_cases hempty : p.text = ""
  · obtain rfl : p = ⟨""⟩ := by
      cases p
      exact congrArg Path.mk hempty
    have hjoined : (⟨"" ++ q.text⟩ : Path) = q := by
      rw [String.empty_append]
    rw [if_pos (by simp), hjoined, h]
    rfl
  · obtain ⟨c, cs, hcs⟩ := List.exists_cons_of_ne_nil (mt String.toList_eq_nil_iff.mp hempty)
    unfold isAbsolute
    split
    · simp [hcs]
    · simp [hcs]

theorem IsFileName.segments (h : IsFileName name) : (⟨name⟩ : Path).segments = [name] :=
  h.segmentsOf

/-- A file is one component more than its directory. -/
theorem components_div (h : IsFileName name) :
    (p / ⟨name⟩).components = p.components ++ [.name name] := by
  have hlast : [name].filterMap Component.ofSegment? = [.name name] := by
    unfold Component.ofSegment?
    simp [h.ne_current, h.ne_parent]
  have hcurrent : (p.segments ++ [name]).head? = some "." ↔ p.segments.head? = some "." := by
    cases p.segments with
    | nil => simp [h.ne_current]
    | cons segment rest => rfl
  unfold components
  simp only [isAbsolute_div h.relative, segments_div h.relative, h.segments,
    List.filterMap_append, hlast, hcurrent, List.append_assoc]

/-! ## Directories above -/

variable {names : List String}

theorem segmentsOf_intercalate (h : ∀ name ∈ names, IsFileName name) :
    segmentsOf (String.intercalate "/" names).toList = names := by
  induction names with
  | nil => rfl
  | cons name names ih =>
    obtain ⟨hname, hnames⟩ := List.forall_mem_cons.mp h
    cases names with
    | nil => rw [String.intercalate_singleton, hname.segmentsOf]
    | cons next names =>
      have hslash : "/".toList = ['/'] := rfl
      rw [String.intercalate_cons_cons, String.toList_append, String.toList_append, hslash,
        List.append_assoc, List.singleton_append, segmentsOf_append_slash, hname.segmentsOf,
        ih hnames]
      rfl

theorem components_ofNames (h : ∀ name ∈ names, IsFileName name) :
    (ofNames names).components = .root :: names.map .name := by
  have htext : (ofNames names).text.toList =
      [] ++ '/' :: (String.intercalate "/" names).toList := String.toList_append
  have habsolute : (ofNames names).isAbsolute = true := by
    unfold isAbsolute
    rw [htext]
    rfl
  have hsegments : (ofNames names).segments = names := by
    have hof : (ofNames names).segments = segmentsOf (ofNames names).text.toList := rfl
    rw [hof, htext, segmentsOf_append_slash, segmentsOf_intercalate h]
    rfl
  have hnames : names.filterMap Component.ofSegment? = names.map .name := by
    rw [← List.filterMap_eq_map]
    refine List.filterMap_congr fun name hname => ?_
    unfold Component.ofSegment?
    simp [(h name hname).ne_current, (h name hname).ne_parent]
  unfold components
  rw [habsolute, hsegments, hnames, if_pos rfl]
  rfl

/-- The directories above one have the fronts of its names, down to none for the root. -/
theorem ancestors_ofNames (h : ∀ name ∈ names, IsFileName name) :
    (ofNames names).ancestors = names.inits.reverse.map ofNames := by
  have hparents : ∀ names : List String,
      ofNames names :: parents ((names.map Component.name).reverse ++ [.root]) =
        names.inits.reverse.map ofNames := by
    intro names
    induction names using List.reverseRecOn with
    | nil => rfl
    | append_singleton front last ih =>
      have hup : ofReversed ((front.map Component.name).reverse ++ [.root]) = ofNames front := by
        have htexts : (front.map Component.name).map Component.text = front := by
          rw [List.map_map]
          exact List.map_id front
        unfold ofReversed
        rw [List.reverse_append, List.reverse_reverse]
        exact congrArg ofNames htexts
      have hinits : (front ++ [last]).inits = front.inits ++ [front ++ [last]] := by
        rw [List.inits_append]
        simp
      have hstep : parents (((front ++ [last]).map Component.name).reverse ++ [.root]) =
          ofNames front :: parents ((front.map Component.name).reverse ++ [.root]) := by
        rw [List.map_append, List.reverse_append, ← hup]
        rfl
      rw [hstep, ih, hinits, List.reverse_append, List.map_append]
      rfl
  unfold ancestors
  rw [components_ofNames h, List.reverse_cons]
  exact hparents names

end Path

namespace Memory

/-! ## Files in memory -/

theorem dirs_ensureDir (s : Memory) (p : Path) (key : List Path.Component) :
    (s.ensureDir p).dirs.get? key =
      if p.components = key then some ((s.dirs.get? key).getD p) else s.dirs.get? key := by
  unfold ensureDir
  simp only [OrderedMap.get?_upsert, Std.LawfulEqOrd.compare_eq_iff_eq]

theorem files_writeFile (s : Memory) (p : Path) (text : String) (key : List Path.Component) :
    (s.writeFile p text).files.get? key =
      if p.components = key then some (((s.files.get? key).map Prod.fst).getD p, text)
      else s.files.get? key := by
  unfold writeFile
  simp only [OrderedMap.get?_upsert, Std.LawfulEqOrd.compare_eq_iff_eq]
  cases s.files.get? key with
  | none => rfl
  | some found => rfl

/-- A file that was just written has its text. -/
theorem file?_writeFile_of_same {s : Memory} {p q : Path} (text : String) (h : p.Same q) :
    (s.writeFile p text).file? q = some text := by
  unfold Path.Same at h
  unfold file?
  rw [files_writeFile, if_pos h]
  rfl

/-- Writing a file leaves the others as they are. -/
theorem file?_writeFile_of_not_same {s : Memory} {p q : Path} (text : String) (h : ¬ p.Same q) :
    (s.writeFile p text).file? q = s.file? q := by
  unfold Path.Same at h
  unfold file?
  rw [files_writeFile, if_neg h]

/-- Memory behind several files. -/
def writeFiles (s : Memory) (files : List (Path × String)) : Memory :=
  files.foldl (fun s file => s.writeFile file.1 file.2) s

/-- Files that are not among several others are as they were. -/
theorem file?_writeFiles_of_forall_not_same {s : Memory} {files : List (Path × String)} {q : Path}
    (h : ∀ file ∈ files, ¬ file.1.Same q) : (s.writeFiles files).file? q = s.file? q := by
  induction files generalizing s with
  | nil => rfl
  | cons file rest ih =>
    have hrest := ih (s := s.writeFile file.1 file.2) fun f hf => h f (List.mem_cons_of_mem _ hf)
    exact hrest.trans (file?_writeFile_of_not_same _ (h file List.mem_cons_self))

/-- Files that are all different are all there afterwards. -/
theorem file?_writeFiles {s : Memory} {files : List (Path × String)}
    (h : files.Pairwise fun f g => ¬ f.1.Same g.1) {path : Path} {text : String}
    (hf : (path, text) ∈ files) : (s.writeFiles files).file? path = some text := by
  induction files generalizing s with
  | nil => cases hf
  | cons file rest ih =>
    obtain ⟨hfirst, hrest⟩ := List.pairwise_cons.mp h
    rcases List.mem_cons.mp hf with rfl | hf
    · have hkept := file?_writeFiles_of_forall_not_same (s := s.writeFile path text)
        fun f hf hsame => hfirst f hf hsame.symm
      exact hkept.trans (file?_writeFile_of_same text rfl)
    · exact ih hrest hf

end Memory

end TypedLayouts
