import Mathlib.Data.List.Basic
import TypedLayouts.Files.Disk
import TypedLayouts.Proofs.Chains
import TypedLayouts.Proofs.Files.Components

/-!
# What is on a disk

For paths that go by names alone, an operation on a disk comes to a change of the nodes: to make
directories puts one at each place on the way, to write a file puts it in its place. What succeeds
also says something about the disk before it, since no file stood in the way and each directory on
the way was there. Below the working directory, a node is always reached by way of directories.
-/

namespace TypedLayouts

namespace Path

/-- A relative path that goes by names alone: without `.`, `..` and a slash at its end. -/
structure IsPlain (p : Path) : Prop where
  nonempty : p.text ≠ ""
  relative : p.isAbsolute = false
  named : ∀ segment ∈ p.segments, segment ≠ "." ∧ segment ≠ ".."
  unclosed : Disk.endsInSlash p = false

instance (p : Path) : Decidable p.IsPlain :=
  decidable_of_iff
    (p.text ≠ "" ∧ p.isAbsolute = false ∧
      (∀ segment ∈ p.segments, segment ≠ "." ∧ segment ≠ "..") ∧ Disk.endsInSlash p = false)
    ⟨fun ⟨hne, hrel, hnamed, hopen⟩ => ⟨hne, hrel, hnamed, hopen⟩,
      fun h => ⟨h.nonempty, h.relative, h.named, h.unclosed⟩⟩

variable {p : Path}

theorem IsPlain.components (h : p.IsPlain) : p.components = p.segments.map .name := by
  have hturns : p.segments.filterMap Component.ofSegment? = p.segments.map .name := by
    refine List.filterMap_eq_map_iff_forall_eq_some.mpr fun segment hsegment => ?_
    obtain ⟨hcurrent, hparent⟩ := h.named segment hsegment
    unfold Component.ofSegment?
    split
    · exact absurd rfl hcurrent
    · exact absurd rfl hparent
    · rfl
  have hhead : p.segments.head? ≠ some "." := by
    intro hhead
    exact (h.named "." (List.mem_of_mem_head? hhead)).1 rfl
  unfold Path.components
  rw [h.relative, if_neg Bool.false_ne_true, if_neg hhead, hturns]
  rfl

theorem mem_intercalate_iff {c sep : Char} (hc : c ≠ sep) (pieces : List (List Char)) :
    c ∈ [sep].intercalate pieces ↔ ∃ piece ∈ pieces, c ∈ piece := by
  induction pieces with
  | nil => simp
  | cons piece rest ih =>
    cases rest with
    | nil => simp
    | cons next rest =>
      rw [List.intercalate_cons_cons, List.mem_append, List.mem_append, ih]
      simp [hc]

/-- Segments keep the characters of a path but for its slashes. -/
theorem exists_mem_segments_iff {c : Char} (hc : c ≠ '/') :
    (∃ segment ∈ p.segments, c ∈ segment.toList) ↔ c ∈ p.text.toList := by
  have htext := mem_intercalate_iff hc (p.text.toList.splitOn '/')
  rw [List.intercalate_splitOn] at htext
  rw [htext]
  unfold segments
  constructor
  · rintro ⟨segment, hsegment, hmem⟩
    obtain ⟨piece, hpiece, rfl⟩ := List.mem_map.mp (List.mem_filter.mp hsegment).1
    rw [String.toList_ofList] at hmem
    exact ⟨piece, hpiece, hmem⟩
  · rintro ⟨piece, hpiece, hmem⟩
    refine ⟨String.ofList piece, List.mem_filter.mpr ⟨List.mem_map_of_mem hpiece, ?_⟩, ?_⟩
    · have hne : piece ≠ [] := List.ne_nil_of_mem hmem
      simpa using hne
    · rw [String.toList_ofList]
      exact hmem

end Path

namespace Disk

variable {d d' : Disk} {here names place parent : List String} {last : String} {p : Path}

/-! ## Limits -/

theorem refusesName_congr (h : d'.limits = d.limits) (name : String) :
    d'.refusesName name = d.refusesName name := by
  unfold refusesName
  rw [h]

theorem refusesPath_congr (h : d'.limits = d.limits) (p : Path) :
    d'.refusesPath p = d.refusesPath p := by
  unfold refusesPath
  rw [h]

/-! ## Nodes -/

theorem node?_of_above_home (h : place <+: d.home) : d.node? place = some .directory :=
  if_pos (List.isPrefixOf_iff_prefix.mpr h)

theorem node?_home : d.node? (d.home ++ []) = some .directory :=
  node?_of_above_home (by simp)

/-- The disk with a node put in its place. -/
def put (d : Disk) (names : List String) (node : Node) : Disk :=
  { d with nodes := d.nodes.insert names node }

theorem home_put (node : Node) : (d.put names node).home = d.home :=
  rfl

theorem node?_put (node : Node) : (d.put names node).node? place =
    if place <+: d.home then some .directory
    else if place = names then some node else d.node? place := by
  unfold node? put OrderedMap.insert
  simp only [OrderedMap.get?_upsert, Std.LawfulEqOrd.compare_eq_iff_eq, List.isPrefixOf_iff_prefix]
  by_cases hhome : place <+: d.home
  · rw [if_pos hhome, if_pos hhome]
  · rw [if_neg hhome, if_neg hhome, if_neg hhome]
    simp only [eq_comm]

/-- Seen from the working directory. -/
theorem node?_put_below (hnode : d.node? (d.home ++ names) ≠ some .directory) (node : Node)
    (front : List String) : (d.put (d.home ++ names) node).node? (d.home ++ front) =
      if front = names then some node else d.node? (d.home ++ front) := by
  rw [node?_put]
  simp only [List.append_cancel_left_eq]
  by_cases habove : d.home ++ front <+: d.home
  · have hne : front ≠ names := by
      rintro rfl
      exact hnode (node?_of_above_home habove)
    rw [if_pos habove, if_neg hne, node?_of_above_home habove]
  · rw [if_neg habove]

/-! ## Ways by names -/

/-- Names lead on from `here` by way of directories, and none of them is too long. -/
def Reaches (d : Disk) (here names : List String) : Prop :=
  ∀ front name, front ++ [name] <+: names →
    d.node? (here ++ front) = some .directory ∧ d.refusesName name = false

theorem reaches_nil : d.Reaches here [] := by
  intro front name hpre
  simp at hpre

theorem reaches_cons_iff {name : String} : d.Reaches here (name :: names) ↔
    d.node? here = some .directory ∧ d.refusesName name = false ∧
      d.Reaches (here ++ [name]) names := by
  constructor
  · intro h
    have hfirst := h [] name (by simp)
    rw [List.append_nil] at hfirst
    refine ⟨hfirst.1, hfirst.2, fun front last hpre => ?_⟩
    rw [List.append_assoc, List.singleton_append]
    exact h (name :: front) last (List.cons_prefix_cons.mpr ⟨rfl, hpre⟩)
  · rintro ⟨hdir, hshort, hrest⟩ front last hpre
    cases front with
    | nil =>
      obtain ⟨rfl, -⟩ := List.cons_prefix_cons.mp hpre
      rw [List.append_nil]
      exact ⟨hdir, hshort⟩
    | cons first front =>
      rw [List.cons_append, List.cons_prefix_cons] at hpre
      obtain ⟨rfl, hpre⟩ := hpre
      have hlater := hrest front last hpre
      rw [List.append_assoc, List.singleton_append] at hlater
      exact hlater

theorem reaches_concat_iff : d.Reaches here (names ++ [last]) ↔
    d.Reaches here names ∧ d.node? (here ++ names) = some .directory ∧
      d.refusesName last = false := by
  constructor
  · intro h
    refine ⟨fun front name hpre => h front name (List.prefix_append_of_prefix hpre), ?_⟩
    exact h names last (List.prefix_refl _)
  · rintro ⟨hnames, hlast⟩ front name hpre
    rcases List.prefix_concat_iff.mp hpre with heq | hpre
    · obtain ⟨rfl, hname⟩ := List.append_inj' heq rfl
      cases hname
      exact hlast
    · exact hnames front name hpre

/-- Everything on the way to where some names lead from the working directory is a directory. -/
theorem Reaches.directory (h : d.Reaches d.home names) (hpre : place <+: d.home ++ names)
    (hne : place ≠ d.home ++ names) : d.node? place = some .directory := by
  rcases List.prefix_or_prefix_of_prefix hpre (List.prefix_append d.home names) with hhome | hhome
  · exact node?_of_above_home hhome
  · obtain ⟨front, rfl⟩ := hhome
    obtain ⟨rest, rfl⟩ := (List.prefix_append_right_inj d.home).mp hpre
    cases rest with
    | nil => exact absurd (by rw [List.append_nil]) hne
    | cons name rest =>
      refine (h front name ⟨rest, ?_⟩).1
      rw [List.append_assoc, List.singleton_append]

theorem Reaches.short (h : d.Reaches here names) : ∀ name ∈ names, d.refusesName name = false := by
  intro name hmem
  obtain ⟨front, rest, rfl⟩ := List.append_of_mem hmem
  refine (h front name ⟨rest, ?_⟩).2
  rw [List.append_assoc, List.singleton_append]

theorem Reaches.mono (h : d.Reaches here names)
    (hdir : ∀ place, d.node? place = some .directory → d'.node? place = some .directory)
    (hlimits : d'.limits = d.limits) : d'.Reaches here names := by
  intro front name hpre
  obtain ⟨hfront, hname⟩ := h front name hpre
  refine ⟨hdir _ hfront, ?_⟩
  rw [refusesName_congr hlimits]
  exact hname

theorem walk_eq_ok_iff (hnamed : ∀ name ∈ names, name ≠ "." ∧ name ≠ "..") :
    d.walk here names = .ok place ↔ place = here ++ names ∧ d.Reaches here names := by
  induction names generalizing here with
  | nil =>
    rw [List.append_nil]
    constructor
    · intro h
      cases h
      exact ⟨rfl, reaches_nil⟩
    · rintro ⟨rfl, -⟩
      rfl
  | cons name rest ih =>
    rw [List.forall_mem_cons] at hnamed
    rw [reaches_cons_iff]
    unfold walk
    split
    · rename_i hnone
      simp [hnone]
    · rename_i hfile
      simp [hfile]
    · rename_i hdir
      rw [if_neg hnamed.1.1, if_neg hnamed.1.2]
      split
      · rename_i hlong
        simp [hlong]
      · rename_i hshort
        rw [ih hnamed.2]
        simp [hdir, hshort]

theorem leadsToDirectory_iff (hnamed : ∀ name ∈ names, name ≠ "." ∧ name ≠ "..") :
    d.leadsToDirectory here names ↔
      d.Reaches here names ∧ d.node? (here ++ names) = some .directory := by
  unfold leadsToDirectory
  split
  · rename_i place hwalk
    obtain ⟨rfl, hreach⟩ := (walk_eq_ok_iff hnamed).mp hwalk
    simp [hreach]
  · rename_i hwalk
    have hnot : ¬ d.Reaches here names := by
      intro hreach
      rw [(walk_eq_ok_iff hnamed).mpr ⟨rfl, hreach⟩] at hwalk
      cases hwalk
    simp [hnot]

/-! ## Directories that are made -/

theorem locate_ok (h : d.locate here names = .ok (parent, last)) :
    ∃ front, names = front ++ [last] ∧ d.walk here front = .ok parent ∧
      d.node? parent = some .directory := by
  unfold locate at h
  split at h
  · cases h
  rename_i hlast
  obtain ⟨directory, hwalk, h⟩ := bind_eq_ok_iff.mp h
  split at h
  · cases h
  · cases h
  · rename_i hnode
    cases h
    obtain ⟨front, rfl⟩ := List.getLast?_eq_some_iff.mp hlast
    rw [List.dropLast_concat] at hwalk
    exact ⟨front, rfl, hwalk, hnode⟩

/-- The same where the names are only names, and the last is not too long. -/
theorem reaches_of_locate (hnamed : ∀ name ∈ names, name ≠ "." ∧ name ≠ "..")
    (h : d.locate here names = .ok (parent, last)) (hshort : ¬ d.refusesName last = true) :
    d.Reaches here names ∧ parent ++ [last] = here ++ names := by
  obtain ⟨front, rfl, hwalk, hdir⟩ := locate_ok h
  obtain ⟨hfront, -⟩ := List.forall_mem_append.mp hnamed
  obtain ⟨rfl, hreach⟩ := (walk_eq_ok_iff hfront).mp hwalk
  refine ⟨reaches_concat_iff.mpr ⟨hreach, hdir, ?_⟩, List.append_assoc ..⟩
  simpa using hshort

theorem makeDir_ok (hnamed : ∀ name ∈ names, name ≠ "." ∧ name ≠ "..")
    (h : d.makeDir here names = .ok d') :
    d.Reaches here names ∧ d.node? (here ++ names) = none ∧
      d' = d.put (here ++ names) .directory := by
  unfold makeDir at h
  simp only [bind_eq_ok_iff, guard_eq_ok_iff] at h
  obtain ⟨⟨parent, last⟩, hlocate, -, hshort, h⟩ := h
  obtain ⟨hreach, hplace⟩ := reaches_of_locate hnamed hlocate hshort
  rw [hplace] at h
  split at h
  · cases h
  · rename_i hnone
    cases h
    exact ⟨hreach, hnone, rfl⟩

/-- `d'` is `d` with directories at each place that some names go by, none of which was a file. -/
structure Makes (d : Disk) (names : List String) (d' : Disk) : Prop where
  home : d'.home = d.home
  limits : d'.limits = d.limits
  node? : ∀ place, d'.node? place =
    if place <+: d.home ++ names then some .directory else d.node? place
  free : ∀ place text, place <+: d.home ++ names → d.node? place ≠ some (.file text)
  short : ∀ name ∈ names, d.refusesName name = false

theorem Makes.of_directory (h : d.Reaches d.home names)
    (hdir : d.node? (d.home ++ names) = some .directory) : d.Makes names d := by
  have hall : ∀ place, place <+: d.home ++ names → d.node? place = some .directory := by
    intro place hpre
    by_cases hplace : place = d.home ++ names
    · rw [hplace]
      exact hdir
    · exact h.directory hpre hplace
  refine ⟨rfl, rfl, fun place => ?_, fun place text hpre => ?_, h.short⟩
  · split
    · rename_i hpre
      exact hall place hpre
    · rfl
  · rw [hall place hpre]
    exact nofun

theorem Makes.of_put (h : d.Reaches d.home names) (hnone : d.node? (d.home ++ names) = none) :
    d.Makes names (d.put (d.home ++ names) .directory) := by
  refine ⟨rfl, rfl, fun place => ?_, fun place text hpre => ?_, h.short⟩
  · rw [node?_put]
    by_cases hhome : place <+: d.home
    · rw [if_pos hhome, if_pos (List.prefix_append_of_prefix hhome)]
    rw [if_neg hhome]
    by_cases hplace : place = d.home ++ names
    · rw [if_pos hplace, if_pos (hplace ▸ List.prefix_refl _)]
    rw [if_neg hplace]
    split
    · rename_i hpre
      exact h.directory hpre hplace
    · rfl
  · by_cases hplace : place = d.home ++ names
    · rw [hplace, hnone]
      exact nofun
    · rw [h.directory hpre hplace]
      exact nofun

theorem Makes.trans {front : List String} {d'' : Disk} (h : d.Makes front d')
    (h' : d'.Makes names d'') (hpre : front <+: names) : d.Makes names d'' := by
  have hlonger : ∀ place, place <+: d.home ++ front → place <+: d.home ++ names :=
    fun place hplace => hplace.trans ((List.prefix_append_right_inj _).mpr hpre)
  refine ⟨h'.home.trans h.home, h'.limits.trans h.limits, fun place => ?_,
    fun place text hplace hfile => ?_, fun name hname => ?_⟩
  · rw [h'.node?, h.node?, h.home]
    by_cases hplace : place <+: d.home ++ names
    · rw [if_pos hplace, if_pos hplace]
    · rw [if_neg hplace, if_neg hplace, if_neg (mt (hlonger place) hplace)]
  · by_cases hmade : place <+: d.home ++ front
    · exact h.free place text hmade hfile
    · refine h'.free place text (h.home ▸ hplace) ?_
      rw [h.node?, if_neg hmade, hfile]
  · rw [← refusesName_congr h.limits]
    exact h'.short name hname

/-- Seen from the working directory. -/
theorem Makes.node?_below (h : d.Makes names d') (front : List String) :
    d'.node? (d.home ++ front) =
      if front <+: names then some .directory else d.node? (d.home ++ front) := by
  simp only [h.node?, List.prefix_append_right_inj]

theorem Makes.directory (h : d.Makes names d') (hdir : d.node? place = some .directory) :
    d'.node? place = some .directory := by
  rw [h.node?, hdir, ite_self]

theorem above_isPrefix (names : List String) : above names <+: names := by
  unfold above
  dsimp only
  split
  · exact List.nil_prefix
  · refine (List.dropLast_prefix _).trans ?_
    rw [← List.reverse_suffix, List.reverse_reverse]
    exact List.dropWhile_suffix _

theorem makes_of_makeDir (hnamed : ∀ name ∈ names, name ≠ "." ∧ name ≠ "..")
    (h : d.makeDir d.home names = .ok d') : d.Makes names d' := by
  obtain ⟨hreach, hnone, rfl⟩ := makeDir_ok hnamed h
  exact .of_put hreach hnone

/-- Where a directory cannot be made, it may be there already. -/
theorem makes_of_leadsToDirectory {e : FileError}
    (hnamed : ∀ name ∈ names, name ≠ "." ∧ name ≠ "..")
    (h : (if d.leadsToDirectory d.home names then .ok d else .error e) = Except.ok d') :
    d.Makes names d' := by
  split at h
  · rename_i hleads
    cases h
    obtain ⟨hreach, hdir⟩ := (leadsToDirectory_iff hnamed).mp hleads
    exact .of_directory hreach hdir
  · cases h

theorem makes_nil : d.Makes [] d :=
  .of_directory reaches_nil node?_home

theorem makeDirs_ok {n : Nat} (hnamed : ∀ name ∈ names, name ≠ "." ∧ name ≠ "..")
    (h : d.makeDirs d.home n names = .ok d') : d.Makes names d' := by
  induction n generalizing d d' names with
  | zero =>
    cases names with
    | nil =>
      cases h
      exact makes_nil
    | cons name rest => cases h
  | succ n ih =>
    cases names with
    | nil =>
      cases h
      exact makes_nil
    | cons name rest =>
      unfold makeDirs at h
      split at h
      · rename_i hfirst
        cases h
        exact makes_of_makeDir hnamed hfirst
      · -- The directories above are made first, and then the attempt is repeated.
        split at h
        · cases h
        · rename_i habove
          have habovePre := above_isPrefix (name :: rest)
          have hup := ih (fun n hn => hnamed n (habovePre.subset hn)) habove
          refine hup.trans ?_ habovePre
          rw [← hup.home] at h
          split at h
          · rename_i hsecond
            cases h
            exact makes_of_makeDir hnamed hsecond
          · exact makes_of_leadsToDirectory hnamed h
      · exact makes_of_leadsToDirectory hnamed h

/-! ## Operations on plain paths -/

theorem checkText_ok (h : d.checkText p = .ok ()) :
    '\x00' ∉ p.text.toList ∧ d.refusesPath p = false := by
  unfold checkText at h
  rw [guard_eq_ok_iff] at h
  obtain ⟨hnul, h⟩ := h
  split at h
  · cases h
  · rename_i hlong
    exact ⟨by simpa using hnul, by simpa using hlong⟩

theorem checkText_eq_ok (hclean : '\x00' ∉ p.text.toList) (hpath : d.refusesPath p = false) :
    d.checkText p = .ok () := by
  unfold checkText
  rw [if_neg (by simpa using hclean), if_neg (by simp [hpath])]
  rfl

theorem ensureDir_ok (hp : p.IsPlain) (h : d.ensureDir p = .ok d') :
    '\x00' ∉ p.text.toList ∧ d.Makes p.segments d' := by
  unfold ensureDir start at h
  rw [hp.relative, if_neg Bool.false_ne_true] at h
  obtain ⟨_, hcheck, hmade⟩ := bind_eq_ok_iff.mp h
  exact ⟨(checkText_ok hcheck).1, makeDirs_ok hp.named hmade⟩

theorem writeFile_ok {text : String} (hp : p.IsPlain) (h : d.writeFile p text = .ok d') :
    '\x00' ∉ p.text.toList ∧ d.Reaches d.home p.segments ∧
      d.node? (d.home ++ p.segments) ≠ some .directory ∧
      d' = d.put (d.home ++ p.segments) (.file text) := by
  unfold writeFile start at h
  rw [hp.relative, if_neg Bool.false_ne_true] at h
  simp only [bind_eq_ok_iff, guard_eq_ok_iff] at h
  obtain ⟨_, hcheck, -, -, ⟨parent, last⟩, hlocate, -, hshort, hnode, h⟩ := h
  obtain ⟨hreach, hplace⟩ := reaches_of_locate hp.named hlocate hshort
  rw [hplace] at hnode h
  cases h
  exact ⟨(checkText_ok hcheck).1, hreach, hnode, rfl⟩

/-- What is below the working directory is reached by way of directories, and has no name that no
file system takes. -/
structure Rooted (d : Disk) : Prop where
  reaches : ∀ names, d.node? (d.home ++ names) ≠ none → d.Reaches d.home names
  clean : ∀ names, d.node? (d.home ++ names) ≠ none → ∀ name ∈ names, '\x00' ∉ name.toList

theorem clean_of_text (h : '\x00' ∉ p.text.toList) :
    ∀ segment ∈ p.segments, '\x00' ∉ segment.toList := by
  intro segment hsegment hmem
  exact h ((Path.exists_mem_segments_iff (by decide)).mp ⟨segment, hsegment, hmem⟩)

theorem Rooted.of_makes (hd : d.Rooted) (hclean : ∀ name ∈ names, '\x00' ∉ name.toList)
    (h : d.Makes names d') : d'.Rooted := by
  have hnode : ∀ front,
      front <+: names ∨ d.node? (d.home ++ front) = d'.node? (d.home ++ front) := by
    intro front
    rw [h.node?_below]
    by_cases hfront : front <+: names
    · exact .inl hfront
    · exact .inr (if_neg hfront).symm
  constructor
  · intro front hthere
    rw [h.home] at hthere ⊢
    rcases hnode front with hfront | hsame
    · intro above name hpre
      have habove : above ++ [name] <+: names := hpre.trans hfront
      have hshort := h.short name (habove.mem (List.mem_append_right above List.mem_cons_self))
      rw [h.node?_below, if_pos ((List.prefix_append above [name]).trans habove),
        refusesName_congr h.limits]
      exact ⟨rfl, hshort⟩
    · rw [← hsame] at hthere
      exact (hd.reaches front hthere).mono (fun place => h.directory) h.limits
  · intro front hthere name hmem
    rw [h.home] at hthere
    rcases hnode front with hfront | hsame
    · exact hclean name (hfront.mem hmem)
    · rw [← hsame] at hthere
      exact hd.clean front hthere name hmem

theorem Rooted.put (hd : d.Rooted) (hclean : ∀ name ∈ names, '\x00' ∉ name.toList)
    (hreach : d.Reaches d.home names) {node : Node}
    (hnode : d.node? (d.home ++ names) ≠ some .directory) :
    (d.put (d.home ++ names) node).Rooted := by
  have hdir : ∀ place, d.node? place = some .directory →
      (d.put (d.home ++ names) node).node? place = some .directory := by
    intro place hplace
    rw [node?_put]
    by_cases heq : place = d.home ++ names
    · rw [heq] at hplace
      exact absurd hplace hnode
    · rw [if_neg heq, hplace, ite_self]
  constructor
  · intro front hfront
    by_cases heq : front = names
    · rw [heq]
      exact hreach.mono hdir rfl
    · rw [home_put, node?_put_below hnode, if_neg heq] at hfront
      exact (hd.reaches front hfront).mono hdir rfl
  · intro front hfront
    by_cases heq : front = names
    · rw [heq]
      exact hclean
    · rw [home_put, node?_put_below hnode, if_neg heq] at hfront
      exact hd.clean front hfront

theorem lookUp_ok {node : Node} (hp : p.IsPlain) (h : d.lookUp p = .ok node) :
    d.node? (d.home ++ p.segments) = some node := by
  unfold lookUp start at h
  rw [hp.relative, if_neg Bool.false_ne_true] at h
  simp only [bind_eq_ok_iff, guard_eq_ok_iff] at h
  obtain ⟨_, -, -, place, hwalk, h⟩ := h
  obtain ⟨rfl, -⟩ := (walk_eq_ok_iff hp.named).mp hwalk
  split at h
  · cases h
  · rename_i hfile
    split at h
    · cases h
    · cases h
      exact hfile
  · rename_i hdir
    cases h
    exact hdir

theorem lookUp_of_node? {node : Node} (hd : d.Rooted) (hp : p.IsPlain)
    (hpath : d.refusesPath p = false) (h : d.node? (d.home ++ p.segments) = some node) :
    d.lookUp p = .ok node := by
  have hthere : d.node? (d.home ++ p.segments) ≠ none := by
    rw [h]
    exact nofun
  have hnul : '\x00' ∉ p.text.toList := by
    rw [← Path.exists_mem_segments_iff (by decide)]
    rintro ⟨segment, hsegment, hmem⟩
    exact hd.clean _ hthere segment hsegment hmem
  have hwalk := (walk_eq_ok_iff hp.named).mpr ⟨rfl, hd.reaches _ hthere⟩
  unfold lookUp start
  rw [hp.relative, if_neg Bool.false_ne_true]
  simp only [bind_eq_ok_iff, guard_eq_ok_iff]
  refine ⟨(), checkText_eq_ok hnul hpath, by simpa using hp.nonempty, _, hwalk, ?_⟩
  rw [h]
  cases node with
  | directory => rfl
  | file text => exact if_neg (by simp [hp.unclosed])

theorem readText_ok_iff {text : String} (hd : d.Rooted) (hp : p.IsPlain)
    (hpath : d.refusesPath p = false) :
    d.readText p = .ok text ↔ d.node? (d.home ++ p.segments) = some (.file text) := by
  unfold readText
  rw [bind_eq_ok_iff]
  constructor
  · rintro ⟨node, hlook, h⟩
    rw [lookUp_ok hp hlook]
    cases node with
    | directory => cases h
    | file found =>
      cases h
      rfl
  · intro hfile
    exact ⟨_, lookUp_of_node? hd hp hpath hfile, rfl⟩

end Disk

end TypedLayouts
