import Mathlib.Data.List.Nodup
import TypedLayouts.Proofs.Toml.Sections

/-!
# Tables of a document

What a document of lines and sections is read as. As long as no key comes twice in a section, its
tables have the keys in the order of the lines; the sections of a repeated header come together as
the tables of its key. In any case, whatever a document has is found in what it is read as.
-/

namespace TypedLayouts.Toml

variable {entries : Entries} {key : String}

/-! ## Entries -/

namespace Entries

theorem find?_eq_none_iff : entries.find? key = none ↔ key ∉ entries.map Prod.fst := by
  unfold find?
  rw [Option.map_eq_none_iff, List.find?_eq_none]
  simp only [decide_eq_true_eq, List.mem_map, not_exists, not_and]

theorem key_of_find? {e : String × Node}
    (h : List.find? (fun e => decide (e.1 = key)) entries = some e) : e.1 = key := by
  have hkey := List.find?_some h
  exact of_decide_eq_true hkey

theorem mem_of_find? {node : Node} (h : entries.find? key = some node) : (key, node) ∈ entries := by
  obtain ⟨e, hfind, rfl⟩ := Option.map_eq_some_iff.mp h
  rw [← key_of_find? hfind]
  exact List.mem_of_find?_eq_some hfind

theorem find?_append (more : Entries) (name : String) :
    find? (entries ++ more) name = (entries.find? name).or (find? more name) := by
  unfold find?
  rw [List.find?_append, Option.map_or]

theorem find?_single (name : String) (node : Node) :
    find? [(key, node)] name = if key = name then some node else none := by
  unfold find?
  rw [List.find?_singleton]
  split <;> simp_all

theorem erase_eq_self (h : entries.find? key = none) : entries.erase key = entries := by
  refine List.filter_eq_self.mpr fun e he => decide_eq_true fun hkey => ?_
  exact find?_eq_none_iff.mp h (List.mem_map.mpr ⟨e, he, hkey⟩)

/-- A node that takes the place of the one at its key is found there. -/
theorem find?_erase_append (name : String) (node : Node) :
    find? (entries.erase key ++ [(key, node)]) name =
      if key = name then some node else entries.find? name := by
  rw [find?_append, find?_single]
  split
  · rename_i hname
    subst hname
    have hnone : (entries.erase key).find? key = none := by
      rw [find?_eq_none_iff, List.mem_map]
      rintro ⟨e, he, hkey⟩
      exact of_decide_eq_true (List.mem_filter.mp he).2 hkey
    rw [hnone, Option.none_or]
  · rename_i hname
    rw [Option.or_none]
    unfold find? erase
    rw [List.find?_filter]
    congr 2
    funext e
    by_cases he : e.1 = name <;> simp [he, Ne.symm hname]

theorem find?_append_single (h : entries.find? key = none) (name : String) (node : Node) :
    find? (entries ++ [(key, node)]) name =
      if key = name then some node else entries.find? name := by
  calc find? (entries ++ [(key, node)]) name
      = find? (entries.erase key ++ [(key, node)]) name := by rw [erase_eq_self h]
    _ = if key = name then some node else entries.find? name := find?_erase_append name node

theorem find?_put (h : (entries.find? key).isSome) (name : String) (node : Node) :
    (entries.put key node).find? name = if key = name then some node else entries.find? name := by
  have hany : (entries.any fun e => e.1 = key) = true := by
    obtain ⟨found, hfound⟩ := Option.isSome_iff_exists.mp h
    exact List.any_eq_true.mpr ⟨_, mem_of_find? hfound, decide_eq_true rfl⟩
  have hsame : (fun e : String × Node => decide (e.1 = name)) ∘
      (fun e => if e.1 = key then (key, node) else e) = fun e => decide (e.1 = name) := by
    funext e
    by_cases he : e.1 = key <;> simp [he]
  unfold put
  rw [if_pos hany]
  unfold find? at h ⊢
  rw [List.find?_map, hsame, Option.map_map]
  split
  · rename_i hname
    subst hname
    obtain ⟨e, he⟩ := Option.isSome_iff_exists.mp (Option.isSome_map.symm.trans h)
    rw [he, Option.map_some, Function.comp_apply, if_pos (key_of_find? he)]
  · rename_i hname
    refine Option.map_congr fun e he => ?_
    rw [Function.comp_apply, if_neg (key_of_find? he ▸ Ne.symm hname)]

/-- What stands at the end is changed there. -/
theorem put_append_single (h : entries.find? key = none) (node changed : Node) :
    put (entries ++ [(key, node)]) key changed = entries ++ [(key, changed)] := by
  have hmap : entries.map (fun e => if e.1 = key then (key, changed) else e) = entries := by
    refine List.map_congr_left (fun e he => if_neg fun hkey => ?_) |>.trans (List.map_id entries)
    exact find?_eq_none_iff.mp h (List.mem_map.mpr ⟨e, he, hkey⟩)
  unfold put
  rw [List.map_append, hmap]
  simp

end Entries

/-! ## Tables -/

theorem addPair_key (here : Origin) (node : Node) :
    addPair here entries [] key node =
      if (entries.find? key).isSome then none else some (entries ++ [(key, node)]) := by
  unfold addPair changeAt
  simp

theorem addPairs_lines (here : Origin) {ls : List KeyLine} {entries : Entries}
    (h : (entries.map Prod.fst ++ ls.map KeyLine.key).Nodup) :
    addPairs here entries (ls.map KeyLine.pair) = some (entries ++ ls.map KeyLine.entry) := by
  induction ls generalizing entries with
  | nil => exact congrArg some (List.append_nil entries).symm
  | cons line ls ih =>
    have hnew : entries.find? line.key = none := by
      rw [Entries.find?_eq_none_iff]
      intro hmem
      exact List.disjoint_of_nodup_append h hmem List.mem_cons_self
    have hmore : (List.map Prod.fst (entries ++ [line.entry]) ++ ls.map KeyLine.key).Nodup := by
      rw [List.map_append, List.append_assoc]
      exact h
    have hadd : addPair here entries [] line.key line.node = some (entries ++ [line.entry]) := by
      rw [addPair_key, hnew]
      rfl
    have hrest := ih hmore
    rw [List.append_assoc] at hrest
    rw [List.map_cons, List.map_cons]
    change (addPair here entries [] line.key line.node).bind _ = _
    rw [hadd]
    exact hrest

/-- Lines that are added stand behind what was there. -/
theorem eq_of_addPairs (here : Origin) {ls : List KeyLine} {entries changed : Entries}
    (h : addPairs here entries (ls.map KeyLine.pair) = some changed) :
    changed = entries ++ ls.map KeyLine.entry := by
  induction ls generalizing entries with
  | nil =>
    obtain rfl := Option.some.inj h
    exact (List.append_nil entries).symm
  | cons line ls ih =>
    change (addPair here entries [] line.key line.node).bind _ = _ at h
    rw [addPair_key] at h
    split at h
    · cases h
    · rw [ih h, List.append_assoc]
      rfl

section Tables

variable {ls : List KeyLine}

theorem addPairs_empty (h : (ls.map KeyLine.key).Nodup) :
    addPairs .header [] (ls.map KeyLine.pair) = some (ls.map KeyLine.entry) :=
  addPairs_lines .header h

/-- A table with a header of its own. -/
theorem addTo_table (hkey : key ∉ entries.map Prod.fst) (hlines : (ls.map KeyLine.key).Nodup) :
    Section.addTo entries ⟨false, key, ls⟩ =
      some (entries ++ [(key, .table .header (ls.map KeyLine.entry))]) := by
  have hnone := Entries.find?_eq_none_iff.mpr hkey
  change addTable entries [] key (ls.map KeyLine.pair) = _
  unfold addTable changeAt
  simp only [hnone, Entries.erase_eq_self hnone, Option.bind_eq_bind, Option.bind_some,
    addPairs_empty hlines]
  rfl

/-- The first table of a repeated header. -/
theorem addTo_first (hkey : key ∉ entries.map Prod.fst) (hlines : (ls.map KeyLine.key).Nodup) :
    Section.addTo entries ⟨true, key, ls⟩ =
      some (entries ++ [(key, .tables [.table .header (ls.map KeyLine.entry)])]) := by
  have hnone := Entries.find?_eq_none_iff.mpr hkey
  change addTableItem entries [] key (ls.map KeyLine.pair) = _
  unfold addTableItem changeAt
  simp only [hnone, addPairs_empty hlines]
  rfl

/-- A further table of a repeated header. -/
theorem addTo_further {items : List Node} (hkey : key ∉ entries.map Prod.fst)
    (hlines : (ls.map KeyLine.key).Nodup) :
    Section.addTo (entries ++ [(key, .tables items)]) ⟨true, key, ls⟩ =
      some (entries ++ [(key, .tables (items ++ [.table .header (ls.map KeyLine.entry)]))]) := by
  have hnone := Entries.find?_eq_none_iff.mpr hkey
  have hfind : Entries.find? (entries ++ [(key, .tables items)]) key = some (.tables items) := by
    rw [Entries.find?_append_single hnone, if_pos rfl]
  change addTableItem _ [] key (ls.map KeyLine.pair) = _
  unfold addTableItem changeAt
  simp only [hfind, addPairs_empty hlines, Entries.put_append_single hnone]
  rfl

end Tables

theorem addTo_furthers {groups : List (List KeyLine)} (items : List Node)
    (hkey : key ∉ entries.map Prod.fst) (hlines : ∀ ls ∈ groups, (ls.map KeyLine.key).Nodup) :
    (groups.map (Section.mk true key)).foldlM Section.addTo (entries ++ [(key, .tables items)]) =
      some (entries ++ [(key, .tables (items ++ groups.map fun ls =>
        .table .header (ls.map KeyLine.entry)))]) := by
  induction groups generalizing items with
  | nil =>
    rw [List.map_nil, List.map_nil, List.append_nil]
    rfl
  | cons ls groups ih =>
    obtain ⟨hfirst, hrest⟩ := List.forall_mem_cons.mp hlines
    rw [List.map_cons, List.foldlM_cons, addTo_further hkey hfirst]
    refine (ih _ hrest).trans ?_
    rw [List.append_assoc]
    rfl

/-- The tables of a repeated header. -/
theorem addTo_tables {ls : List KeyLine} {groups : List (List KeyLine)}
    (hkey : key ∉ entries.map Prod.fst)
    (hlines : ∀ lines ∈ ls :: groups, (lines.map KeyLine.key).Nodup) :
    ((ls :: groups).map (Section.mk true key)).foldlM Section.addTo entries =
      some (entries ++ [(key, .tables ((ls :: groups).map fun lines =>
        .table .header (lines.map KeyLine.entry)))]) := by
  obtain ⟨hfirst, hrest⟩ := List.forall_mem_cons.mp hlines
  rw [List.map_cons, List.foldlM_cons, addTo_first hkey hfirst]
  exact addTo_furthers _ hkey hrest

/-! ## What a document has is found in it -/

/-- The table of a section is found under its key, with all lines of the section. -/
def Section.Within (s : Section) (entries : Entries) : Prop :=
  if s.repeated then
    ∃ items table, entries.find? s.key = some (.tables items) ∧ .table .header table ∈ items ∧
      ∀ line ∈ s.lines, line.entry ∈ table
  else ∃ table, entries.find? s.key = some (.table .header table) ∧
    ∀ line ∈ s.lines, line.entry ∈ table

/-- What a section does to a document: it makes the table of its key, which is new or only implied,
or it adds to the tables of its key. Nothing else changes. -/
inductive Section.Adds (s : Section) (entries changed : Entries) : Prop where
  /-- A table with a header of its own. -/
  | table (start : Entries) (hrepeated : s.repeated = false)
      (hbefore : entries.find? s.key = none ∨
        entries.find? s.key = some (.table .implied start))
      (hafter : ∀ name, changed.find? name =
        if s.key = name then some (.table .header (start ++ s.lines.map KeyLine.entry))
        else entries.find? name)
  /-- One more table of a repeated header. -/
  | item (items : List Node) (hrepeated : s.repeated = true)
      (hbefore : entries.find? s.key = none ∨ entries.find? s.key = some (.tables items))
      (hafter : ∀ name, changed.find? name =
        if s.key = name then some (.tables (items ++ [.table .header (s.lines.map KeyLine.entry)]))
        else entries.find? name)

theorem adds_of_addTo {s : Section} {changed : Entries} (h : s.addTo entries = some changed) :
    s.Adds entries changed := by
  obtain ⟨repeated, key, ls⟩ := s
  cases repeated with
  | false =>
    change addTable entries [] key (ls.map KeyLine.pair) = _ at h
    unfold addTable changeAt at h
    obtain ⟨start, hstart, h⟩ := Option.bind_eq_some_iff.mp h
    obtain ⟨added, hadded, h⟩ := Option.bind_eq_some_iff.mp h
    obtain rfl := Option.some.inj h
    obtain rfl := eq_of_addPairs .header hadded
    refine .table start rfl ?_ fun name => ?_
    · split at hstart
      · rename_i hnone
        exact .inl hnone
      · rename_i start' hfind
        obtain rfl := Option.some.inj hstart
        exact .inr hfind
      · cases hstart
    · exact Entries.find?_erase_append name _
  | true =>
    change addTableItem entries [] key (ls.map KeyLine.pair) = _ at h
    unfold addTableItem changeAt at h
    dsimp only at h
    split at h
    · rename_i hnone
      obtain ⟨added, hadded, h⟩ := Option.bind_eq_some_iff.mp h
      obtain rfl := Option.some.inj h
      obtain rfl := eq_of_addPairs .header hadded
      exact .item [] rfl (.inl hnone) fun name => Entries.find?_append_single hnone name _
    · rename_i items hfind
      obtain ⟨added, hadded, h⟩ := Option.bind_eq_some_iff.mp h
      obtain rfl := Option.some.inj h
      obtain rfl := eq_of_addPairs .header hadded
      exact .item items rfl (.inr hfind) fun name =>
        Entries.find?_put (Option.isSome_of_eq_some hfind) name _
    · cases h

section Kept

variable {s t : Section} {changed : Entries}

theorem within_of_adds (h : s.Adds entries changed) : s.Within changed := by
  unfold Section.Within
  cases h with
  | table start hrepeated _ hafter =>
    rw [hrepeated, if_neg Bool.false_ne_true]
    refine ⟨_, (hafter s.key).trans (if_pos rfl), fun line hline => ?_⟩
    exact List.mem_append_right start (List.mem_map_of_mem hline)
  | item items hrepeated _ hafter =>
    rw [hrepeated, if_pos rfl]
    refine ⟨_, s.lines.map KeyLine.entry, (hafter s.key).trans (if_pos rfl), ?_,
      fun line hline => List.mem_map_of_mem hline⟩
    exact List.mem_append_right items List.mem_cons_self

theorem Section.Within.isSome (h : s.Within entries) : (entries.find? s.key).isSome := by
  unfold Section.Within at h
  split at h
  · obtain ⟨_, _, hfind, -⟩ := h
    exact Option.isSome_of_eq_some hfind
  · obtain ⟨_, hfind, -⟩ := h
    exact Option.isSome_of_eq_some hfind

theorem isSome_of_adds (h : s.Adds entries changed) (hkey : (entries.find? key).isSome) :
    (changed.find? key).isSome := by
  cases h with
  | table _ _ _ hafter | item _ _ _ hafter =>
    rw [hafter]
    split
    · rfl
    · exact hkey

/-- What a section made stays when another section is added. -/
theorem Section.Within.adds (ht : t.Within entries) (h : s.Adds entries changed) :
    t.Within changed := by
  unfold Section.Within at ht ⊢
  by_cases hkey : s.key = t.key
  · rw [← hkey] at ht ⊢
    cases h with
    | table start _ hbefore _ =>
      -- Such a section is refused where a section has been already.
      exfalso
      split at ht
      · obtain ⟨items, _, hfind, -⟩ := ht
        simp [hfind] at hbefore
      · obtain ⟨_, hfind, -⟩ := ht
        simp [hfind] at hbefore
    | item items _ hbefore hafter =>
      rw [hafter, if_pos rfl]
      split at ht
      · rename_i hrepeated
        obtain ⟨items', table, hfind, hmem, hlines⟩ := ht
        obtain rfl : items' = items := by simpa [hfind] using hbefore
        rw [if_pos hrepeated]
        exact ⟨_, table, rfl, List.mem_append_left _ hmem, hlines⟩
      · obtain ⟨_, hfind, -⟩ := ht
        simp [hfind] at hbefore
  · have hsame : changed.find? t.key = entries.find? t.key := by
      cases h with
      | table _ _ _ hafter | item _ _ _ hafter => exact (hafter t.key).trans (if_neg hkey)
    rw [hsame]
    exact ht

end Kept

/-- What sections are added to has their tables in the end, and what it had before. -/
theorem of_addSections {sections : List Section} {entries changed : Entries}
    (h : sections.foldlM Section.addTo entries = some changed) :
    (∀ s ∈ sections, s.Within changed) ∧ (∀ s : Section, s.Within entries → s.Within changed) ∧
      ∀ key, (entries.find? key).isSome → (changed.find? key).isSome := by
  induction sections generalizing entries with
  | nil =>
    obtain rfl := Option.some.inj h
    exact ⟨nofun, fun _ => id, fun _ => id⟩
  | cons s sections ih =>
    rw [List.foldlM_cons] at h
    obtain ⟨between, hs, hsections⟩ := Option.bind_eq_some_iff.mp h
    have hadds := adds_of_addTo hs
    obtain ⟨hwithin, hkept, hkeys⟩ := ih hsections
    refine ⟨List.forall_mem_cons.mpr ⟨hkept s (within_of_adds hadds), hwithin⟩,
      fun t ht => hkept t (ht.adds hadds), fun key hkey => hkeys key (isSome_of_adds hadds hkey)⟩

/-- The lines and the sections of a document are found in what it is read as. -/
theorem of_ofText_text {d : Document} {entries : Entries} (h : ofText d.text = some entries) :
    (∀ line ∈ d.top, (entries.find? line.key).isSome) ∧ ∀ s ∈ d.sections, s.Within entries := by
  rw [ofText_text] at h
  obtain ⟨start, hstart, hsections⟩ := Option.bind_eq_some_iff.mp h
  obtain rfl := eq_of_addPairs .header hstart
  obtain ⟨hwithin, -, hkeys⟩ := of_addSections hsections
  refine ⟨fun line hline => hkeys line.key ?_, hwithin⟩
  rw [List.nil_append, Option.isSome_iff_ne_none, ne_eq, Entries.find?_eq_none_iff, not_not,
    List.map_map]
  exact List.mem_map_of_mem hline

end TypedLayouts.Toml
