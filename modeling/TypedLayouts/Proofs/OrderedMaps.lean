import Mathlib.Data.List.Nodup
import Mathlib.Data.List.Perm.Basic
import Mathlib.Data.List.Sort
import TypedLayouts.OrderedMap

/-!
# Equal maps

A map has its entries in one order only. So maps are equal when they have the same entries, in
whatever order these came, and when every look-up gives the same.
-/

namespace TypedLayouts

namespace OrderedMap

variable {κ α : Type} [Ord κ]

/-- Maps are equal when their entries are. -/
theorem ext {m m' : OrderedMap κ α} (h : m.entries = m'.entries) : m = m' := by
  cases m
  cases m'
  cases h
  rfl

theorem map_id_eq (m : OrderedMap κ α) : m.map id = m :=
  ext (List.map_id _)

/-- A change of values that another change undoes. -/
theorem map_map_eq {β : Type} {f : α → β} {g : β → α} (h : ∀ a, g (f a) = a)
    (m : OrderedMap κ α) : (m.map f).map g = m := by
  refine ext ((List.map_map ..).trans ?_)
  refine (List.map_congr_left fun e _ => ?_).trans (List.map_id _)
  exact Prod.ext rfl (h e.2)

theorem perm_upsertEntry [Std.LawfulEqOrd κ] {key : κ} {f : Option α → α}
    {entries : List (κ × α)} (h : key ∉ entries.map Prod.fst) :
    (upsertEntry key f entries).Perm ((key, f none) :: entries) := by
  induction entries with
  | nil => exact .refl _
  | cons head rest ih =>
    obtain ⟨k, v⟩ := head
    rw [List.map_cons, List.mem_cons, not_or] at h
    unfold upsertEntry
    cases hc : compare key k with
    | lt => exact .refl _
    | eq => exact (h.1 (Std.LawfulEqOrd.eq_of_compare hc)).elim
    | gt => exact ((ih h.2).cons _).trans (.swap ..)

/-- A map made of entries with different keys has these entries. -/
theorem perm_ofList [Std.TransOrd κ] [Std.LawfulEqOrd κ] {entries : List (κ × α)}
    (h : (entries.map Prod.fst).Nodup) : (ofList entries).entries.Perm entries := by
  -- Entries are inserted behind those that are in a map already.
  have hfold : ∀ m : OrderedMap κ α, ((m.entries ++ entries).map Prod.fst).Nodup →
      (entries.foldl (fun m e => m.insert e.1 e.2) m).entries.Perm (m.entries ++ entries) := by
    clear h
    induction entries with
    | nil =>
      intro m _
      rw [List.append_nil]
      exact .refl _
    | cons e rest ih =>
      intro m hm
      have hnew : e.1 ∉ m.entries.map Prod.fst := by
        rw [List.map_append, List.map_cons] at hm
        exact fun hmem => (List.nodup_append.mp hm).2.2 _ hmem _ List.mem_cons_self rfl
      have hinsert : (m.insert e.1 e.2).entries.Perm (e :: m.entries) := perm_upsertEntry hnew
      have hperm : ((m.insert e.1 e.2).entries ++ rest).Perm (m.entries ++ e :: rest) :=
        (hinsert.append_right rest).trans List.perm_middle.symm
      exact (ih _ ((hperm.map Prod.fst).nodup_iff.mpr hm)).trans hperm
  exact hfold ∅ h

/-- The keys of a map are different. -/
theorem nodup_keys [Std.ReflOrd κ] (m : OrderedMap κ α) : (m.entries.map Prod.fst).Nodup := by
  refine List.pairwise_map.mpr (m.increasing.imp fun {a b} hlt he => ?_)
  rw [he, Std.ReflOrd.compare_self] at hlt
  cases hlt

/-- A map is the one made of its entries, in whatever order they come. -/
theorem ofList_eq [Std.TransOrd κ] [Std.LawfulEqOrd κ] {m : OrderedMap κ α}
    {entries : List (κ × α)} (h : entries.Perm m.entries) : ofList entries = m := by
  have hperm := (perm_ofList ((h.map Prod.fst).nodup_iff.mpr m.nodup_keys)).trans h
  refine ext (hperm.eq_of_pairwise (fun a b _ _ hab hba => ?_) (ofList entries).increasing
    m.increasing)
  have hself := Std.TransCmp.lt_trans hab hba
  rw [Std.ReflOrd.compare_self] at hself
  cases hself

/-- What is found at a key is the entry there. -/
theorem get?_eq_some_iff [Std.TransOrd κ] [Std.LawfulEqOrd κ] {m : OrderedMap κ α} {key : κ}
    {value : α} : m.get? key = some value ↔ (key, value) ∈ m.entries := by
  have hfound : ∀ e : κ × α, (m.entries.find? fun e => compare e.1 key == .eq) = some e →
      e ∈ m.entries ∧ e.1 = key := by
    intro e he
    have hcompare := List.find?_some (p := fun e : κ × α => compare e.1 key == .eq) he
    exact ⟨List.mem_of_find?_eq_some he, Std.LawfulEqOrd.eq_of_compare (beq_iff_eq.mp hcompare)⟩
  unfold get?
  rw [Option.map_eq_some_iff]
  constructor
  · rintro ⟨⟨k, v⟩, he, rfl⟩
    obtain ⟨hmem, rfl⟩ := hfound _ he
    exact hmem
  · intro hmem
    have hsome : (m.entries.find? fun e => compare e.1 key == .eq).isSome :=
      List.find?_isSome.mpr ⟨(key, value), hmem, beq_iff_eq.mpr Std.ReflOrd.compare_self⟩
    obtain ⟨e, he⟩ := Option.isSome_iff_exists.mp hsome
    obtain ⟨hmem', hkey⟩ := hfound e he
    exact ⟨e, he, by rw [List.inj_on_of_nodup_map m.nodup_keys hmem' hmem hkey]⟩

/-- Maps are equal when every look-up gives the same. -/
theorem ext_get? [Std.TransOrd κ] [Std.LawfulEqOrd κ] {m m' : OrderedMap κ α}
    (h : ∀ key, m.get? key = m'.get? key) : m = m' := by
  have hself : ∀ a : κ × α, ¬ compare a.1 a.1 = .lt := by
    intro a hlt
    rw [Std.ReflOrd.compare_self] at hlt
    cases hlt
  have : Std.Irrefl fun a b : κ × α => compare a.1 b.1 = .lt := ⟨hself⟩
  have : Std.Antisymm fun a b : κ × α => compare a.1 b.1 = .lt :=
    ⟨fun a b hab hba => (hself a (Std.TransCmp.lt_trans hab hba)).elim⟩
  refine ext (m.increasing.eq_of_mem_iff m'.increasing fun e => ?_)
  rw [← get?_eq_some_iff, ← get?_eq_some_iff, h]

end OrderedMap

end TypedLayouts
