/-!
# Finite maps in key order

A finite map is kept as the list of its entries in strictly increasing key order. The order is part
of the type, so two maps with the same look-ups are the same list, and every listing of a map is
sorted and free of repeated keys whatever the order in which the entries came.
-/

namespace TypedLayouts

/-- The keys of a list of entries are strictly increasing. -/
def KeysIncreasing {κ α : Type} [Ord κ] (entries : List (κ × α)) : Prop :=
  entries.Pairwise fun a b => compare a.1 b.1 = .lt

/-- A finite map from `κ` to `α`, its entries in strictly increasing key order. -/
structure OrderedMap (κ α : Type) [Ord κ] where
  /-- The entries in key order. -/
  entries : List (κ × α)
  /-- The keys are strictly increasing. -/
  increasing : KeysIncreasing entries

namespace OrderedMap

variable {κ α : Type} [Ord κ]

/-- Change the entry at `key`, or add one in its place in the order. The new value is made from the
value that was there. -/
def upsertEntry (key : κ) (f : Option α → α) : List (κ × α) → List (κ × α)
  | [] => [(key, f none)]
  | (k, v) :: rest =>
    match compare key k with
    | .lt => (key, f none) :: (k, v) :: rest
    | .eq => (k, f (some v)) :: rest
    | .gt => (k, v) :: upsertEntry key f rest

/-- A changed entry has the key of the change or one that was there. -/
theorem mem_upsertEntry {key : κ} {f : Option α → α} {entries : List (κ × α)} {e : κ × α}
    (h : e ∈ upsertEntry key f entries) : e.1 = key ∨ ∃ v, (e.1, v) ∈ entries := by
  induction entries with
  | nil => simp [upsertEntry] at h; simp [h]
  | cons head rest ih =>
    obtain ⟨k, v⟩ := head
    simp only [upsertEntry] at h
    split at h
    · rcases List.mem_cons.1 h with rfl | h
      · exact .inl rfl
      · exact .inr ⟨e.2, h⟩
    · rcases List.mem_cons.1 h with rfl | h
      · exact .inr ⟨v, by simp⟩
      · exact .inr ⟨e.2, by simp [h]⟩
    · rcases List.mem_cons.1 h with rfl | h
      · exact .inr ⟨v, by simp⟩
      · rcases ih h with h | ⟨w, h⟩
        · exact .inl h
        · exact .inr ⟨w, by simp [h]⟩

/-- The changed key is there after a change. -/
theorem exists_mem_upsertEntry [Std.LawfulEqOrd κ] (key : κ) (f : Option α → α)
    (entries : List (κ × α)) : ∃ v, (key, v) ∈ upsertEntry key f entries := by
  induction entries with
  | nil => exact ⟨f none, by simp [upsertEntry]⟩
  | cons head rest ih =>
    obtain ⟨k, v⟩ := head
    unfold upsertEntry
    split
    · exact ⟨f none, by simp⟩
    · rename_i heq
      rw [Std.LawfulEqOrd.eq_of_compare heq]
      exact ⟨f (some v), by simp⟩
    · obtain ⟨w, hw⟩ := ih
      exact ⟨w, List.mem_cons_of_mem _ hw⟩

/-- A change keeps the keys that are there. -/
theorem mem_upsertEntry_of_mem (key : κ) (f : Option α → α) {k : κ} {v : α}
    {entries : List (κ × α)} (h : (k, v) ∈ entries) :
    ∃ w, (k, w) ∈ upsertEntry key f entries := by
  induction entries with
  | nil => cases h
  | cons head rest ih =>
    obtain ⟨k', v'⟩ := head
    unfold upsertEntry
    split
    · exact ⟨v, List.mem_cons_of_mem _ h⟩
    · rcases List.mem_cons.1 h with he | h
      · cases he
        exact ⟨f (some v), by simp⟩
      · exact ⟨v, List.mem_cons_of_mem _ h⟩
    · rcases List.mem_cons.1 h with he | h
      · cases he
        exact ⟨v, by simp⟩
      · obtain ⟨w, hw⟩ := ih h
        exact ⟨w, List.mem_cons_of_mem _ hw⟩

/-- A change keeps the order of the keys. -/
theorem keysIncreasing_upsertEntry [Std.TransOrd κ] {key : κ} {f : Option α → α}
    {entries : List (κ × α)} (h : KeysIncreasing entries) :
    KeysIncreasing (upsertEntry key f entries) := by
  induction entries with
  | nil => simp [upsertEntry, KeysIncreasing]
  | cons head rest ih =>
    obtain ⟨k, v⟩ := head
    obtain ⟨hk, hr⟩ := List.pairwise_cons.1 h
    simp only [upsertEntry]
    split
    · rename_i hlt
      refine List.pairwise_cons.2 ⟨fun e he => ?_, h⟩
      rcases List.mem_cons.1 he with rfl | he
      · exact hlt
      · exact Std.TransCmp.lt_trans hlt (hk e he)
    · exact List.pairwise_cons.2 ⟨hk, hr⟩
    · rename_i hgt
      refine List.pairwise_cons.2 ⟨fun e he => ?_, ih hr⟩
      rcases mem_upsertEntry he with he | ⟨w, he⟩
      · show compare k e.1 = .lt
        rw [he]
        exact Std.OrientedCmp.lt_of_gt hgt
      · exact hk (e.1, w) he

/-- The map without entries. -/
def empty : OrderedMap κ α :=
  ⟨[], List.Pairwise.nil⟩

/-- `∅` is the map without entries. -/
instance : EmptyCollection (OrderedMap κ α) :=
  ⟨empty⟩

/-- The map without entries is the default one. -/
instance : Inhabited (OrderedMap κ α) :=
  ⟨empty⟩

/-- Change the value at `key`, or add one. The new value is made from the value that was there. -/
def upsert [Std.TransOrd κ] (m : OrderedMap κ α) (key : κ) (f : Option α → α) : OrderedMap κ α :=
  ⟨upsertEntry key f m.entries, keysIncreasing_upsertEntry m.increasing⟩

/-- Give `key` a value; an earlier value is replaced. -/
def insert [Std.TransOrd κ] (m : OrderedMap κ α) (key : κ) (value : α) : OrderedMap κ α :=
  m.upsert key fun _ => value

/-- The value at `key`. -/
def get? (m : OrderedMap κ α) (key : κ) : Option α :=
  (m.entries.find? fun e => compare e.1 key == .eq).map (·.2)

/-- The keys in order. -/
def keys (m : OrderedMap κ α) : List κ :=
  m.entries.map (·.1)

/-- An inserted key is there with those that were there before. -/
theorem mem_keys_insert [Std.TransOrd κ] [Std.LawfulEqOrd κ] {m : OrderedMap κ α} {key k : κ}
    {value : α} : k ∈ (m.insert key value).keys ↔ k = key ∨ k ∈ m.keys := by
  unfold keys insert upsert
  simp only [List.mem_map]
  constructor
  · rintro ⟨e, he, rfl⟩
    rcases mem_upsertEntry he with he | ⟨v, he⟩
    · exact .inl he
    · exact .inr ⟨_, he, rfl⟩
  · rintro (rfl | ⟨e, he, rfl⟩)
    · obtain ⟨v, hv⟩ := exists_mem_upsertEntry k (fun _ => value) m.entries
      exact ⟨_, hv, rfl⟩
    · obtain ⟨v, hv⟩ := mem_upsertEntry_of_mem key (fun _ => value) he
      exact ⟨_, hv, rfl⟩

/-- Look-ups among entries find the entry of a key, if it is there. -/
theorem find?_upsertEntry [Std.TransOrd κ] [Std.LawfulEqOrd κ] (key k : κ) (f : Option α → α)
    {entries : List (κ × α)} (h : KeysIncreasing entries) :
    ((upsertEntry key f entries).find? fun e => compare e.1 k == .eq).map (·.2) =
      if compare key k = .eq then
        some (f ((entries.find? fun e => compare e.1 k == .eq).map (·.2)))
      else (entries.find? fun e => compare e.1 k == .eq).map (·.2) := by
  induction entries with
  | nil =>
    by_cases hk : compare key k = .eq
    · simp [upsertEntry, hk]
    · simp [upsertEntry, hk]
  | cons head rest ih =>
    obtain ⟨k', v⟩ := head
    obtain ⟨hlater, hrest⟩ := List.pairwise_cons.1 h
    unfold upsertEntry
    by_cases hk : compare key k = .eq
    · obtain rfl := Std.LawfulEqOrd.eq_of_compare hk
      cases hc : compare key k' with
      | lt =>
        -- The keys behind are greater still, so none of them is the one looked for.
        have hnone : ((k', v) :: rest).find? (fun e => compare e.1 key == .eq) = none := by
          refine List.find?_eq_none.2 fun e he heq => ?_
          have heq := Std.LawfulEqOrd.eq_of_compare (beq_iff_eq.1 heq)
          rcases List.mem_cons.1 he with rfl | he
          · rw [← heq, Std.ReflOrd.compare_self] at hc
            cases hc
          · have hlt := Std.TransCmp.lt_trans hc (hlater e he)
            rw [← heq, Std.ReflOrd.compare_self] at hlt
            cases hlt
        rw [hnone]
        simp
      | eq =>
        obtain rfl := Std.LawfulEqOrd.eq_of_compare hc
        simp
      | gt =>
        have hne : compare k' key ≠ .eq := by
          rw [Std.OrientedCmp.lt_of_gt hc]
          exact nofun
        simpa [hne] using ih hrest
    · rw [if_neg hk] at ih ⊢
      cases hc : compare key k' with
      | lt => simp [hk]
      | eq =>
        obtain rfl := Std.LawfulEqOrd.eq_of_compare hc
        simp [hk]
      | gt =>
        dsimp only
        rw [List.find?_cons, List.find?_cons]
        cases compare k' k == .eq with
        | true => rfl
        | false => exact ih hrest

/-- A change is seen at its key and nowhere else. -/
theorem get?_upsert [Std.TransOrd κ] [Std.LawfulEqOrd κ] (m : OrderedMap κ α) (key k : κ)
    (f : Option α → α) :
    (m.upsert key f).get? k = if compare key k = .eq then some (f (m.get? k)) else m.get? k :=
  find?_upsertEntry key k f m.increasing

/-- The map that a list of entries gives; of two entries with one key the later counts. -/
def ofList [Std.TransOrd κ] (entries : List (κ × α)) : OrderedMap κ α :=
  entries.foldl (fun m e => m.insert e.1 e.2) ∅

/-- The order of the keys does not depend on the values. -/
theorem keysIncreasing_mapValues {β : Type} (f : α → β) {entries : List (κ × α)}
    (h : KeysIncreasing entries) : KeysIncreasing (entries.map fun e => (e.1, f e.2)) := by
  unfold KeysIncreasing at *
  exact List.pairwise_map.2 h

/-- Change every value; the keys stay. -/
def map {β : Type} (f : α → β) (m : OrderedMap κ α) : OrderedMap κ β :=
  ⟨m.entries.map fun e => (e.1, f e.2), keysIncreasing_mapValues f m.increasing⟩

end OrderedMap

end TypedLayouts
