import TypedLayouts.Layout.Schema

/-!
# The first of each key

`firstsBy` keeps of a list the elements whose key none before them has. So no key comes twice in
what is kept, and a key is there exactly when some element has it. What is kept for a key is the
first element that has it, so looking for a key gives the same as before, and keeping firsts once
more changes nothing.
-/

namespace TypedLayouts.Layout

variable {α : Type} {key : α → String} {seen : List String} {as : List α} {k : String}

/-- A key is kept when some element has it and it is not seen before. -/
theorem mem_keys_firstsBy :
    k ∈ (firstsBy key seen as).map key ↔ k ∈ as.map key ∧ k ∉ seen := by
  induction as generalizing seen with
  | nil => simp [firstsBy]
  | cons a rest ih =>
    unfold firstsBy
    split
    · rename_i hseen
      rw [ih, List.map_cons, List.mem_cons]
      constructor
      · rintro ⟨hk, hs⟩
        exact ⟨.inr hk, hs⟩
      · rintro ⟨rfl | hk, hs⟩
        · exact absurd hseen hs
        · exact ⟨hk, hs⟩
    · rename_i hseen
      rw [List.map_cons, List.mem_cons, ih, List.map_cons, List.mem_cons, List.mem_cons]
      constructor
      · rintro (rfl | ⟨hk, hs⟩)
        · exact ⟨.inl rfl, hseen⟩
        · exact ⟨.inr hk, fun h => hs (.inr h)⟩
      · rintro ⟨rfl | hk, hs⟩
        · exact .inl rfl
        · by_cases he : k = key a
          · exact .inl he
          · exact .inr ⟨hk, fun h => h.elim he hs⟩

/-- No key is kept twice. -/
theorem nodup_keys_firstsBy : ((firstsBy key seen as).map key).Nodup := by
  induction as generalizing seen with
  | nil => exact List.nodup_nil
  | cons a rest ih =>
    unfold firstsBy
    split
    · exact ih
    · rw [List.map_cons, List.nodup_cons]
      refine ⟨?_, ih⟩
      rw [mem_keys_firstsBy]
      rintro ⟨_, hs⟩
      exact hs List.mem_cons_self

/-! ## First elements -/

/-- The first element of its key: none in front of it has the same. -/
def IsFirst (key : α → String) (a : α) (as : List α) : Prop :=
  ∃ front rest, as = front ++ a :: rest ∧ ∀ b ∈ front, key b ≠ key a

variable {a b : α} {bs : List α}

theorem isFirst_cons_iff : IsFirst key a (b :: as) ↔ a = b ∨ key b ≠ key a ∧ IsFirst key a as := by
  constructor
  · rintro ⟨front, rest, heq, hfront⟩
    cases front with
    | nil =>
      cases heq
      exact .inl rfl
    | cons c front =>
      cases heq
      rw [List.forall_mem_cons] at hfront
      exact .inr ⟨hfront.1, front, rest, rfl, hfront.2⟩
  · rintro (rfl | ⟨hne, front, rest, rfl, hfront⟩)
    · exact ⟨[], as, rfl, nofun⟩
    · exact ⟨b :: front, rest, rfl, List.forall_mem_cons.mpr ⟨hne, hfront⟩⟩

theorem find?_eq_some_iff_isFirst :
    (as.find? fun b => key b = k) = some a ↔ IsFirst key a as ∧ key a = k := by
  rw [List.find?_eq_some_iff_append]
  constructor
  · rintro ⟨hkey, front, rest, heq, hfront⟩
    have hkey : key a = k := by simpa using hkey
    refine ⟨⟨front, rest, heq, fun b hb => ?_⟩, hkey⟩
    rw [hkey]
    simpa using hfront b hb
  · rintro ⟨⟨front, rest, heq, hfront⟩, rfl⟩
    exact ⟨by simp, front, rest, heq, fun b hb => by simpa using hfront b hb⟩

/-- Some element is the first of a key that is there. -/
theorem exists_isFirst (h : a ∈ as) : ∃ first, IsFirst key first as ∧ key first = key a := by
  have hsome : (as.find? fun b => key b = key a).isSome := by
    rw [List.find?_isSome]
    exact ⟨a, h, by simp⟩
  obtain ⟨first, hfirst⟩ := Option.isSome_iff_exists.mp hsome
  exact ⟨first, find?_eq_some_iff_isFirst.mp hfirst⟩

/-- What is kept are the first elements of keys that are not seen before. -/
theorem mem_firstsBy_iff : a ∈ firstsBy key seen as ↔ IsFirst key a as ∧ key a ∉ seen := by
  induction as generalizing seen with
  | nil =>
    have hnone : ¬ IsFirst key a [] := by
      rintro ⟨front, rest, heq, -⟩
      simp at heq
    simp [firstsBy, hnone]
  | cons b rest ih =>
    rw [isFirst_cons_iff]
    unfold firstsBy
    split
    · rename_i hseen
      rw [ih]
      constructor
      · rintro ⟨hfirst, hnew⟩
        exact ⟨.inr ⟨fun heq => hnew (heq ▸ hseen), hfirst⟩, hnew⟩
      · rintro ⟨rfl | ⟨-, hfirst⟩, hnew⟩
        · exact absurd hseen hnew
        · exact ⟨hfirst, hnew⟩
    · rename_i hseen
      rw [List.mem_cons, ih, List.mem_cons, not_or]
      constructor
      · rintro (rfl | ⟨hfirst, hne, hnew⟩)
        · exact ⟨.inl rfl, hseen⟩
        · exact ⟨.inr ⟨Ne.symm hne, hfirst⟩, hnew⟩
      · rintro ⟨rfl | ⟨hne, hfirst⟩, hnew⟩
        · exact .inl rfl
        · exact .inr ⟨hfirst, Ne.symm hne, hnew⟩

/-- Looking for a key that is not seen before finds the same among what is kept. -/
theorem find?_firstsBy (h : k ∉ seen) :
    ((firstsBy key seen as).find? fun a => key a = k) = as.find? fun a => key a = k := by
  induction as generalizing seen with
  | nil => rfl
  | cons b rest ih =>
    unfold firstsBy
    by_cases hkey : key b = k
    · rw [if_neg (hkey ▸ h), List.find?_cons_of_pos (by simpa using hkey),
        List.find?_cons_of_pos (by simpa using hkey)]
    · rw [List.find?_cons_of_neg (by simpa using hkey)]
      split
      · exact ih h
      · rw [List.find?_cons_of_neg (by simpa using hkey)]
        refine ih ?_
        rw [List.mem_cons, not_or]
        exact ⟨fun heq => hkey heq.symm, h⟩

theorem firstsBy_sublist : (firstsBy key seen as).Sublist as := by
  induction as generalizing seen with
  | nil => exact .slnil
  | cons b rest ih =>
    unfold firstsBy
    split
    · exact ih.cons b
    · exact ih.cons_cons b

/-- Where no key comes twice and none is seen before, all is kept. -/
theorem firstsBy_of_nodup (h : (as.map key).Nodup) (hnew : ∀ a ∈ as, key a ∉ seen) :
    firstsBy key seen as = as := by
  induction as generalizing seen with
  | nil => rfl
  | cons b rest ih =>
    rw [List.map_cons, List.nodup_cons] at h
    rw [List.forall_mem_cons] at hnew
    unfold firstsBy
    rw [if_neg hnew.1, ih h.2]
    intro a ha
    rw [List.mem_cons, not_or]
    refine ⟨fun heq => h.1 ?_, hnew.2 a ha⟩
    rw [← heq]
    exact List.mem_map_of_mem ha

theorem firstsBy_firstsBy : firstsBy key [] (firstsBy key [] as) = firstsBy key [] as :=
  firstsBy_of_nodup nodup_keys_firstsBy fun _ _ => List.not_mem_nil

/-! ## Lists put together -/

theorem firstsBy_cons : firstsBy key seen (a :: as) =
    if key a ∈ seen then firstsBy key seen as else a :: firstsBy key (key a :: seen) as :=
  rfl

/-- What is kept does not depend on the order in which keys were seen. -/
theorem firstsBy_congr {seen' : List String} (h : ∀ k, k ∈ seen ↔ k ∈ seen') :
    firstsBy key seen as = firstsBy key seen' as := by
  induction as generalizing seen seen' with
  | nil => rfl
  | cons b rest ih =>
    have hnext : ∀ k, k ∈ key b :: seen ↔ k ∈ key b :: seen' := by
      intro k
      rw [List.mem_cons, List.mem_cons, h]
    rw [firstsBy_cons, firstsBy_cons]
    by_cases hseen : key b ∈ seen
    · rw [if_pos hseen, if_pos ((h _).mp hseen), ih h]
    · rw [if_neg hseen, if_neg (mt (h _).mpr hseen), ih hnext]

/-- Keys that were seen before may as well be left out in the end. -/
theorem firstsBy_append_seen {more : List String} :
    firstsBy key (seen ++ more) as = (firstsBy key seen as).filter fun a => key a ∉ more := by
  induction as generalizing seen with
  | nil => rfl
  | cons b rest ih =>
    rw [firstsBy_cons, firstsBy_cons]
    by_cases hseen : key b ∈ seen
    · rw [if_pos (List.mem_append_left _ hseen), if_pos hseen, ih]
    by_cases hmore : key b ∈ more
    · rw [if_pos (List.mem_append_right _ hmore), if_neg hseen,
        List.filter_cons_of_neg (by simpa using hmore), ← ih]
      refine firstsBy_congr fun k => ?_
      rw [List.cons_append, List.mem_cons, iff_or_self]
      rintro rfl
      exact List.mem_append_right _ hmore
    · rw [if_neg (by simp [hseen, hmore]), if_neg hseen,
        List.filter_cons_of_pos (by simpa using hmore), ← ih]
      rfl

/-- Behind other elements, those are kept whose keys these do not have. -/
theorem firstsBy_append : firstsBy key [] (as ++ bs) =
    firstsBy key [] as ++ (firstsBy key [] bs).filter fun b => key b ∉ as.map key := by
  have hbehind : ∀ seen, firstsBy key seen (as ++ bs) =
      firstsBy key seen as ++ firstsBy key (as.map key ++ seen) bs := by
    induction as with
    | nil => exact fun seen => rfl
    | cons a as ih =>
      intro seen
      rw [List.cons_append, firstsBy_cons, firstsBy_cons]
      split
      · rename_i hseen
        rw [ih]
        congr 1
        refine firstsBy_congr fun k => ?_
        rw [List.map_cons, List.cons_append, List.mem_cons, iff_or_self]
        rintro rfl
        exact List.mem_append_right _ hseen
      · rw [ih, List.cons_append]
        congr 2
        refine firstsBy_congr fun k => ?_
        simp only [List.map_cons, List.cons_append, List.mem_append, List.mem_cons]
        exact or_left_comm
  rw [hbehind, List.append_nil, ← List.nil_append (as.map key), firstsBy_append_seen,
    List.nil_append]

/-- The keys that are kept come in the order of their first elements. -/
theorem keys_firstsBy : (firstsBy key [] as).map key = (as.map key).eraseDups := by
  have hkeys : ∀ seen, (firstsBy key seen as).map key =
      ((as.map key).filter fun k => k ∉ seen).eraseDups := by
    induction as with
    | nil => exact fun seen => rfl
    | cons a as ih =>
      intro seen
      rw [firstsBy_cons, List.map_cons]
      split
      · rename_i hseen
        rw [ih, List.filter_cons_of_neg (by simpa using hseen)]
      · rename_i hseen
        rw [List.filter_cons_of_pos (by simpa using hseen), List.eraseDups_cons, List.map_cons, ih,
          List.filter_filter]
        congr 2
        refine List.filter_congr fun k _ => ?_
        by_cases hk : k = key a
        · simp [hk]
        · simp [hk]
  rw [hkeys]
  congr 1
  exact List.filter_eq_self.mpr fun k _ => by simp

end TypedLayouts.Layout
