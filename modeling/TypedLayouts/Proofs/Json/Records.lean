import TypedLayouts.Json.Decoder
import TypedLayouts.Proofs.Chains

/-!
# Fields of records

What a record is read as depends on its fields one by one. A field is found by its key in an object
and by its place in an array, and the part of the record that it sets is read from what is found
there, or left as it was at the start. The members of an object are read one after another, and
records that differ in nothing that the fields look at stay so.
-/

namespace TypedLayouts.Json

/-- The value of the first member with a key. -/
def memberAt (key : String) : List (Except Fault String × Reading) → Option Reading
  | [] => none
  | (.ok k, r) :: rest => if k = key then some r else memberAt key rest
  | (.error _, _) :: rest => memberAt key rest

/-- The value of a field of a record, written as an object or as an array. -/
def Reading.field? (key : String) (place : Nat) : Reading → Option Reading
  | .object members _ => memberAt key members
  | .array items _ => items[place]?
  | _ => none

theorem memberAt_eq_none {key : String} {members : List (Except Fault String × Reading)}
    (h : ∀ r, (.ok key, r) ∉ members) : memberAt key members = none := by
  induction members with
  | nil => rfl
  | cons member members ih =>
    have hrest : memberAt key members = none := ih fun r hmem => h r (List.mem_cons_of_mem _ hmem)
    obtain ⟨k | k, r⟩ := member
    · exact hrest
    · have hk : k ≠ key := by
        rintro rfl
        exact h r List.mem_cons_self
      rw [memberAt, if_neg hk, hrest]

namespace Decoder

/-- A field leaves a part of the record as it is. -/
def Field.Keeps {σ β : Type} (field : Field σ) (get : σ → β) : Prop :=
  ∀ r s t, field.read r s = .ok t → get t = get s

/-- A field sets a part of the record to what a decoder makes of its value. -/
def Field.Sets {σ α β : Type} (field : Field σ) (d : Decoder α) (g : α → β) (get : σ → β) : Prop :=
  ∀ r s t, field.read r s = .ok t → ∃ a, d r = .ok a ∧ get t = g a

/-- A part of the record is set by the field with a key, in its place, and by no other. -/
structure SetBy {σ α β : Type} (fields : List (Field σ)) (key : String) (place : Nat)
    (d : Decoder α) (g : α → β) (get : σ → β) : Prop where
  exists_parts : ∃ before field behind, fields = before ++ field :: behind ∧
    before.length = place ∧ field.name = key ∧ field.Sets d g get ∧
      ∀ other ∈ before ++ behind, other.name ≠ key ∧ other.Keeps get

/-- A part of a record is read from the value that was found, and is as it was if none was. -/
def ReadFrom {α β : Type} (d : Decoder α) (g : α → β) (start final : β) : Option Reading → Prop
  | none => final = start
  | some r => ∃ a, d r = .ok a ∧ final = g a

/-! ## Values -/

section Values

variable {α : Type} {fault : Option Fault} {r : Reading}

theorem finish_eq_ok_iff {a b : α} : finish fault a = .ok b ↔ fault = none ∧ a = b := by
  cases fault with
  | none => simp [finish]
  | some f => simp [finish]

theorem string_eq_ok_iff {s : String} : string r = .ok s ↔ r = .string (.ok s) := by
  constructor
  · intro h
    unfold string at h
    split at h
    · cases h
      rfl
    · cases h
  · rintro rfl
    rfl

theorem list_eq_ok_iff {d : Decoder α} {as : List α} :
    list d r = .ok as ↔
      ∃ items, r = .array items none ∧ List.Forall₂ (fun r a => d r = .ok a) items as := by
  constructor
  · intro h
    unfold list at h
    split at h
    · obtain ⟨bs, hbs, hend⟩ := bind_eq_ok_iff.mp h
      obtain ⟨rfl, rfl⟩ := finish_eq_ok_iff.mp hend
      exact ⟨_, rfl, mapM_eq_ok_iff.mp hbs⟩
    · cases h
  · rintro ⟨items, rfl, hall⟩
    exact bind_eq_ok_iff.mpr ⟨as, mapM_eq_ok_iff.mpr hall, rfl⟩

/-- A value that is no array and no object is read from nothing but itself. -/
theorem eq_toReading_of_value {depth : Nat} {v : Json} (harray : ∀ items, v ≠ .array items)
    (hobject : ∀ members, v ≠ .object members) (h : value depth r = .ok v) : r = v.toReading := by
  unfold value at h
  split at h
  case h_5 items fault =>
    obtain ⟨-, hitems⟩ := guard_eq_ok_iff.mp h
    obtain ⟨vs, -, hend⟩ := bind_eq_ok_iff.mp hitems
    exact absurd (finish_eq_ok_iff.mp hend).2.symm (harray vs)
  case h_6 members fault =>
    obtain ⟨-, hmembers⟩ := guard_eq_ok_iff.mp h
    obtain ⟨vs, -, hend⟩ := bind_eq_ok_iff.mp hmembers
    exact absurd (finish_eq_ok_iff.mp hend).2.symm (hobject _)
  case h_7 => cases h
  all_goals
    cases h
    rfl

theorem ofText_eq_ok_iff {d : Decoder α} {text : String} {a : α} :
    Decoder.ofText d text = .ok a ↔
      d (Reading.ofText text).1 = .ok a ∧ (Reading.ofText text).2 = false := by
  unfold Decoder.ofText
  simp only [bind_eq_ok_iff]
  constructor
  · rintro ⟨b, hb, hend⟩
    obtain ⟨hmore, hend⟩ := guard_eq_ok_iff.mp hend
    cases hend
    exact ⟨hb, Bool.eq_false_iff.mpr hmore⟩
  · rintro ⟨ha, hmore⟩
    exact ⟨a, ha, by rw [hmore]; rfl⟩

end Values

section Fields

variable {σ α β : Type} {fields before behind : List (Field σ)} {field : Field σ} {key : String}
  {place : Nat} {d : Decoder α} {g : α → β} {get : σ → β} {start s t : σ} {seen : List String}
  {fault : Option Fault} {members : List (Except Fault String × Reading)} {items : List Reading}
  {r : Reading}

/-- A field reads its value and puts it into the record. -/
theorem Field.read_eq_ok_iff {name : String} {set : σ → α → σ} :
    (Field.mk name fun r s => return set s (← d r)).read r s = .ok t ↔
      ∃ a, d r = .ok a ∧ set s a = t := by
  simp [bind_eq_ok_iff, pure, Except.pure]

theorem Field.sets_of_set {name : String} {set : σ → α → σ} (h : ∀ s a, get (set s a) = g a) :
    (Field.mk name fun r s => return set s (← d r)).Sets d g get := by
  intro r s t hread
  obtain ⟨a, ha, rfl⟩ := Field.read_eq_ok_iff.mp hread
  exact ⟨a, ha, h s a⟩

theorem Field.keeps_of_set {name : String} {set : σ → α → σ} (h : ∀ s a, get (set s a) = get s) :
    (Field.mk name fun r s => return set s (← d r)).Keeps get := by
  intro r s t hread
  obtain ⟨a, -, rfl⟩ := Field.read_eq_ok_iff.mp hread
  exact h s a

/-! ## Records as arrays -/

theorem get_readItems_of_keeps (hkeeps : ∀ field ∈ fields, field.Keeps get)
    (h : readItems fault s fields items = .ok t) : get t = get s := by
  induction items generalizing fields s with
  | nil =>
    rw [readItems, finish_eq_ok_iff] at h
    rw [h.2]
  | cons r items ih =>
    cases fields with
    | nil =>
      rw [readItems] at h
      cases h
    | cons field fields =>
      rw [readItems, bind_eq_ok_iff] at h
      obtain ⟨u, hread, hrest⟩ := h
      obtain ⟨hfield, hfields⟩ := List.forall_mem_cons.mp hkeeps
      rw [ih hfields hrest, hfield r s u hread]

theorem get_readItems (hown : field.Sets d g get)
    (hothers : ∀ other ∈ before ++ behind, other.Keeps get)
    (h : readItems fault s (before ++ field :: behind) items = .ok t) :
    ReadFrom d g (get s) (get t) items[before.length]? := by
  induction before generalizing items s with
  | nil =>
    cases items with
    | nil =>
      rw [readItems, finish_eq_ok_iff] at h
      exact congrArg get h.2.symm
    | cons r items =>
      rw [List.nil_append, readItems, bind_eq_ok_iff] at h
      obtain ⟨u, hread, hrest⟩ := h
      obtain ⟨a, ha, hset⟩ := hown r s u hread
      exact ⟨a, ha, (get_readItems_of_keeps hothers hrest).trans hset⟩
  | cons first before ih =>
    cases items with
    | nil =>
      rw [readItems, finish_eq_ok_iff] at h
      exact congrArg get h.2.symm
    | cons r items =>
      rw [List.cons_append, readItems, bind_eq_ok_iff] at h
      obtain ⟨u, hread, hrest⟩ := h
      obtain ⟨hfirst, hothers⟩ := List.forall_mem_cons.mp hothers
      have hset := ih hothers hrest
      rwa [hfirst r s u hread] at hset

/-! ## Records as objects -/

/-- A member is skipped, or read into the field with its key. -/
theorem readMembers_cons_ok_iff {k : String} :
    readMembers fields seen s ((.ok k, r) :: members) = .ok t ↔
      (fields.find? (·.name = k) = none ∧ skip r = .ok () ∧
        readMembers fields seen s members = .ok t) ∨
      ∃ field u, fields.find? (·.name = k) = some field ∧ k ∉ seen ∧ field.read r s = .ok u ∧
        readMembers fields (k :: seen) u members = .ok t := by
  rw [readMembers]
  cases fields.find? (·.name = k) with
  | none =>
    constructor
    · intro h
      obtain ⟨⟨⟩, hskip, hrest⟩ := bind_eq_ok_iff.mp h
      exact .inl ⟨rfl, hskip, hrest⟩
    · rintro (⟨-, hskip, hrest⟩ | ⟨other, u, hfind, -⟩)
      · exact bind_eq_ok_iff.mpr ⟨(), hskip, hrest⟩
      · cases hfind
  | some field => simp [bind_eq_ok_iff, guard_eq_ok_iff]

theorem readMembers_congr {old new : Reading} (hfield : fields.find? (·.name = key) = some field)
    (hread : field.read old = field.read new) :
    readMembers fields seen s ((.ok key, old) :: members) =
      readMembers fields seen s ((.ok key, new) :: members) := by
  rw [readMembers, readMembers, hfield]
  dsimp only
  rw [hread]

theorem readMembers_error_ne_ok {f : Fault} :
    readMembers fields seen s ((.error f, r) :: members) ≠ .ok t := by
  rw [readMembers]
  exact nofun

namespace SetBy

theorem find?_eq_some (h : SetBy fields key place d g get) {k : String}
    (hfind : fields.find? (·.name = k) = some field) :
    k = key ∧ field.Sets d g get ∨ k ≠ key ∧ field.Keeps get := by
  obtain ⟨before, own, behind, rfl, -, hkey, hown, hothers⟩ := h.exists_parts
  have hname : field.name = k := by simpa using List.find?_some hfind
  rcases List.mem_append.mp (List.mem_of_find?_eq_some hfind) with hmem | hmem
  · have hother := hothers field (List.mem_append_left _ hmem)
    exact .inr ⟨hname ▸ hother.1, hother.2⟩
  · rcases List.mem_cons.mp hmem with rfl | hmem
    · exact .inl ⟨hname.symm.trans hkey, hown⟩
    · have hother := hothers field (List.mem_append_right _ hmem)
      exact .inr ⟨hname ▸ hother.1, hother.2⟩

theorem find?_ne_none (h : SetBy fields key place d g get) :
    fields.find? (·.name = key) ≠ none := by
  obtain ⟨before, own, behind, rfl, -, hkey, -⟩ := h.exists_parts
  rw [Ne, List.find?_eq_none]
  intro hnone
  exact hnone own (by simp) (decide_eq_true hkey)

/-- Behind the member with its key, nothing sets the part again. -/
theorem get_members_of_seen (h : SetBy fields key place d g get) (hseen : key ∈ seen)
    (hread : readMembers fields seen s members = .ok t) : get t = get s := by
  induction members generalizing s seen with
  | nil =>
    rw [readMembers] at hread
    cases hread
    rfl
  | cons member members ih =>
    obtain ⟨k | k, r⟩ := member
    · exact absurd hread readMembers_error_ne_ok
    · rcases readMembers_cons_ok_iff.mp hread with ⟨-, -, hrest⟩ | ⟨other, u, hfind, hk, hu, hrest⟩
      · exact ih hseen hrest
      · rcases h.find?_eq_some hfind with ⟨rfl, -⟩ | ⟨-, hkeeps⟩
        · exact absurd hseen hk
        · rw [ih (List.mem_cons_of_mem _ hseen) hrest, hkeeps r s u hu]

theorem get_members (h : SetBy fields key place d g get) (hseen : key ∉ seen)
    (hread : readMembers fields seen s members = .ok t) :
    ReadFrom d g (get s) (get t) (memberAt key members) := by
  induction members generalizing s seen with
  | nil =>
    rw [readMembers] at hread
    cases hread
    rfl
  | cons member members ih =>
    obtain ⟨k | k, r⟩ := member
    · exact absurd hread readMembers_error_ne_ok
    · rw [memberAt]
      rcases readMembers_cons_ok_iff.mp hread with
        ⟨hnone, -, hrest⟩ | ⟨other, u, hfind, -, hu, hrest⟩
      · have hk : k ≠ key := by
          rintro rfl
          exact h.find?_ne_none hnone
        rw [if_neg hk]
        exact ih hseen hrest
      · rcases h.find?_eq_some hfind with ⟨rfl, hsets⟩ | ⟨hk, hkeeps⟩
        · obtain ⟨a, ha, hset⟩ := hsets r s u hu
          rw [if_pos rfl]
          exact ⟨a, ha, (h.get_members_of_seen List.mem_cons_self hrest).trans hset⟩
        · have hseen' : key ∉ k :: seen := by
            rw [List.mem_cons, not_or]
            exact ⟨hk.symm, hseen⟩
          rw [if_neg hk, ← hkeeps r s u hu]
          exact ih hseen' hrest

/-- A part of a record is read from what is found under its key or in its place. -/
theorem get_record (h : SetBy fields key place d g get) (hread : record fields start r = .ok t) :
    ReadFrom d g (get start) (get t) (r.field? key place) := by
  unfold record at hread
  cases r with
  | object members fault =>
    dsimp only at hread
    obtain ⟨u, hmembers, hend⟩ := bind_eq_ok_iff.mp hread
    rw [← (finish_eq_ok_iff.mp hend).2]
    exact h.get_members List.not_mem_nil hmembers
  | array items fault =>
    obtain ⟨before, own, behind, rfl, rfl, hkey, hown, hothers⟩ := h.exists_parts
    exact get_readItems hown (fun other hother => (hothers other hother).2) hread
  | null => cases hread
  | bool b => cases hread
  | number kept => cases hread
  | string kept => cases hread
  | broken kept skipped => cases hread

end SetBy

/-! ## Members one after another -/

/-- The expected keys met when some members are read. -/
def seenAfter (fields : List (Field σ)) (seen : List String) :
    List (Except Fault String × Reading) → List String
  | [] => seen
  | (.error _, _) :: rest => seenAfter fields seen rest
  | (.ok k, _) :: rest =>
    match fields.find? (·.name = k) with
    | none => seenAfter fields seen rest
    | some _ => seenAfter fields (k :: seen) rest

variable {k : String} {earlier later : List (Except Fault String × Reading)}

theorem mem_of_mem_seenAfter (h : k ∈ seenAfter fields seen members) :
    k ∈ seen ∨ ∃ r, (.ok k, r) ∈ members := by
  induction members generalizing seen with
  | nil => exact .inl h
  | cons member members ih =>
    obtain ⟨key | key, r⟩ := member
    · rcases ih h with hseen | ⟨r', hmem⟩
      · exact .inl hseen
      · exact .inr ⟨r', List.mem_cons_of_mem _ hmem⟩
    · rw [seenAfter] at h
      cases hfind : fields.find? (·.name = key) with
      | none =>
        rw [hfind] at h
        rcases ih h with hseen | ⟨r', hmem⟩
        · exact .inl hseen
        · exact .inr ⟨r', List.mem_cons_of_mem _ hmem⟩
      | some field =>
        rw [hfind] at h
        rcases ih h with hseen | ⟨r', hmem⟩
        · rcases List.mem_cons.mp hseen with rfl | hseen
          · exact .inr ⟨r, List.mem_cons_self⟩
          · exact .inl hseen
        · exact .inr ⟨r', List.mem_cons_of_mem _ hmem⟩

theorem mem_seenAfter (h : k ∈ seen) : k ∈ seenAfter fields seen members := by
  induction members generalizing seen with
  | nil => exact h
  | cons member members ih =>
    obtain ⟨key | key, r⟩ := member
    · exact ih h
    · rw [seenAfter]
      split
      · exact ih h
      · exact ih (List.mem_cons_of_mem _ h)

theorem readMembers_append_ok_iff :
    readMembers fields seen s (earlier ++ later) = .ok t ↔
      ∃ u, readMembers fields seen s earlier = .ok u ∧
        readMembers fields (seenAfter fields seen earlier) u later = .ok t := by
  induction earlier generalizing s seen with
  | nil => simp [readMembers, seenAfter]
  | cons member earlier ih =>
    obtain ⟨k | k, r⟩ := member
    · simp [readMembers_error_ne_ok]
    · rw [List.cons_append, readMembers_cons_ok_iff, seenAfter]
      cases hfind : fields.find? (·.name = k) with
      | none => simp [ih, readMembers_cons_ok_iff, hfind, and_assoc]
      | some field =>
        simp only [readMembers_cons_ok_iff, hfind, ih]
        grind

/-- Members lead from related records to related records, if no more keys have been met before. -/
theorem readMembers_related {ρ : σ → σ → Prop} {s' : σ} {seen' : List String}
    (hkeep : ∀ field ∈ fields, ∀ r s s' t, ρ s s' → field.read r s = .ok t →
      ∃ t', field.read r s' = .ok t' ∧ ρ t t')
    (hseen : ∀ k r, (.ok k, r) ∈ members → k ∈ seen' → k ∈ seen) (hs : ρ s s')
    (h : readMembers fields seen s members = .ok t) :
    ∃ t', readMembers fields seen' s' members = .ok t' ∧ ρ t t' := by
  -- both lists of met keys grow by the same key, so the second never gets ahead
  induction members generalizing s s' seen seen' with
  | nil =>
    rw [readMembers] at h
    cases h
    exact ⟨s', by rw [readMembers], hs⟩
  | cons member members ih =>
    obtain ⟨k | k, r⟩ := member
    · exact absurd h readMembers_error_ne_ok
    · rcases readMembers_cons_ok_iff.mp h with
        ⟨hnone, hskip, hrest⟩ | ⟨field, u, hfind, hk, hu, hrest⟩
      · obtain ⟨t', ht', hrelated⟩ :=
          ih (fun k' r' hmem => hseen k' r' (List.mem_cons_of_mem _ hmem)) hs hrest
        exact ⟨t', readMembers_cons_ok_iff.mpr (.inl ⟨hnone, hskip, ht'⟩), hrelated⟩
      · obtain ⟨u', hu', hrelated⟩ :=
          hkeep field (List.mem_of_find?_eq_some hfind) r s s' u hs hu
        have hseen' : ∀ k' r', (.ok k', r') ∈ members → k' ∈ k :: seen' → k' ∈ k :: seen := by
          intro k' r' hmem hk'
          rcases List.mem_cons.mp hk' with rfl | hk'
          · exact List.mem_cons_self
          · exact List.mem_cons_of_mem _ (hseen k' r' (List.mem_cons_of_mem _ hmem) hk')
        obtain ⟨t', ht', hrelated⟩ := ih hseen' hrelated hrest
        have hk' : k ∉ seen' := fun hmem => hk (hseen k r List.mem_cons_self hmem)
        exact ⟨t', readMembers_cons_ok_iff.mpr (.inr ⟨field, u', hfind, hk', hu', ht'⟩), hrelated⟩

end Fields

end Decoder

end TypedLayouts.Json
