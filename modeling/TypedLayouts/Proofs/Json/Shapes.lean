import Mathlib.Data.List.Forall2
import Mathlib.Data.List.Nodup
import Mathlib.Data.List.Perm.Basic
import TypedLayouts.Json.Decoder
import TypedLayouts.Proofs.OrderedMaps

/-!
# Shapes of values

A shape is a condition on values: to be a certain string, an array of values of a shape, a map, or
an object with certain parts. The members of an object may come in any order, and some may be left
out. A decoder that fits a shape gives what the shape says, whatever the order. A value that is read
and kept has its members in another order, but the same shape.
-/

namespace TypedLayouts

namespace Json

open Decoder

/-! ## Shapes -/

/-- The value is a certain string. -/
def IsString (s : String) (v : Json) : Prop :=
  v = .string s

/-- The value is an array of values for some data, in their order. -/
inductive IsArray {α : Type} (P : α → Json → Prop) (as : List α) : Json → Prop where
  /-- Each item fits its datum. -/
  | mk {items : List Json} (h : List.Forall₂ P as items) : IsArray P as (.array items)

/-- The value is `null` for a datum that is missing. -/
inductive IsNullable {α : Type} (P : α → Json → Prop) : Option α → Json → Prop where
  /-- There is no datum. -/
  | null : IsNullable P none .null
  /-- There is one, and the value fits it. -/
  | some {a : α} {v : Json} (h : P a v) : IsNullable P (some a) v

/-- The value is an object with a member for each entry of a map, in any order. -/
inductive IsMap {α : Type} (P : α → Json → Prop) (m : OrderedMap String α) : Json → Prop where
  /-- Each member has the key of its entry, and fits the datum there. -/
  | mk {entries : List (String × α)} {members : List (String × Json)}
      (hperm : entries.Perm m.entries)
      (h : List.Forall₂ (fun member e => member.1 = e.1 ∧ P e.2 member.2) members entries) :
    IsMap P m (.object members)

/-- What may stand at a key of an object. -/
structure Part where
  /-- The key. -/
  key : String
  /-- The values that fit. -/
  fits : Json → Prop
  /-- The member may be left out. -/
  optional : Prop

/-- Members that are some parts, in any order. -/
structure HasParts (parts : List Part) (members : List (String × Json)) : Prop where
  /-- No key comes twice. -/
  nodup : (members.map Prod.fst).Nodup
  /-- Each member is one of the parts. -/
  fits : ∀ member ∈ members, ∃ part ∈ parts, part.key = member.1 ∧ part.fits member.2
  /-- A part that is not there may be left out. -/
  absent : ∀ part ∈ parts, part.key ∉ members.map Prod.fst → part.optional

/-- The value is an object of some parts, in any order. -/
inductive IsObject (parts : List Part) : Json → Prop where
  /-- The members are these parts. -/
  | mk {members : List (String × Json)} (h : HasParts parts members) :
    IsObject parts (.object members)

theorem exists_forall₂_iff {α β : Type} {R : α → β → Prop} {as : List α} :
    (∃ bs, List.Forall₂ R as bs) ↔ ∀ a ∈ as, ∃ b, R a b := by
  induction as with
  | nil => simp
  | cons a as ih =>
    rw [List.forall_mem_cons, ← ih]
    constructor
    · rintro ⟨_, h⟩
      cases h with
      | @cons _ b _ bs hb hbs => exact ⟨⟨b, hb⟩, bs, hbs⟩
    · rintro ⟨⟨b, hb⟩, bs, hbs⟩
      exact ⟨b :: bs, .cons hb hbs⟩

/-! ## Decoding -/

section Decoding

variable {α β : Type} {P : α → Json → Prop} {d : Decoder β} {g : α → β}

theorem string_of_isString {s : String} {v : Json} (h : IsString s v) :
    Decoder.string v.toReading = .ok s := by
  rw [show v = .string s from h]
  rfl

theorem mapM_of_forall₂ {as : List α} {items : List Json} (h : List.Forall₂ P as items)
    (hd : ∀ a v, P a v → d v.toReading = .ok (g a)) :
    (toReadings items).mapM d = .ok (as.map g) := by
  induction h with
  | nil => rfl
  | @cons a v as items hv _ ih =>
    rw [toReadings, List.mapM_cons, hd a v hv, ih]
    rfl

theorem list_of_isArray {as : List α} {v : Json} (h : IsArray P as v)
    (hd : ∀ a v, P a v → d v.toReading = .ok (g a)) : list d v.toReading = .ok (as.map g) := by
  cases h with
  | mk h =>
    rw [toReading]
    unfold list
    dsimp only
    rw [mapM_of_forall₂ h hd]
    rfl

theorem nullable_of_isNullable {o : Option α} {v : Json} (h : IsNullable P o v)
    (hd : ∀ a v, P a v → d v.toReading = .ok (g a)) (hnull : ∀ b, d .null ≠ .ok b) :
    nullable d v.toReading = .ok (o.map g) := by
  cases h with
  | null => rfl
  | some h =>
    have hv := hd _ _ h
    unfold nullable
    split
    · rename_i hread
      rw [hread] at hv
      exact (hnull _ hv).elim
    · rw [hv]
      rfl

theorem entries_of_forall₂ {es : List (String × α)} {members : List (String × Json)}
    (h : List.Forall₂ (fun member e => member.1 = e.1 ∧ P e.2 member.2) members es)
    (hd : ∀ a v, P a v → d v.toReading = .ok (g a)) :
    entries d (toMembers members) = .ok (es.map fun e => (e.1, g e.2)) := by
  induction h with
  | nil => rfl
  | @cons member e members es hv _ ih =>
    obtain ⟨key, v⟩ := member
    obtain ⟨rfl, hv⟩ := hv
    rw [toMembers]
    unfold entries
    rw [hd e.2 v hv, ih]
    rfl

theorem map_of_isMap {m : OrderedMap String α} {v : Json} (h : IsMap P m v)
    (hd : ∀ a v, P a v → d v.toReading = .ok (g a)) :
    Decoder.map d v.toReading = .ok (m.map g) := by
  cases h with
  | @mk es members hperm h =>
    have hmap : OrderedMap.ofList (es.map fun e => (e.1, g e.2)) = m.map g :=
      OrderedMap.ofList_eq (hperm.map _)
    rw [toReading]
    unfold Decoder.map
    dsimp only
    rw [entries_of_forall₂ h hd]
    exact congrArg Except.ok hmap

end Decoding

/-! ## Decoding records -/

section Records

variable {σ : Type} {fields : List (Decoder.Field σ)} {start s : σ} {parts : List Part}
  {rows chosen : List (Part × (σ → σ))} {members : List (String × Json)} {v : Json}

/-- A part is read into a field, which it sets. Where it may be left out, the field is set so from
the start. -/
structure Reads (fields : List (Decoder.Field σ)) (start : σ) (row : Part × (σ → σ)) : Prop where
  /-- The field with the key reads what fits. -/
  field : ∃ field, fields.find? (·.name = row.1.key) = some field ∧
    ∀ v s, row.1.fits v → field.read v.toReading s = .ok (row.2 s)
  /-- Setting a field that may be left out changes nothing at the start. -/
  absent : row.1.optional → row.2 start = start

/-- A field that is set to what a decoder makes of its value. -/
theorem Reads.of_decoder {α : Type} {key : String} {P : Json → Prop} {optional : Prop}
    {d : Decoder α} {f : α → σ → σ} {change : σ → σ} {a : α}
    (hfield : fields.find? (·.name = key) = some ⟨key, fun r s => return f (← d r) s⟩)
    (hread : ∀ v, P v → d v.toReading = .ok a) (hchange : f a = change)
    (habsent : optional → change start = start) :
    Reads fields start (⟨key, P, optional⟩, change) where
  field := by
    refine ⟨_, hfield, fun v s hv => ?_⟩
    dsimp only
    rw [hread v hv, ← hchange]
    rfl
  absent := habsent

/-- The changes of some rows, one after the other. -/
def setAll (rows : List (Part × (σ → σ))) (s : σ) : σ :=
  rows.foldl (fun s row => row.2 s) s

/-- Each member is the part of a row. -/
def Chosen (rows : List (Part × (σ → σ))) (member : String × Json) (row : Part × (σ → σ)) : Prop :=
  row ∈ rows ∧ row.1.key = member.1 ∧ row.1.fits member.2

theorem exists_chosen (h : HasParts (rows.map Prod.fst) members) :
    ∃ chosen, List.Forall₂ (Chosen rows) members chosen := by
  refine exists_forall₂_iff.mpr fun member hmember => ?_
  obtain ⟨part, hpart, hkey, hfit⟩ := h.fits member hmember
  obtain ⟨row, hrow, rfl⟩ := List.mem_map.mp hpart
  exact ⟨row, hrow, hkey, hfit⟩

theorem keys_of_chosen (h : List.Forall₂ (Chosen rows) members chosen) :
    chosen.map (·.1.key) = members.map Prod.fst := by
  induction h with
  | nil => rfl
  | cons hrow _ ih => rw [List.map_cons, List.map_cons, ih, hrow.2.1]

theorem mem_of_chosen (h : List.Forall₂ (Chosen rows) members chosen) :
    ∀ row ∈ chosen, row ∈ rows := by
  induction h with
  | nil => simp
  | cons hrow _ ih => exact List.forall_mem_cons.mpr ⟨hrow.1, ih⟩

/-- Members are read in their order, each into the field of its row. -/
theorem readMembers_of_chosen (hrows : ∀ row ∈ rows, Reads fields start row)
    (h : List.Forall₂ (Chosen rows) members chosen) {seen : List String}
    (hnodup : (members.map Prod.fst).Nodup) (hseen : ∀ member ∈ members, member.1 ∉ seen) :
    readMembers fields seen s (toMembers members) = .ok (setAll chosen s) := by
  induction h generalizing seen s with
  | nil => rfl
  | @cons member row members chosen hrow _ ih =>
    obtain ⟨key, v⟩ := member
    obtain ⟨hmem, hkey, hfit⟩ := hrow
    obtain ⟨field, hfield, hread⟩ := (hrows row hmem).field
    rw [hkey] at hfield
    rw [List.map_cons, List.nodup_cons] at hnodup
    have hrest : ∀ member ∈ members, member.1 ∉ key :: seen := by
      intro member hm hin
      rcases List.mem_cons.mp hin with he | hin
      · exact hnodup.1 (List.mem_map.mpr ⟨member, hm, he⟩)
      · exact hseen member (List.mem_cons_of_mem _ hm) hin
    rw [toMembers]
    unfold readMembers
    dsimp only
    rw [hfield]
    dsimp only
    rw [if_neg (hseen _ List.mem_cons_self), hread v s hfit]
    exact ih hnodup.2 hrest

/-- Rows are set in any order, if their changes do not get in each other's way. -/
theorem setAll_perm {rows' : List (Part × (σ → σ))} (h : rows.Perm rows')
    (hcomm : ∀ p ∈ rows, ∀ q ∈ rows, ∀ s, p.2 (q.2 s) = q.2 (p.2 s)) (s : σ) :
    setAll rows s = setAll rows' s :=
  h.foldl_eq' (fun p hp q hq s => hcomm q hq p hp s) s

theorem setAll_of_absent (h : ∀ row ∈ rows, row.2 start = start) : setAll rows start = start := by
  induction rows with
  | nil => rfl
  | cons row rows ih =>
    have hrow := h row List.mem_cons_self
    unfold setAll at *
    rw [List.foldl_cons, hrow]
    exact ih fun row hr => h row (List.mem_cons_of_mem _ hr)

/-- The chosen rows are those with a member, in another order. -/
theorem perm_chosen (hkeys : (rows.map (·.1.key)).Nodup)
    (h : List.Forall₂ (Chosen rows) members chosen) (hnodup : (members.map Prod.fst).Nodup) :
    chosen.Perm (rows.filter (·.1.key ∈ members.map Prod.fst)) := by
  have hchosen := keys_of_chosen h
  have hnodupChosen : chosen.Nodup := .of_map (·.1.key) (hchosen ▸ hnodup)
  refine (List.perm_ext_iff_of_nodup hnodupChosen (hkeys.of_map.filter _)).mpr fun row => ?_
  rw [List.mem_filter, decide_eq_true_eq, ← hchosen]
  constructor
  · intro hrow
    exact ⟨mem_of_chosen h row hrow, List.mem_map_of_mem hrow⟩
  · rintro ⟨hrow, hmem⟩
    obtain ⟨row', hrow', he⟩ := List.mem_map.mp hmem
    obtain rfl := List.inj_on_of_nodup_map hkeys (mem_of_chosen h row' hrow') hrow he
    exact hrow'

/-- Setting the rows with a member, in the order of the members, sets all rows: the others may be
left out. -/
theorem setAll_chosen (hkeys : (rows.map (·.1.key)).Nodup)
    (hrows : ∀ row ∈ rows, Reads fields start row)
    (hcomm : ∀ p ∈ rows, ∀ q ∈ rows, ∀ s, p.2 (q.2 s) = q.2 (p.2 s))
    (hparts : HasParts (rows.map Prod.fst) members)
    (h : List.Forall₂ (Chosen rows) members chosen) : setAll chosen start = setAll rows start := by
  let hasMember : Part × (σ → σ) → Bool := fun row => row.1.key ∈ members.map Prod.fst
  have hchosen : setAll chosen start = setAll (rows.filter hasMember) start :=
    setAll_perm (perm_chosen hkeys h hparts.nodup)
      (fun p hp q hq => hcomm p (mem_of_chosen h p hp) q (mem_of_chosen h q hq)) start
  have habsent : setAll (rows.filter fun row => !hasMember row) start = start := by
    refine setAll_of_absent fun row hrow => ?_
    obtain ⟨hrow, hmem⟩ := List.mem_filter.mp hrow
    refine (hrows row hrow).absent (hparts.absent row.1 (List.mem_map_of_mem hrow) ?_)
    simpa [hasMember] using hmem
  have hsplit : rows.Perm
      ((rows.filter fun row => !hasMember row) ++ rows.filter hasMember) :=
    (List.filter_append_perm hasMember rows).symm.trans List.perm_append_comm
  rw [hchosen, setAll_perm hsplit hcomm start]
  unfold setAll at habsent ⊢
  rw [List.foldl_append, habsent]

/-- An object of some parts is read into the record with the fields of all parts set. -/
theorem record_of_isObject (rows : List (Part × (σ → σ))) (h : IsObject (rows.map Prod.fst) v)
    (hkeys : (rows.map (·.1.key)).Nodup) (hrows : ∀ row ∈ rows, Reads fields start row)
    (hcomm : ∀ p ∈ rows, ∀ q ∈ rows, ∀ s, p.2 (q.2 s) = q.2 (p.2 s)) :
    record fields start v.toReading = .ok (setAll rows start) := by
  cases h with
  | @mk members h =>
    obtain ⟨chosen, hchosen⟩ := exists_chosen h
    have hread : readMembers fields [] start (toMembers members) = .ok (setAll chosen start) :=
      readMembers_of_chosen hrows hchosen h.nodup (by simp)
    rw [toReading]
    unfold record
    dsimp only
    rw [hread, setAll_chosen hkeys hrows hcomm h hchosen]
    rfl

end Records

/-! ## Keeping values -/

/-- Values of a shape with at most `n` arrays and objects inside each other are kept as values of
the shape. -/
def Keeps (n : Nat) (P : Json → Prop) : Prop :=
  ∀ depth v, depth + n ≤ maxDepth → P v → ∃ kept, value depth v.toReading = .ok kept ∧ P kept

section Keeping

variable {α : Type} {n k : Nat} {P : α → Json → Prop}

theorem Keeps.mono {Q : Json → Prop} (h : Keeps n Q) (hn : n ≤ k) : Keeps k Q := by
  intro depth v hdepth hv
  exact h depth v (by omega) hv

theorem keeps_isString (s : String) : Keeps n (IsString s) := by
  rintro depth v - rfl
  exact ⟨.string s, rfl, rfl⟩

theorem keeps_isNullable (h : ∀ a, Keeps n (P a)) (o : Option α) : Keeps n (IsNullable P o) := by
  intro depth v hdepth hv
  cases hv with
  | null => exact ⟨.null, rfl, .null⟩
  | some hv =>
    obtain ⟨kept, hkept, hfits⟩ := h _ depth v hdepth hv
    exact ⟨kept, hkept, .some hfits⟩

theorem valueAll_of_forall₂ {depth : Nat} {as : List α} {items : List Json}
    (h : ∀ a, Keeps n (P a)) (hdepth : depth + n ≤ maxDepth) (hitems : List.Forall₂ P as items) :
    ∃ kept, valueAll depth (toReadings items) = .ok kept ∧ List.Forall₂ P as kept := by
  induction hitems with
  | nil => exact ⟨[], rfl, .nil⟩
  | @cons a v as items hv _ ih =>
    obtain ⟨kept, hkept, hfits⟩ := h a depth v hdepth hv
    obtain ⟨rest, hrest, hall⟩ := ih
    refine ⟨kept :: rest, ?_, .cons hfits hall⟩
    rw [toReadings]
    unfold valueAll
    rw [hkept, hrest]
    rfl

theorem keeps_isArray (h : ∀ a, Keeps n (P a)) (as : List α) :
    Keeps (n + 1) (IsArray P as) := by
  intro depth v hdepth hv
  cases hv with
  | mk hitems =>
    have hinside : depth + 1 + n ≤ maxDepth := by omega
    obtain ⟨kept, hkept, hall⟩ := valueAll_of_forall₂ h hinside hitems
    refine ⟨.array kept, ?_, .mk hall⟩
    rw [toReading]
    unfold value
    rw [if_neg (by omega), hkept]
    rfl

/-- The members of an object are kept in the order of their keys. -/
theorem value_object {depth : Nat} {members kept : List (String × Json)}
    (hdepth : depth < maxDepth) (h : valueMembers (depth + 1) (toMembers members) = .ok kept) :
    value depth (Json.object members).toReading =
      .ok (.object (OrderedMap.ofList kept).entries) := by
  rw [toReading]
  unfold value
  rw [if_neg (by omega), h]
  rfl

theorem valueMembers_of_forall₂ {β : Type} (Q : β → String → Json → Prop) {depth : Nat}
    {data : List β} {members : List (String × Json)}
    (h : ∀ b key v, Q b key v → ∃ kept, value depth v.toReading = .ok kept ∧ Q b key kept)
    (hmembers : List.Forall₂ (fun member b => Q b member.1 member.2) members data) :
    ∃ kept, valueMembers depth (toMembers members) = .ok kept ∧
      kept.map Prod.fst = members.map Prod.fst ∧
      List.Forall₂ (fun member b => Q b member.1 member.2) kept data := by
  induction hmembers with
  | nil => exact ⟨[], rfl, rfl, .nil⟩
  | @cons member b members data hb _ ih =>
    obtain ⟨key, v⟩ := member
    obtain ⟨kept, hkept, hfits⟩ := h b key v hb
    obtain ⟨rest, hrest, hkeys, hall⟩ := ih
    refine ⟨(key, kept) :: rest, ?_, ?_, .cons hfits hall⟩
    · rw [toMembers]
      unfold valueMembers
      rw [hkept, hrest]
      rfl
    · rw [List.map_cons, List.map_cons, hkeys]

theorem keeps_isMap (h : ∀ a, Keeps n (P a)) (m : OrderedMap String α) :
    Keeps (n + 1) (IsMap P m) := by
  intro depth v hdepth hv
  cases hv with
  | @mk entries members hperm hall =>
    let Q : String × α → String → Json → Prop := fun e key v => key = e.1 ∧ P e.2 v
    have hkeep : ∀ e key v, Q e key v →
        ∃ kept, value (depth + 1) v.toReading = .ok kept ∧ Q e key kept := by
      rintro e key v ⟨hkey, hv⟩
      obtain ⟨kept, hkept, hfits⟩ := h e.2 (depth + 1) v (by omega) hv
      exact ⟨kept, hkept, hkey, hfits⟩
    obtain ⟨kept, hkept, hkeys, hall'⟩ := valueMembers_of_forall₂ Q hkeep hall
    have hentries : members.map Prod.fst = entries.map Prod.fst := by
      rw [← List.forall₂_eq_eq_eq, List.forall₂_map_left_iff, List.forall₂_map_right_iff]
      exact hall.imp fun _ _ hv => hv.1
    have hnodup : (kept.map Prod.fst).Nodup := by
      rw [hkeys, hentries]
      exact (hperm.map Prod.fst).nodup_iff.mpr m.nodup_keys
    obtain ⟨entries', hall'', hperm'⟩ :=
      List.perm_comp_forall₂ (OrderedMap.perm_ofList hnodup) hall'
    exact ⟨_, value_object (by omega) hkept, .mk (hperm'.trans hperm) hall''⟩

/-- Parts do not depend on the order of the members. -/
theorem HasParts.perm {parts : List Part} {members members' : List (String × Json)}
    (h : HasParts parts members) (hperm : members'.Perm members) : HasParts parts members' where
  nodup := (hperm.map Prod.fst).nodup_iff.mpr h.nodup
  fits member hmember := h.fits member (hperm.mem_iff.mp hmember)
  absent part hpart hkey :=
    h.absent part hpart fun hmem => hkey ((hperm.map Prod.fst).mem_iff.mpr hmem)

theorem keeps_isObject {parts : List Part} (h : ∀ part ∈ parts, Keeps n part.fits) :
    Keeps (n + 1) (IsObject parts) := by
  intro depth v hdepth hv
  cases hv with
  | @mk members hparts =>
    obtain ⟨chosen, hchosen⟩ := exists_forall₂_iff.mpr hparts.fits
    let Q : Part → String → Json → Prop := fun part key v =>
      part ∈ parts ∧ part.key = key ∧ part.fits v
    have hkeep : ∀ part key v, Q part key v →
        ∃ kept, value (depth + 1) v.toReading = .ok kept ∧ Q part key kept := by
      rintro part key v ⟨hpart, hkey, hv⟩
      obtain ⟨kept, hkept, hfits⟩ := h part hpart (depth + 1) v (by omega) hv
      exact ⟨kept, hkept, hpart, hkey, hfits⟩
    obtain ⟨kept, hkept, hkeys, hall⟩ := valueMembers_of_forall₂ Q hkeep hchosen
    have hpartsKept : HasParts parts kept := by
      refine ⟨hkeys ▸ hparts.nodup, exists_forall₂_iff.mp ⟨chosen, hall⟩, fun part hpart hkey => ?_⟩
      exact hparts.absent part hpart (hkeys ▸ hkey)
    have hperm := OrderedMap.perm_ofList hpartsKept.nodup
    exact ⟨_, value_object (by omega) hkept, .mk (hpartsKept.perm hperm)⟩

end Keeping

end Json

end TypedLayouts
