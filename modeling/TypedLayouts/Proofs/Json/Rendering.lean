import TypedLayouts.Proofs.Json.Spelling

/-!
# Compact texts

The compact text of a value without numbers spells the value.
-/

namespace TypedLayouts.Json

open Reading (hexValue)

/-- There is no number in the value. -/
inductive Numberless : Json → Prop where
  /-- `null` -/
  | null : Numberless .null
  /-- `true` or `false` -/
  | bool (value : Bool) : Numberless (.bool value)
  /-- A string. -/
  | string (value : String) : Numberless (.string value)
  /-- An array. -/
  | array {items : List Json} (h : ∀ v ∈ items, Numberless v) : Numberless (.array items)
  /-- An object. -/
  | object {members : List (String × Json)} (h : ∀ m ∈ members, Numberless m.2) :
    Numberless (.object members)

/-! ## Strings -/

theorem hexValue_hexDigit : ∀ n < 16, hexValue (hexDigit n) = some n := by
  decide

/-- A control character is written as a unit of its own. -/
theorem spellsChar_control {c : Char} (hc : c.toNat < 0x20) :
    SpellsChar c ['\\', 'u', '0', '0', hexDigit (c.toNat / 16), hexDigit (c.toNat % 16)] := by
  have hzero : hexValue '0' = some 0 := by decide
  have hhigh := hexValue_hexDigit (c.toNat / 16) (by omega)
  have hlow := hexValue_hexDigit (c.toNat % 16) (by omega)
  have hunit := SpellsUnit.digits hzero hzero hhigh hlow
  have hn : ((0 * 16 + 0) * 16 + c.toNat / 16) * 16 + c.toNat % 16 = c.toNat := by omega
  rw [hn] at hunit
  have hspells := SpellsChar.unit hunit (by unfold Reading.isLeading; simp; omega)
    (by unfold Reading.isTrailing; simp; omega)
  rwa [Char.ofNat_toNat] at hspells

theorem spellsChar_escapeChar (c : Char) : SpellsChar c (escapeChar c) := by
  unfold escapeChar
  by_cases hquote : c = '"'
  · subst hquote
    exact .short rfl
  rw [if_neg hquote]
  by_cases hbackslash : c = '\\'
  · subst hbackslash
    exact .short rfl
  rw [if_neg hbackslash]
  by_cases hline : c = '\n'
  · subst hline
    exact .short rfl
  rw [if_neg hline]
  by_cases hreturn : c = '\r'
  · subst hreturn
    exact .short rfl
  rw [if_neg hreturn]
  by_cases htab : c = '\t'
  · subst htab
    exact .short rfl
  rw [if_neg htab]
  by_cases hback : c = '\x08'
  · subst hback
    exact .short rfl
  rw [if_neg hback]
  by_cases hfeed : c = '\x0c'
  · subst hfeed
    exact .short rfl
  rw [if_neg hfeed]
  by_cases hcontrol : c.toNat < 0x20
  · rw [if_pos hcontrol]
    exact spellsChar_control hcontrol
  · rw [if_neg hcontrol]
    exact .plain hquote hbackslash (Nat.le_of_not_lt hcontrol)

theorem spellsChars_escaped (cs : List Char) : SpellsChars cs (cs.flatMap escapeChar) := by
  induction cs with
  | nil => exact .nil
  | cons c cs ih =>
    rw [List.flatMap_cons]
    exact .cons (spellsChar_escapeChar c) ih

theorem toList_quote (s : String) :
    (quote s).toList = '"' :: (s.toList.flatMap escapeChar ++ ['"']) := by
  unfold quote
  simp

/-! ## Values -/

theorem blank_nil : Blank [] := by
  intro c hc
  cases hc

theorem spellsItems_render {items : List Json} (h : ∀ v ∈ items, Spells v v.render.toList) :
    SpellsItems items ((String.intercalate "," (renderAll items)).toList ++ [']']) := by
  induction items with
  | nil => exact .nil
  | cons v vs ih =>
    obtain ⟨hv, hvs⟩ := List.forall_mem_cons.mp h
    cases vs with
    | nil => exact .last hv blank_nil
    | cons w vs =>
      have hcons := SpellsItems.cons hv blank_nil blank_nil (ih hvs)
      rw [renderAll, renderAll, String.intercalate_cons_cons]
      rw [renderAll] at hcons
      simpa using hcons

theorem spellsMembers_render {members : List (String × Json)}
    (h : ∀ m ∈ members, Spells m.2 m.2.render.toList) :
    SpellsMembers members
      ((String.intercalate "," (renderMembers members)).toList ++ ['\x7d']) := by
  induction members with
  | nil => exact .nil
  | cons m ms ih =>
    obtain ⟨key, v⟩ := m
    obtain ⟨hv, hms⟩ := List.forall_mem_cons.mp h
    have hkey := spellsChars_escaped key.toList
    cases ms with
    | nil =>
      have hlast := SpellsMembers.last hkey blank_nil blank_nil hv blank_nil
      simpa [renderMembers, toList_quote] using hlast
    | cons m' ms =>
      have hcons :=
        SpellsMembers.cons hkey blank_nil blank_nil hv blank_nil blank_nil (ih hms)
      obtain ⟨key', w⟩ := m'
      rw [renderMembers, renderMembers, String.intercalate_cons_cons]
      rw [renderMembers] at hcons
      simpa [toList_quote] using hcons

theorem spells_render {v : Json} (h : v.Numberless) : Spells v v.render.toList := by
  induction h with
  | null => exact .null
  | bool value =>
    cases value with
    | true => exact .isTrue
    | false => exact .isFalse
  | string value =>
    rw [render, toList_quote]
    exact .string (spellsChars_escaped _)
  | array _ ih =>
    have harray := Spells.array blank_nil (spellsItems_render ih)
    rw [render]
    simpa using harray
  | object _ ih =>
    have hobject := Spells.object blank_nil (spellsMembers_render ih)
    rw [render]
    simpa using hobject

/-- The compact text of a value is one of its texts. -/
theorem isTextOf_render {v : Json} (h : v.Numberless) : IsTextOf v.render v :=
  ⟨[], v.render.toList, [], blank_nil, spells_render h, blank_nil, by simp⟩

end TypedLayouts.Json
