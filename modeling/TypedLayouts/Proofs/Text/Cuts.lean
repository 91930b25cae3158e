import Mathlib.Data.List.DropRight
import Mathlib.Data.List.Infix
import TypedLayouts.Text.Blank
import TypedLayouts.Text.Separator

/-!
# Cut and trimmed texts

What cutting and trimming do to a text, said by how the text is put together. Trimming goes on into
the first part of a text exactly when it leaves nothing of the second.
-/

namespace TypedLayouts.Text

/-! ## Cutting -/

/-- The text is cut at a separator, and no occurrence of the separator starts earlier. -/
structure CutsAt (separator before behind text : List Char) : Prop where
  parts : text = before ++ separator ++ behind
  first : ∀ before' behind', text = before' ++ separator ++ behind' →
    before.length ≤ before'.length

variable {separator before behind text : List Char} {c : Char}

theorem cutsAt_of_starts (h : separator <+: text) :
    CutsAt separator before behind text ↔ before = [] ∧ behind = text.drop separator.length := by
  obtain ⟨rest, rfl⟩ := h
  rw [List.drop_left]
  constructor
  · intro hcut
    have hbefore : before = [] := by
      have hlength := hcut.first [] rest rfl
      exact List.length_eq_zero_iff.mp (Nat.le_zero.mp hlength)
    have hparts := hcut.parts
    rw [hbefore, List.nil_append] at hparts
    exact ⟨hbefore, (List.append_cancel_left hparts).symm⟩
  · rintro ⟨rfl, rfl⟩
    exact ⟨rfl, fun _ _ _ => Nat.zero_le _⟩

theorem cutsAt_cons (h : ¬ separator <+: c :: text) :
    CutsAt separator before behind (c :: text) ↔
      ∃ rest, before = c :: rest ∧ CutsAt separator rest behind text := by
  constructor
  · intro hcut
    cases before with
    | nil => exact absurd ⟨behind, hcut.parts.symm⟩ h
    | cons c' rest =>
      have hparts := hcut.parts
      rw [List.cons_append, List.cons_append] at hparts
      obtain ⟨rfl, htext⟩ := List.cons_eq_cons.mp hparts
      refine ⟨rest, rfl, htext, fun before' behind' h' => ?_⟩
      have hlength := hcut.first (c :: before') behind' (congrArg (List.cons c) h')
      exact Nat.le_of_succ_le_succ hlength
  · rintro ⟨rest, rfl, hcut⟩
    refine ⟨congrArg (List.cons c) hcut.parts, fun before' behind' h' => ?_⟩
    cases before' with
    | nil => exact absurd ⟨behind', h'.symm⟩ h
    | cons c' rest' =>
      rw [List.cons_append, List.cons_append] at h'
      have hlength := hcut.first rest' behind' (List.cons_eq_cons.mp h').2
      exact Nat.succ_le_succ hlength

theorem cutAt_eq_some_iff (hseparator : separator ≠ []) :
    cutAt separator text = some (before, behind) ↔ CutsAt separator before behind text := by
  induction text generalizing before with
  | nil =>
    have hnone : cutAt separator [] = none := by
      unfold cutAt
      rw [if_neg (by simpa using hseparator)]
    refine ⟨fun h => ?_, fun h => ?_⟩
    · simp [hnone] at h
    · have hparts := h.parts
      simp [hseparator] at hparts
  | cons c text ih =>
    unfold cutAt
    by_cases hstarts : separator <+: c :: text
    · rw [if_pos (List.isPrefixOf_iff_prefix.mpr hstarts), cutsAt_of_starts hstarts]
      simp [eq_comm]
    · rw [if_neg (by rwa [List.isPrefixOf_iff_prefix]), cutsAt_cons hstarts]
      simp only [Option.map_eq_some_iff, Prod.exists, Prod.mk.injEq, ← ih]
      constructor
      · rintro ⟨rest, _, hcut, rfl, rfl⟩
        exact ⟨rest, rfl, hcut⟩
      · rintro ⟨rest, rfl, hcut⟩
        exact ⟨rest, behind, hcut, rfl, rfl⟩

theorem cutAt_eq_none_iff (hseparator : separator ≠ []) :
    cutAt separator text = none ↔ ¬ separator <:+: text := by
  induction text with
  | nil => simp [cutAt, hseparator]
  | cons c text ih =>
    unfold cutAt
    rw [List.infix_cons_iff, ← List.isPrefixOf_iff_prefix]
    by_cases hstarts : separator.isPrefixOf (c :: text) = true
    · simp [hstarts]
    · rw [if_neg hstarts, Option.map_eq_none_iff, ih]
      simp [hstarts]

/-- A first part that reaches behind the separator is cut at the same place. -/
theorem CutsAt.of_append {rest : List Char} (h : CutsAt separator before (behind ++ rest) text) :
    CutsAt separator before behind (before ++ separator ++ behind) := by
  refine ⟨rfl, fun before' behind' h' => h.first before' (behind' ++ rest) ?_⟩
  rw [h.parts, ← List.append_assoc, h', List.append_assoc]

/-! ## Trimming -/

variable {p : Char → Bool} {cs ds : List Char}

/-- Trimming drops characters of its kind until one of another kind is at the end. -/
theorem exists_dropTrailing (p : Char → Bool) (cs : List Char) :
    ∃ dropped, cs = dropTrailing p cs ++ dropped ∧ (∀ c ∈ dropped, p c = true) ∧
      ∀ c ∈ (dropTrailing p cs).getLast?, ¬ p c = true := by
  refine ⟨cs.rtakeWhile p, (List.rdropWhile_append_rtakeWhile ..).symm,
    fun c => List.mem_rtakeWhile_imp, fun c hc => ?_⟩
  obtain ⟨hne, rfl⟩ := List.mem_getLast?_eq_getLast hc
  exact List.rdropWhile_last_not p cs hne

theorem dropTrailing_append : dropTrailing p (cs ++ ds) =
    if dropTrailing p ds = [] then dropTrailing p cs else cs ++ dropTrailing p ds := by
  unfold dropTrailing
  rw [List.reverse_append, List.dropWhile_append]
  by_cases h : ds.reverse.dropWhile p = []
  · simp [h]
  · simp [h, List.isEmpty_iff]

theorem dropTrailing_append_eq_left (hcs : ∀ c ∈ cs.getLast?, ¬ p c = true)
    (hds : ∀ c ∈ ds, p c = true) : dropTrailing p (cs ++ ds) = cs := by
  have hnil : dropTrailing p ds = [] := List.rdropWhile_eq_nil_iff.mpr hds
  rw [dropTrailing_append, if_pos hnil]
  refine List.rdropWhile_eq_self_iff.mpr fun hne => hcs _ ?_
  exact List.getLast_mem_getLast? hne

/-- White space around a text that has none at its ends is dropped, and nothing else. -/
theorem trimBlanks_append {before text behind : List Char}
    (hbefore : ∀ c ∈ before, isBlank c = true) (hne : text ≠ []) (hhead : ∀ c ∈ text.head?, ¬ isBlank c = true)
    (hlast : ∀ c ∈ text.getLast?, ¬ isBlank c = true) (hbehind : ∀ c ∈ behind, isBlank c = true) :
    trimBlanks (before ++ text ++ behind) = text := by
  obtain ⟨c, rest, rfl⟩ := List.exists_cons_of_ne_nil hne
  have hdrop : (before ++ (c :: rest) ++ behind).dropWhile isBlank = (c :: rest) ++ behind := by
    rw [List.append_assoc, List.dropWhile_append_of_pos hbefore, List.cons_append,
      List.dropWhile_cons_of_neg (hhead c rfl)]
  unfold trimBlanks
  rw [hdrop, dropTrailing_append_eq_left hlast hbehind]

/-! ## Pieces -/

/-- A text has as many characters as the pieces that it is made of, at least, if none is empty. -/
theorem length_le_flatMap {α β : Type} {f : α → List β} (h : ∀ a, f a ≠ []) (as : List α) :
    as.length ≤ (as.flatMap f).length := by
  induction as with
  | nil => exact Nat.le_refl 0
  | cons a as ih =>
    have hpiece : 1 ≤ (f a).length := List.length_pos_iff.mpr (h a)
    rw [List.flatMap_cons, List.length_append, List.length_cons]
    omega

end TypedLayouts.Text
