import Mathlib.Order.Filter.AtTopBot.Basic
import TypedLayouts.Proofs.TypeScript.ReadBack.Words

/-!
# Reading lists

The entries of a list stand on one line with commas between them, or on a line each. The readers
here take any reader of entries, one that may itself be bounded by a number of steps. How many steps
an entry takes depends on the entry, so what is shown of a list is shown for all numbers of steps
that are large enough.
-/

namespace TypedLayouts.TypeScript.ReadBack

open Filter (atTop eventually_gt_atTop map_add_atTop_eq_nat)
open TypedLayouts.Text (Reader)

/-- What a reader gives with one step more than enough, it gives with enough steps. -/
theorem eventually_of_succ {P : Nat → Prop} (h : ∀ᶠ n in atTop, P (n + 1)) :
    ∀ᶠ n in atTop, P n := by
  rw [← map_add_atTop_eq_nat 1]
  exact h

section Readers

variable {α : Type}

/-- Read one or more entries with commas between them and the mark behind them. -/
def separated (entry : Reader α) (close : String) : Nat → Reader (List α)
  | 0, _ => none
  | steps + 1, cs => do
    let (a, rest) ← entry cs
    match behind? ", " rest with
    | some rest => do
      let (as, rest) ← separated entry close steps rest
      some (a :: as, rest)
    | none => do
      let rest ← behind? close rest
      some ([a], rest)

/-- Read any number of entries with commas between them and the mark behind them. -/
def enclosed (entry : Reader α) (close : String) (steps : Nat) : Reader (List α) := fun cs =>
  match behind? close cs with
  | some rest => some ([], rest)
  | none => separated entry close steps cs

/-- Read a key and the value behind it. -/
def property (value : Reader α) : Reader (String × α) := fun cs => do
  let (k, rest) ← key cs
  let rest ← behind? ": " rest
  let (a, rest) ← value rest
  some ((k, a), rest)

/-- Read properties with a mark behind each and a line for each, and the brace behind them. -/
def lines (value : Reader α) (mark : String) : Nat → Reader (List (String × α))
  | 0, _ => none
  | steps + 1, cs =>
    match behind? "\x7d" (skipLayout cs) with
    | some rest => some ([], rest)
    | none => do
      let (p, rest) ← property value (skipLayout cs)
      let rest ← behind? mark rest
      let (ps, rest) ← lines value mark steps rest
      some (p :: ps, rest)

end Readers

variable {α β : Type} {entry : Nat → Reader β} {text : α → String} {found : α → β}
  {mark close : String}

/-- With enough steps, the text is read in front of the mark, whatever stands behind that. -/
def ReadBefore (entry : Nat → Reader β) (text : String) (b : β) (mark : String) : Prop :=
  ∀ rest, ∀ᶠ n in atTop,
    entry n (text.toList ++ (mark.toList ++ rest)) = some (b, mark.toList ++ rest)

/-! ## On one line -/

/-- Entries with commas between them are read, when there is a step for each. -/
theorem separated_of_length_lt (hclose : ∀ rest, behind? ", " (close.toList ++ rest) = none)
    (a : α) (as : List α) (hinside : ∀ b ∈ a :: as, ReadBefore entry (text b) (found b) ", ")
    (hlast : ∀ b ∈ a :: as, ReadBefore entry (text b) (found b) close) (rest : List Char) :
    ∀ᶠ n in atTop, ∀ m, as.length < m →
      separated (entry n) close m ((String.intercalate ", " ((a :: as).map text)).toList
        ++ (close.toList ++ rest)) = some ((a :: as).map found, rest) := by
  induction as generalizing a with
  | nil =>
    filter_upwards [hlast a List.mem_cons_self rest] with n ha m hm
    obtain ⟨m, rfl⟩ := Nat.exists_eq_add_one.mpr hm
    rw [List.map_singleton, String.intercalate_singleton, separated, ha, Option.bind_eq_bind,
      Option.bind_some]
    dsimp only
    rw [hclose]
    dsimp only
    rw [behind?_append]
    rfl
  | cons b bs ih =>
    have hrest := ih b (fun c hc => hinside c (List.mem_cons_of_mem a hc))
      fun c hc => hlast c (List.mem_cons_of_mem a hc)
    filter_upwards [hinside a List.mem_cons_self _, hrest] with n ha hrest m hm
    obtain ⟨m, rfl⟩ := Nat.exists_eq_add_one.mpr (Nat.zero_lt_of_lt hm)
    have hbs := hrest m (Nat.lt_of_succ_lt_succ hm)
    rw [List.map_cons] at hbs
    rw [List.map_cons, List.map_cons, toList_intercalate_cons, List.append_assoc,
      List.append_assoc, separated, ha, Option.bind_eq_bind, Option.bind_some]
    dsimp only
    rw [behind?_append]
    dsimp only
    rw [hbs]
    rfl

/-- One or more entries with commas between them are read back. -/
theorem separated_intercalate (hclose : ∀ rest, behind? ", " (close.toList ++ rest) = none)
    (a : α) (as : List α) (hinside : ∀ b ∈ a :: as, ReadBefore entry (text b) (found b) ", ")
    (hlast : ∀ b ∈ a :: as, ReadBefore entry (text b) (found b) close) (rest : List Char) :
    ∀ᶠ n in atTop,
      separated (entry n) close n ((String.intercalate ", " ((a :: as).map text)).toList
        ++ (close.toList ++ rest)) = some ((a :: as).map found, rest) := by
  filter_upwards [separated_of_length_lt hclose a as hinside hlast rest,
    eventually_gt_atTop as.length] with n h hn
  exact h n hn

/-- Entries with commas between them are read back, when none opens with the mark behind all. -/
theorem enclosed_intercalate (hclose : ∀ rest, behind? ", " (close.toList ++ rest) = none)
    (as : List α) (hopens : ∀ a ∈ as, ∀ rest, behind? close ((text a).toList ++ rest) = none)
    (hinside : ∀ a ∈ as, ReadBefore entry (text a) (found a) ", ")
    (hlast : ∀ a ∈ as, ReadBefore entry (text a) (found a) close) (rest : List Char) :
    ∀ᶠ n in atTop,
      enclosed (entry n) close n ((String.intercalate ", " (as.map text)).toList
        ++ (close.toList ++ rest)) = some (as.map found, rest) := by
  unfold enclosed
  cases as with
  | nil =>
    refine .of_forall fun n => ?_
    rw [List.map_nil, String.intercalate_nil, String.toList_empty, List.nil_append,
      behind?_append]
    rfl
  | cons a as =>
    obtain ⟨more, hmore⟩ : ∃ more, (String.intercalate ", " ((a :: as).map text)).toList =
        (text a).toList ++ more := by
      rw [List.map_cons]
      cases as with
      | nil => exact ⟨[], by rw [List.map_nil, String.intercalate_singleton, List.append_nil]⟩
      | cons b bs =>
        rw [List.map_cons, toList_intercalate_cons]
        exact ⟨_, rfl⟩
    have hseparated := separated_intercalate hclose a as hinside hlast rest
    rw [hmore, List.append_assoc] at hseparated ⊢
    rw [hopens a List.mem_cons_self]
    exact hseparated

/-! ## Properties -/

/-- A property is read back where its value is. -/
theorem ReadBefore.property {value : Nat → Reader β} {s : String} {b : β}
    (h : ReadBefore value s b mark) (k : String) :
    ReadBefore (fun n => property (value n)) (renderKey k ++ ": " ++ s) (k, b) mark := by
  intro rest
  filter_upwards [h rest] with n hn
  rw [String.toList_append, String.toList_append, List.append_assoc, List.append_assoc,
    ReadBack.property, key_render, Option.bind_eq_bind, Option.bind_some]
  dsimp only
  rw [behind?_append, Option.bind_eq_bind, Option.bind_some, hn]
  rfl

/-- A property on a line of its own. -/
def line (depth : Nat) (text : α → String) (mark : String) (p : String × α) : String :=
  indentation depth ++ (renderKey p.1 ++ ": " ++ text p.2) ++ mark ++ "\n"

theorem lines_line_end (value : Reader α) (n : Nat) (cs : List Char) :
    lines value mark (n + 1) ("\n".toList ++ cs) = lines value mark (n + 1) cs := by
  have hskip : skipLayout ("\n".toList ++ cs) = skipLayout cs := rfl
  rw [lines, lines, hskip]

/-- Properties with a line for each are read, when there is a step for each. -/
theorem lines_of_length_lt {depth outer : Nat} {value : Nat → Reader β} (ps : List (String × α))
    (h : ∀ p ∈ ps, ReadBefore value (text p.2) (found p.2) mark) (rest : List Char) :
    ∀ᶠ n in atTop, ∀ m, ps.length < m →
      lines (value n) mark m ("\n".toList ++ ((String.join (ps.map (line depth text mark))).toList
        ++ ((indentation outer).toList ++ ("\x7d".toList ++ rest)))) =
      some (ps.map fun p => (p.1, found p.2), rest) := by
  induction ps with
  | nil =>
    have hbrace : "\x7d".toList ++ rest = '\x7d' :: rest := rfl
    have hskip := skipLayout_indentation outer '\x7d' rest rfl
    refine .of_forall fun n m hm => ?_
    obtain ⟨m, rfl⟩ := Nat.exists_eq_add_one.mpr hm
    rw [List.map_nil, String.join_nil, String.toList_empty, List.nil_append,
      lines_line_end, lines, hbrace, hskip, ← hbrace, behind?_append]
    rfl
  | cons p ps ih =>
    obtain ⟨k, a⟩ := p
    have hrest := ih fun q hq => h q (List.mem_cons_of_mem _ hq)
    have hline : (line depth text mark (k, a)).toList =
        (indentation depth).toList ++ ((renderKey k ++ ": " ++ text a).toList
          ++ (mark.toList ++ "\n".toList)) := by
      unfold line
      rw [String.toList_append, String.toList_append, String.toList_append, List.append_assoc,
        List.append_assoc]
    have hkey : ∀ cs, ∃ more,
        (renderKey k ++ ": " ++ text a).toList ++ cs = (renderKey k).toList ++ more := by
      intro cs
      rw [String.toList_append, String.toList_append, List.append_assoc, List.append_assoc]
      exact ⟨_, rfl⟩
    filter_upwards [(h (k, a) List.mem_cons_self).property k _, hrest] with n hp hrest m hm
    obtain ⟨m, rfl⟩ := Nat.exists_eq_add_one.mpr (Nat.zero_lt_of_lt hm)
    obtain ⟨more, hmore⟩ := hkey (mark.toList ++ ("\n".toList ++
      ((String.join (ps.map (line depth text mark))).toList
        ++ ((indentation outer).toList ++ ("\x7d".toList ++ rest)))))
    rw [hmore] at hp
    rw [List.map_cons, String.join_cons, String.toList_append, hline]
    simp only [List.append_assoc]
    rw [hmore, lines_line_end, lines, skipLayout_key, behind?_key]
    dsimp only
    rw [hp, Option.bind_eq_bind, Option.bind_some]
    dsimp only
    rw [behind?_append, Option.bind_eq_bind, Option.bind_some,
      hrest m (Nat.lt_of_succ_lt_succ hm)]
    rfl

/-- Properties with a line for each are read back. -/
theorem lines_join {depth outer : Nat} {value : Nat → Reader β} (ps : List (String × α))
    (h : ∀ p ∈ ps, ReadBefore value (text p.2) (found p.2) mark) (rest : List Char) :
    ∀ᶠ n in atTop,
      lines (value n) mark n ("\n".toList ++ ((String.join (ps.map (line depth text mark))).toList
        ++ ((indentation outer).toList ++ ("\x7d".toList ++ rest)))) =
      some (ps.map fun p => (p.1, found p.2), rest) := by
  filter_upwards [lines_of_length_lt ps h rest, eventually_gt_atTop ps.length] with n h hn
  exact h n hn

end TypedLayouts.TypeScript.ReadBack
