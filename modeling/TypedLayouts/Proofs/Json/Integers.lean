import Mathlib.Algebra.Group.Int.Defs
import Mathlib.Algebra.Group.Nat.Defs
import Mathlib.Data.Nat.Init
import Std.Data.String.ToInt
import TypedLayouts.Proofs.Json.Spelling

/-!
# Texts of integers

An integer between `-2 ^ 63` and `2 ^ 64 - 1` is read from its decimal text, up to a character that
cannot continue a number, and it is kept as it is. The compact text of a value is the decimal text
of an integer only if the value is that integer.
-/

namespace TypedLayouts.Json

open Reading

/-! ## Digits -/

variable {n : Nat} {digits rest : List Char}

theorem natValue_toDigits (n : Nat) : NumberText.natValue (Nat.toDigits 10 n) = n :=
  Nat.ofDigitChars_ten_toDigits

theorem isDigit_toDigits : ∀ c ∈ Nat.toDigits 10 n, c.isDigit = true :=
  fun _ hc => Nat.isDigit_of_mem_toDigits (by decide) (by decide) hc

/-- A zero stands first only if it stands alone. -/
theorem toDigits_ne_zero_cons (n : Nat) (c : Char) (cs : List Char) :
    Nat.toDigits 10 n ≠ '0' :: c :: cs := by
  induction n using Nat.strong_induction_on generalizing c cs with
  | _ n ih =>
    by_cases hn : n < 10
    · rw [Nat.toDigits_of_lt_base hn]
      simp
    · intro h
      rw [Nat.toDigits_of_base_le (by decide) (by omega)] at h
      cases hfront : Nat.toDigits 10 (n / 10) with
      | nil => exact Nat.toDigits_ne_nil hfront
      | cons d ds =>
        rw [hfront, List.cons_append] at h
        obtain ⟨rfl, -⟩ := List.cons_eq_cons.mp h
        -- in front of the last digit stands a zero alone, or a shorter row that starts with one
        cases ds with
        | nil =>
          have hzero := natValue_toDigits (n / 10)
          rw [hfront] at hzero
          have hvalue : NumberText.natValue ['0'] = 0 := by decide
          omega
        | cons e es => exact ih (n / 10) (by omega) e es hfront

/-- Digits are absorbed as long as they stay below the bound. -/
theorem absorb_eq {significand : Nat}
    (h : Nat.ofDigitChars 10 digits significand < UInt64.size) :
    NumberText.absorb significand digits = (Nat.ofDigitChars 10 digits significand, []) := by
  induction digits generalizing significand with
  | nil => rfl
  | cons c digits ih =>
    have hcons : Nat.ofDigitChars 10 (c :: digits) significand =
        Nat.ofDigitChars 10 digits (10 * significand + NumberText.digitValue c) := rfl
    rw [hcons] at h ⊢
    have hgrows : 10 * significand + NumberText.digitValue c ≤
        Nat.ofDigitChars 10 digits (10 * significand + NumberText.digitValue c) := by
      rw [Nat.ofDigitChars_eq_ofDigitChars_zero]
      have hpower := Nat.le_mul_of_pos_left (10 * significand + NumberText.digitValue c)
        (Nat.pow_pos (n := digits.length) (by decide : 0 < 10))
      omega
    unfold NumberText.absorb
    dsimp only
    rw [if_pos (by omega), ih h]

theorem absorb_toDigits (h : n < 2 ^ 64) :
    NumberText.absorb 0 (Nat.toDigits 10 n) = (n, []) := by
  have hvalue : Nat.ofDigitChars 10 (Nat.toDigits 10 n) 0 = n := Nat.ofDigitChars_ten_toDigits
  rw [absorb_eq (by rwa [hvalue]), hvalue]

/-! ## Signs -/

theorem toList_toString_ofNat (n : Nat) :
    (toString (Int.ofNat n)).toList = Nat.toDigits 10 n := by
  change (toString n).toList = _
  rw [Nat.toString_eq_ofList_toDigits, String.toList_ofList]

theorem toList_toString_negSucc (n : Nat) :
    (toString (Int.negSucc n)).toList = '-' :: Nat.toDigits 10 (n + 1) := by
  have hdigits := String.toList_ofList (l := Nat.toDigits 10 (n + 1))
  change ("-" ++ toString (n + 1)).toList = _
  rw [String.toList_append, Nat.toString_eq_ofList_toDigits, hdigits]
  rfl

/-! ## Values -/

theorem value_of_nat (h : n < 2 ^ 64) :
    NumberText.value ⟨false, Nat.toDigits 10 n, none, none⟩ = some (.integer n) := by
  unfold NumberText.value
  rw [absorb_toDigits h]
  simp

theorem value_of_negative (hpos : 0 < n) (h : n ≤ 2 ^ 63) :
    NumberText.value ⟨true, Nat.toDigits 10 n, none, none⟩ = some (.integer (-n)) := by
  have hbound : 2 * n ≤ UInt64.size := by
    have hsize : UInt64.size = 2 * 2 ^ 63 := rfl
    omega
  unfold NumberText.value
  rw [absorb_toDigits (by omega)]
  simp [hpos, hbound]

/-! ## Readings -/

/-- The text does not continue an integer. -/
def EndsInteger (rest : List Char) : Prop :=
  ∀ c ∈ rest.head?, c.isDigit = false ∧ c ≠ '.' ∧ c ≠ 'e' ∧ c ≠ 'E'

theorem readDecimals_of_ends (text : NumberText) (h : EndsInteger rest) :
    readDecimals text rest = finishNumber text rest := by
  cases rest with
  | nil => rfl
  | cons c rest =>
    obtain ⟨-, hpoint, hlower, hupper⟩ := h c rfl
    unfold readDecimals
    split
    · rename_i heq
      exact absurd (List.cons_eq_cons.mp heq).1 hpoint
    · unfold readExponent
      simp [hlower, hupper]

theorem readNumber_toDigits (negative : Bool) (h : EndsInteger rest) :
    readNumber negative (Nat.toDigits 10 n ++ rest) =
      finishNumber ⟨negative, Nat.toDigits 10 n, none, none⟩ rest := by
  have htake : rest.takeWhile Char.isDigit = [] := by
    cases rest with
    | nil => rfl
    | cons c rest => simp [(h c rfl).1]
  have hdrop : rest.dropWhile Char.isDigit = rest := by
    cases rest with
    | nil => rfl
    | cons c rest => simp [(h c rfl).1]
  unfold readNumber
  rw [List.takeWhile_append_of_pos isDigit_toDigits, List.dropWhile_append_of_pos isDigit_toDigits,
    htake, hdrop, List.append_nil]
  split
  · rename_i hnil
    exact absurd hnil Nat.toDigits_ne_nil
  · rename_i hzero
    exact absurd hzero (toDigits_ne_zero_cons n _ _)
  · exact readDecimals_of_ends _ h

theorem isBlank_of_isDigit {c : Char} (h : c.isDigit = true) : isBlank c = false := by
  cases hblank : isBlank c with
  | false => rfl
  | true =>
    unfold isBlank at hblank
    simp only [Bool.or_eq_true, beq_iff_eq] at hblank
    rcases hblank with ((rfl | rfl) | rfl) | rfl
    all_goals exact absurd h (by decide)

/-- A digit opens a number. -/
theorem readValue_of_isDigit (steps : Nat) {c : Char} (h : c.isDigit = true) (cs : List Char) :
    readValue (steps + 1) (c :: cs) = readNumber false (c :: cs) := by
  rw [readValue, skipBlanks_cons (isBlank_of_isDigit h)]
  split
  case h_1 heq => cases heq
  case h_9 heq =>
    cases heq
    exact if_pos h
  all_goals
    rename_i heq
    obtain ⟨rfl, -⟩ := List.cons_eq_cons.mp heq
    exact absurd h (by decide)

/-- An integer is read in front of a text that does not continue it. -/
theorem readValue_integer (steps : Nat) {i : Int} (hlow : -2 ^ 63 ≤ i) (hhigh : i < 2 ^ 64)
    (h : EndsInteger rest) :
    readValue (steps + 1) ((toString i).toList ++ rest) =
      (.number (.ok (.integer i)), some rest) := by
  cases i with
  | ofNat n =>
    have hn : n < 2 ^ 64 := by
      have hcast : (n : Int) < 2 ^ 64 := hhigh
      omega
    obtain ⟨c, cs, hdigits⟩ := List.exists_cons_of_ne_nil (Nat.toDigits_ne_nil (n := n) (b := 10))
    have hdigit : c.isDigit = true := isDigit_toDigits (n := n) c (hdigits ▸ List.mem_cons_self)
    have hread := readNumber_toDigits (n := n) false h
    rw [toList_toString_ofNat]
    rw [hdigits, List.cons_append] at hread ⊢
    rw [readValue_of_isDigit steps hdigit, hread, ← hdigits]
    unfold finishNumber
    rw [value_of_nat hn]
    rfl
  | negSucc n =>
    have hn : n + 1 ≤ 2 ^ 63 := by omega
    have hvalue : -((n + 1 : Nat) : Int) = Int.negSucc n := rfl
    rw [toList_toString_negSucc, List.cons_append, readValue, skipBlanks_cons (by decide)]
    change readNumber true (Nat.toDigits 10 (n + 1) ++ rest) = _
    rw [readNumber_toDigits true h]
    unfold finishNumber
    rw [value_of_negative (Nat.succ_pos n) hn, hvalue]

/-- The decimal text of an integer is read as the integer. -/
theorem ofText_integer {i : Int} (hlow : -2 ^ 63 ≤ i) (hhigh : i < 2 ^ 64) :
    Reading.ofText (toString i) = (.number (.ok (.integer i)), false) := by
  have hend : EndsInteger [] := nofun
  have hread := readValue_integer (2 * (toString i).toList.length + 1) hlow hhigh hend
  rw [List.append_nil] at hread
  unfold Reading.ofText
  dsimp only
  rw [hread]
  rfl

/-! ## Texts of other values -/

theorem isDigit_or_eq_minus {i : Int} {c : Char} (h : c ∈ (toString i).toList) :
    c.isDigit = true ∨ c = '-' := by
  cases i with
  | ofNat n =>
    rw [toList_toString_ofNat] at h
    exact .inl (isDigit_toDigits c h)
  | negSucc n =>
    rw [toList_toString_negSucc] at h
    rcases List.mem_cons.mp h with rfl | h
    · exact .inr rfl
    · exact .inl (isDigit_toDigits c h)

theorem mem_decimalText (ds : List Char) (exponent : Int) :
    '.' ∈ decimalText ds exponent ∨ 'e' ∈ decimalText ds exponent := by
  unfold decimalText
  dsimp only
  by_cases hscientific : exponent < -5 ∨ 15 < exponent
  · rw [if_pos hscientific]
    exact .inr (by simp)
  rw [if_neg hscientific]
  by_cases hsmall : exponent < 0
  · rw [if_pos hsmall]
    exact .inl (by simp)
  · rw [if_neg hsmall]
    exact .inl (by simp)

/-- A floating-point number is written with a point or an exponent. -/
theorem mem_floatText (x : Float) : '.' ∈ floatText x ∨ 'e' ∈ floatText x := by
  unfold floatText
  dsimp only
  cases x == 0 with
  | true => exact .inl (by simp)
  | false =>
    exact (mem_decimalText _ _).imp (List.mem_append_right _) (List.mem_append_right _)

/-- Only an integer is written as one. -/
theorem render_eq_toString_iff {v : Json} {i : Int} :
    v.render = toString i ↔ v = .number (.integer i) := by
  constructor
  · intro h
    have hchars : ∀ c ∈ v.render.toList, c.isDigit = true ∨ c = '-' := by
      rw [h]
      exact fun c => isDigit_or_eq_minus
    -- every other text has a character that is neither a digit nor a sign
    cases v with
    | null => exact absurd (hchars 'n' (by decide)) (by decide)
    | bool b =>
      cases b with
      | false => exact absurd (hchars 'f' (by decide)) (by decide)
      | true => exact absurd (hchars 't' (by decide)) (by decide)
    | string s => exact absurd (hchars '"' (by simp [render, quote])) (by decide)
    | array items => exact absurd (hchars '[' (by simp [render])) (by decide)
    | object members => exact absurd (hchars '\x7b' (by simp [render])) (by decide)
    | number n =>
      cases n with
      | integer j =>
        rw [render, Number.render, Int.toString_eq_repr, Int.toString_eq_repr, Int.repr_inj] at h
        rw [h]
      | float x =>
        rw [render, Number.render, String.toList_ofList] at hchars
        rcases mem_floatText x with hpoint | hexponent
        · exact absurd (hchars '.' hpoint) (by decide)
        · exact absurd (hchars 'e' hexponent) (by decide)
  · rintro rfl
    rfl

end TypedLayouts.Json
