import Mathlib.Data.List.Basic
import Mathlib.Data.List.TakeWhile
import TypedLayouts.Proofs.TypeScript.Flattened
import TypedLayouts.Proofs.TypeScript.Literals
import TypedLayouts.Text.Reader
import TypedLayouts.TypeScript.Printer

/-!
# Reading words, marks and string literals

The smallest parts of a printed document, each with a reader. A word is read as far as it goes, so
what stands behind it has to begin with another character. A string literal says by itself where it
ends.
-/

namespace TypedLayouts.TypeScript.ReadBack

open TypedLayouts.Text (Reader)

/-! ## Marks -/

/-- The text behind a mark, if that comes next. -/
def behind? (mark : String) (cs : List Char) : Option (List Char) :=
  cs.dropPrefix? mark.toList

theorem behind?_append (mark : String) (rest : List Char) :
    behind? mark (mark.toList ++ rest) = some rest :=
  List.dropPrefix?_append_of_beq rest (beq_self_eq_true _)

/-- A mark does not come next where another character does. -/
theorem behind?_cons_of_ne (mark : String) {m c : Char} {cs : List Char}
    (hm : mark.toList.head? = some m) (h : c ≠ m) : behind? mark (c :: cs) = none := by
  unfold behind?
  cases hmark : mark.toList with
  | nil =>
    rw [hmark] at hm
    cases hm
  | cons d ds =>
    rw [hmark] at hm
    cases hm
    simp [List.dropPrefix?, h]

/-- The first of several texts with a mark between them stands in front of the mark. -/
theorem toList_intercalate_cons (mark s t : String) (ts : List String) :
    (mark.intercalate (s :: t :: ts)).toList =
      s.toList ++ (mark.toList ++ (mark.intercalate (t :: ts)).toList) := by
  rw [String.intercalate_cons_cons, String.toList_append, String.toList_append, List.append_assoc]

/-! ## Words -/

/-- The text does not begin with a character of some kind. -/
def Stops (p : Char → Bool) (cs : List Char) : Prop :=
  ∀ c ∈ cs.head?, p c = false

theorem Stops.mono {p q : Char → Bool} {cs : List Char} (h : Stops q cs)
    (hpq : ∀ c, p c = true → q c = true) : Stops p cs := by
  intro c hc
  have hq := h c hc
  cases hp : p c with
  | false => rfl
  | true =>
    rw [hpq c hp] at hq
    exact hq

/-- A text that opens with a mark begins like the mark. -/
theorem stops_mark {p : Char → Bool} (mark : String) {m : Char} (rest : List Char)
    (hm : mark.toList.head? = some m) (hp : p m = false) : Stops p (mark.toList ++ rest) := by
  cases hmark : mark.toList with
  | nil =>
    rw [hmark] at hm
    cases hm
  | cons d ds =>
    rw [hmark] at hm
    cases hm
    rintro c ⟨⟩
    exact hp

/-- A mark does not come where its first character does not. -/
theorem behind?_of_stops {p : Char → Bool} (mark : String) {m : Char} {cs : List Char}
    (h : Stops p cs) (hm : mark.toList.head? = some m) (hp : p m = true) :
    behind? mark cs = none := by
  cases cs with
  | nil =>
    unfold behind?
    cases hmark : mark.toList with
    | nil =>
      rw [hmark] at hm
      cases hm
    | cons d ds => rfl
  | cons c cs =>
    refine behind?_cons_of_ne mark hm ?_
    rintro rfl
    have hc := h c rfl
    rw [hp] at hc
    cases hc

/-- Read a word of some kind of characters, as far as it goes. -/
def run (p : Char → Bool) : Reader String := fun cs =>
  if (cs.takeWhile p).isEmpty then none
  else some (String.ofList (cs.takeWhile p), cs.dropWhile p)

/-- A word ends where another character comes. -/
theorem run_append {p : Char → Bool} {w : String} {rest : List Char} (hw : w.toList ≠ [])
    (hp : ∀ c ∈ w.toList, p c = true) (hr : Stops p rest) :
    run p (w.toList ++ rest) = some (w, rest) := by
  have htake : rest.takeWhile p = [] := by
    cases rest with
    | nil => rfl
    | cons c cs => simp [hr c rfl]
  have hdrop : rest.dropWhile p = rest := by
    cases rest with
    | nil => rfl
    | cons c cs => simp [hr c rfl]
  unfold run
  rw [List.takeWhile_append_of_pos hp, List.dropWhile_append_of_pos hp, htake, hdrop,
    List.append_nil, String.ofList_toList, if_neg (by simpa using hw)]

/-- A character of dotted names. -/
def isDotted (c : Char) : Bool :=
  Identifier.isContinue c || c == '.'

/-- Read an identifier. -/
def word : Reader String :=
  run Identifier.isContinue

/-- Read a dotted name. -/
def dottedWord : Reader String :=
  run isDotted

/-- A word that can open with an identifier: it begins like one and is a dotted name to its end. -/
def IsRun (w : String) : Prop :=
  ∃ c cs, w.toList = c :: cs ∧ Identifier.isStart c = true ∧ ∀ d ∈ c :: cs, isDotted d = true

theorem ne_of_isStart {c d : Char} (hc : Identifier.isStart c = true)
    (hd : Identifier.isStart d = false) : c ≠ d := by
  rintro rfl
  rw [hd] at hc
  cases hc

/-- An identifier has a first character, and all of its characters may continue it. -/
theorem valid_toList {s : String} (h : Identifier.isValid s = true) :
    ∃ c cs, s.toList = c :: cs ∧ Identifier.isStart c = true ∧
      ∀ d ∈ c :: cs, Identifier.isContinue d = true := by
  obtain ⟨c, cs, hs, hc, hcs⟩ := Identifier.isValid_iff.mp h
  refine ⟨c, cs, hs, hc, fun d hd => ?_⟩
  rcases List.mem_cons.mp hd with rfl | hd
  · unfold Identifier.isStart at hc
    unfold Identifier.isContinue Identifier.isInner
    rcases Bool.or_eq_true_iff.mp hc with hedge | hdollar
    · rw [hedge, Bool.true_or, Bool.true_or]
    · rw [hdollar, Bool.or_true]
  · exact hcs d hd

/-- An identifier is read up to a character that cannot continue it. -/
theorem word_append {s : String} {rest : List Char} (h : Identifier.isValid s = true)
    (hr : Stops Identifier.isContinue rest) : word (s.toList ++ rest) = some (s, rest) := by
  obtain ⟨c, cs, hs, -, hall⟩ := valid_toList h
  rw [← hs] at hall
  exact run_append (by rw [hs]; exact List.cons_ne_nil _ _) hall hr

theorem isRun_of_valid {s : String} (h : Identifier.isValid s = true) : IsRun s := by
  obtain ⟨c, cs, hs, hstart, hall⟩ := valid_toList h
  exact ⟨c, cs, hs, hstart, fun d hd => Bool.or_eq_true_iff.mpr (.inl (hall d hd))⟩

theorem isRun_of_dotted {s : String} (h : isDottedName s = true) : IsRun s := by
  have hsegments := List.all_eq_true.mp (Bool.and_eq_true_iff.mp h).1
  have hpoints : ∀ segments : List (List Char),
      (∀ cs ∈ segments, Identifier.isValid (String.ofList cs) = true) →
        ∀ d ∈ ['.'].intercalate segments, isDotted d = true := by
    intro segments hall
    induction segments with
    | nil => exact nofun
    | cons first rest ih =>
      have hfirst : ∀ d ∈ first, isDotted d = true := by
        obtain ⟨c, cs, hcs, -, hinner⟩ := valid_toList (hall first List.mem_cons_self)
        rw [String.toList_ofList] at hcs
        rw [hcs]
        exact fun d hd => Bool.or_eq_true_iff.mpr (.inl (hinner d hd))
      cases rest with
      | nil =>
        rw [List.intercalate_singleton]
        exact hfirst
      | cons next rest =>
        intro d hd
        rw [List.intercalate_cons_cons] at hd
        rcases List.mem_append.mp hd with hd | hd
        · rcases List.mem_append.mp hd with hd | hd
          · exact hfirst d hd
          · rw [List.mem_singleton.mp hd]
            decide
        · exact ih (fun cs hcs => hall cs (List.mem_cons_of_mem _ hcs)) d hd
  have hjoin : ['.'].intercalate (s.toList.splitOn '.') = s.toList :=
    List.intercalate_splitOn '.'
  have hall := hpoints _ hsegments
  rw [hjoin] at hall
  obtain ⟨first, rest, hsplit⟩ := List.exists_cons_of_ne_nil (List.splitOn_ne_nil '.' s.toList)
  obtain ⟨c, cs, hcs, hstart, -⟩ := valid_toList (hsegments first (hsplit ▸ List.mem_cons_self))
  rw [String.toList_ofList] at hcs
  obtain ⟨more, hmore⟩ : ∃ more, s.toList = c :: more := by
    rw [← hjoin, hsplit, hcs]
    cases rest with
    | nil => exact ⟨cs, List.intercalate_singleton⟩
    | cons next rest =>
      refine ⟨cs ++ ['.'] ++ ['.'].intercalate (next :: rest), ?_⟩
      rw [List.intercalate_cons_cons]
      rfl
  rw [hmore] at hall
  exact ⟨c, more, hmore, hstart, hall⟩

/-- A dotted name is read up to a character that is none of its. -/
theorem dottedWord_append {s : String} {rest : List Char} (h : IsRun s)
    (hr : Stops isDotted rest) : dottedWord (s.toList ++ rest) = some (s, rest) := by
  obtain ⟨c, cs, hs, -, hall⟩ := h
  rw [← hs] at hall
  exact run_append (by rw [hs]; exact List.cons_ne_nil _ _) hall hr

/-! ## String literals -/

/-- The character that a letter behind a backslash stands for. -/
def unescape : Char → Char
  | 'n' => '\n'
  | 'r' => '\r'
  | 't' => '\t'
  | c => c

/-- Read the characters of a string literal and the quote behind them, where a backslash may have
come just before. -/
def characters : Bool → List Char → Option (List Char × List Char)
  | _, [] => none
  | true, c :: cs => (characters false cs).map fun (text, rest) => (unescape c :: text, rest)
  | false, c :: cs =>
    if c = '"' then some ([], cs)
    else if c = '\\' then characters true cs
    else (characters false cs).map fun (text, rest) => (c :: text, rest)

/-- Read a string literal. -/
def literal : Reader String := fun cs => do
  let cs ← behind? "\"" cs
  let (text, rest) ← characters false cs
  some (String.ofList text, rest)

/-- The reader knows the five escapes; behind a backslash it takes every other character for itself.
-/
def literalReader : LiteralReader where
  read := characters false
  read_quote _ := rfl
  read_escape c e h _ := by
    unfold escapes at h
    simp only [List.mem_cons, List.not_mem_nil, or_false, Prod.mk.injEq] at h
    rcases h with ⟨rfl, rfl⟩ | ⟨rfl, rfl⟩ | ⟨rfl, rfl⟩ | ⟨rfl, rfl⟩ | ⟨rfl, rfl⟩
    all_goals rfl
  read_plain c h _ := by
    have hquote : c ≠ '"' := by
      rintro rfl
      exact absurd (by decide) h
    have hbackslash : c ≠ '\\' := by
      rintro rfl
      exact absurd (by decide) h
    rw [characters, if_neg hquote, if_neg hbackslash]

/-- A string literal is read back, whatever stands behind it. -/
theorem literal_quote (s : String) (rest : List Char) :
    literal ((quote s).toList ++ rest) = some (s, rest) := by
  have hread : characters false (s.toList.flatMap escapeChar ++ '"' :: rest) =
      some (s.toList, rest) := literalReader.read_escaped s.toList rest
  have hquote : (quote s).toList ++ rest =
      "\"".toList ++ (s.toList.flatMap escapeChar ++ '"' :: rest) := by
    rw [toList_quote, List.cons_append, List.append_assoc]
    rfl
  unfold literal
  rw [hquote, behind?_append, Option.bind_eq_bind, Option.bind_some, hread,
    Option.bind_eq_bind, Option.bind_some]
  dsimp only
  rw [String.ofList_toList]

/-- Only a quote opens a string literal. -/
theorem literal_cons_of_ne {c : Char} {cs : List Char} (h : c ≠ '"') :
    literal (c :: cs) = none := by
  unfold literal
  rw [behind?_cons_of_ne "\"" rfl h]
  rfl

/-! ## Keys -/

/-- Read the key of a property. -/
def key : Reader String := fun cs =>
  match literal cs with
  | some found => some found
  | none => word cs

/-- A key opens with a quote or like an identifier. -/
theorem key_opens (k : String) :
    ∃ c cs, (renderKey k).toList = c :: cs ∧ (c = '"' ∨ Identifier.isStart c = true) := by
  unfold renderKey
  by_cases h : Identifier.isValid k = true
  · obtain ⟨c, cs, hk, hstart, -⟩ := valid_toList h
    rw [if_pos h]
    exact ⟨c, cs, hk, .inr hstart⟩
  · rw [if_neg h]
    unfold quote
    rw [String.toList_append, String.toList_append]
    exact ⟨_, _, rfl, .inl rfl⟩

/-- A key is read back in front of the colon. -/
theorem key_render (k : String) (rest : List Char) :
    key ((renderKey k).toList ++ (": ".toList ++ rest)) = some (k, ": ".toList ++ rest) := by
  unfold key renderKey
  by_cases h : Identifier.isValid k = true
  · obtain ⟨c, cs, hk, hstart, -⟩ := valid_toList h
    have hne : c ≠ '"' := ne_of_isStart hstart rfl
    have hword := word_append h (stops_mark ": " rest rfl rfl)
    rw [if_pos h]
    rw [hk] at hword ⊢
    rw [List.cons_append, literal_cons_of_ne hne]
    exact hword
  · rw [if_neg h, literal_quote]

/-! ## Lines -/

/-- The text behind blanks and line ends. -/
def skipLayout (cs : List Char) : List Char :=
  cs.dropWhile fun c => c == ' ' || c == '\n'

/-- The blanks that open a line are skipped, up to a character that is no blank. -/
theorem skipLayout_indentation (depth : Nat) (c : Char) (cs : List Char)
    (hc : (c == ' ' || c == '\n') = false) :
    skipLayout ((indentation depth).toList ++ c :: cs) = c :: cs := by
  unfold skipLayout indentation
  rw [String.toList_ofList, List.dropWhile_append_of_pos]
  · rw [List.dropWhile_cons_of_neg (by rw [hc]; exact Bool.false_ne_true)]
  · intro d hd
    rw [List.eq_of_mem_replicate hd]
    rfl

/-- In front of a key there is nothing but blanks. -/
theorem skipLayout_key (depth : Nat) (k : String) (cs : List Char) :
    skipLayout ((indentation depth).toList ++ ((renderKey k).toList ++ cs)) =
      (renderKey k).toList ++ cs := by
  obtain ⟨c, more, hk, hc⟩ := key_opens k
  rw [hk]
  refine skipLayout_indentation depth c _ ?_
  rcases hc with rfl | hc
  · rfl
  · have hblank : c ≠ ' ' := ne_of_isStart hc rfl
    have hend : c ≠ '\n' := ne_of_isStart hc rfl
    rw [beq_eq_false_iff_ne.mpr hblank, beq_eq_false_iff_ne.mpr hend]
    rfl

/-- A key is not the brace behind all properties. -/
theorem behind?_key (k : String) (cs : List Char) :
    behind? "\x7d" ((renderKey k).toList ++ cs) = none := by
  obtain ⟨c, more, hk, hc⟩ := key_opens k
  rw [hk]
  refine behind?_cons_of_ne "\x7d" rfl ?_
  rcases hc with rfl | hc
  · decide
  · exact ne_of_isStart hc rfl

end TypedLayouts.TypeScript.ReadBack
