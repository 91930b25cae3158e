import TypedLayouts.Json.Reading
import TypedLayouts.Proofs.Text.Cuts
import TypedLayouts.Proofs.TypeScript.Literals
import TypedLayouts.TypeScript.Reading.Lexeme

/-!
# Texts that are read as accesses

Which texts are expressions that go from a variable down through properties, and through which ones.
A property stands behind a point as a name, whose characters may be written by their code points, or
between brackets as a string literal; blanks and comments may stand around all that.

A text is as long as its names with the points between them at least, and no longer only if each
name is written as it is. So a text that was put together from names and points is read as an access
along these names exactly if they are names indeed.
-/

namespace TypedLayouts

namespace Identifier

variable {c : Char}

theorem isContinue_of_isStart (h : isStart c = true) : isContinue c = true := by
  unfold isStart at h
  unfold isContinue isInner
  rcases Bool.or_eq_true_iff.mp h with h | h
  · rw [h, Bool.true_or, Bool.true_or]
  · rw [h, Bool.or_true]

/-- Identifiers are made of ASCII characters. -/
theorem toNat_lt_of_isContinue (h : isContinue c = true) : c.toNat < 128 := by
  unfold isContinue isInner isEdge Char.isAlpha Char.isUpper Char.isLower Char.isDigit at h
  simp only [Bool.or_eq_true, Bool.and_eq_true, decide_eq_true_eq, beq_iff_eq, ge_iff_le,
    UInt32.le_iff_toNat_le] at h
  rcases h with (((⟨-, h⟩ | ⟨-, h⟩) | rfl) | ⟨-, h⟩) | rfl
  · exact Nat.lt_of_le_of_lt h (by decide)
  · exact Nat.lt_of_le_of_lt h (by decide)
  · decide
  · exact Nat.lt_of_le_of_lt h (by decide)
  · decide

end Identifier

namespace TypeScript

/-- The characters that names are made of. Which characters beyond ASCII they are is a matter of
Unicode, and is left open. -/
structure NameCharacters where
  /-- The character may open a name. -/
  opens : Char → Bool
  /-- The character may continue a name. -/
  continues : Char → Bool
  opens_ascii : ∀ c, c.toNat < 128 → opens c = Identifier.isStart c
  continues_ascii : ∀ c, c.toNat < 128 → continues c = Identifier.isContinue c

/-! ## Names and what stands around them -/

/-- The code point that hexadecimal digits stand for. -/
def codePoint? (digits : List Char) : Option Nat :=
  digits.foldlM (fun n digit => (Json.Reading.hexValue digit).map (16 * n + ·)) 0

/-- The text writes one character of a name. -/
inductive Writes (c : Char) : List Char → Prop where
  /-- The character itself. -/
  | itself : Writes c [c]
  /-- Its code point in four digits. -/
  | digits {digits : List Char} (hlength : digits.length = 4)
    (hcode : codePoint? digits = some c.toNat) : Writes c ('\\' :: 'u' :: digits)
  /-- Its code point in braces. -/
  | braces {digits : List Char} (hdigits : digits ≠ [])
    (hcode : codePoint? digits = some c.toNat) :
    Writes c ('\\' :: 'u' :: '\x7b' :: (digits ++ ['\x7d']))

/-- The text writes characters of a name one after the other. -/
inductive WritesAll : List Char → List Char → Prop where
  | nil : WritesAll [] []
  | cons {c : Char} {cs text rest : List Char} (h : Writes c text) (hrest : WritesAll cs rest) :
    WritesAll (c :: cs) (text ++ rest)

/-- Blanks, line ends and comments. -/
inductive Gap : List Char → Prop where
  | nil : Gap []
  /-- A blank or line end. -/
  | blank {c : Char} {rest : List Char} (h : Lexeme.isBlank c = true) (hrest : Gap rest) :
    Gap (c :: rest)
  /-- A comment between marks. -/
  | comment {body rest : List Char} (h : ¬ ['*', '/'] <:+: body) (hrest : Gap rest) :
    Gap ('/' :: '*' :: (body ++ '*' :: '/' :: rest))
  /-- A comment up to the end of its line. -/
  | lineComment {body rest : List Char} {c : Char} (h : ∀ d ∈ body, Lexeme.isLineEnd d = false)
    (hend : Lexeme.isLineEnd c = true) (hrest : Gap rest) :
    Gap ('/' :: '/' :: (body ++ c :: rest))

/-- Names of ASCII characters only. -/
def NameCharacters.ascii : NameCharacters where
  opens := Identifier.isStart
  continues := Identifier.isContinue
  opens_ascii _ _ := rfl
  continues_ascii _ _ := rfl

namespace NameCharacters

variable {chars : NameCharacters} {text front name : List Char} {names : List (List Char)}

/-- The characters are a name: one that may open it, and then such as may continue it. -/
def IsName (chars : NameCharacters) (name : List Char) : Prop :=
  ∃ c cs, name = c :: cs ∧ chars.opens c = true ∧ ∀ d ∈ cs, chars.continues d = true

/-- Read as an expression, the text is an access along some names: a variable, a property of its
value, a property of that, and so on. -/
inductive Access (chars : NameCharacters) : List Char → List (List Char) → Prop where
  /-- A variable. -/
  | root {before text after name : List Char} (hbefore : Gap before) (hname : chars.IsName name)
    (htext : WritesAll name text) (hafter : Gap after) :
    Access chars (before ++ (text ++ after)) [name]
  /-- A property behind a point. -/
  | property {front before text after name : List Char} {names : List (List Char)}
    (hfront : Access chars front names) (hbefore : Gap before) (hname : chars.IsName name)
    (htext : WritesAll name text) (hafter : Gap after) :
    Access chars (front ++ '.' :: (before ++ (text ++ after))) (names ++ [name])
  /-- A property between brackets. -/
  | element {front before inside after : List Char} {names : List (List Char)} {name : String}
    (hfront : Access chars front names) (hbefore : Gap before) (hinside : Gap inside)
    (hafter : Gap after) :
    Access chars (front ++ '[' :: (before ++ ((quote name).toList ++ (inside ++ ']' :: after))))
      (names ++ [name.toList])

/-! ## The length of an access -/

end NameCharacters

theorem Writes.one_le_length {c : Char} {text : List Char} (h : Writes c text) :
    1 ≤ text.length := by
  cases h with
  | itself => exact Nat.le_refl 1
  | digits => simp
  | braces => simp

theorem WritesAll.length_le {name text : List Char} (h : WritesAll name text) :
    name.length ≤ text.length := by
  induction h with
  | nil => exact Nat.le_refl 0
  | cons h _ ih =>
    have hone := h.one_le_length
    rw [List.length_cons, List.length_append]
    omega

theorem writesAll_self (name : List Char) : WritesAll name name := by
  induction name with
  | nil => exact .nil
  | cons c cs ih => exact .cons .itself ih

/-- A literal is longer than its text by the quotes at least. -/
theorem length_quote (s : String) : s.toList.length + 2 ≤ (quote s).toList.length := by
  have hpiece : ∀ c, escapeChar c ≠ [] := by
    intro c
    rcases escapeChar_cases c with ⟨e, -, he⟩ | ⟨-, he⟩
    · simp [he]
    · simp [he]
  have hs := Text.length_le_flatMap hpiece s.toList
  rw [toList_quote, List.length_cons, List.length_append, List.length_singleton]
  omega

namespace NameCharacters

variable {chars : NameCharacters} {text front name : List Char} {names : List (List Char)}

/-- How long names are with points between them, and one point more. -/
def span : List (List Char) → Nat
  | [] => 0
  | name :: names => name.length + 1 + span names

@[simp] theorem span_append (names : List (List Char)) (name : List Char) :
    span (names ++ [name]) = span names + (name.length + 1) := by
  induction names with
  | nil => simp [span]
  | cons front names ih =>
    rw [List.cons_append, span, span, ih]
    omega

theorem Access.span_le (h : chars.Access text names) : span names ≤ text.length + 1 := by
  induction h with
  | @root before text after name _ _ htext _ =>
    have hlength := htext.length_le
    simp only [span, List.length_append]
    omega
  | @property front before text after name names _ _ _ htext _ ih =>
    have hlength := htext.length_le
    simp only [span_append, List.length_append, List.length_cons]
    omega
  | @element front before inside after names name _ _ _ _ ih =>
    have hlength := length_quote name
    simp only [span_append, List.length_append, List.length_cons]
    omega

/-- In a text that is no longer than its names, they are names all. -/
theorem Access.isName (h : chars.Access text names) (hlength : text.length + 1 ≤ span names) :
    ∀ name ∈ names, chars.IsName name := by
  induction h with
  | @root before text after name _ hname _ _ => simpa using hname
  | @property front before text after name names hfront _ hname htext _ ih =>
    have htext := htext.length_le
    simp only [span_append, List.length_append, List.length_cons] at hlength
    rw [List.forall_mem_append, List.forall_mem_singleton]
    exact ⟨ih (by omega), hname⟩
  | @element front before inside after names name hfront _ _ _ ih =>
    -- The brackets and quotes are too much.
    have hquote := length_quote name
    have hspan := hfront.span_le
    simp only [span_append, List.length_append, List.length_cons] at hlength
    omega

/-! ## Names -/

/-- An identifier is a name, whichever the names beyond ASCII are. -/
theorem isName_of_isValid {word : String} (h : Identifier.isValid word = true) :
    chars.IsName word.toList := by
  obtain ⟨c, cs, hword, hc, hcs⟩ := Identifier.isValid_iff.mp h
  refine ⟨c, cs, hword, ?_, fun d hd => ?_⟩
  · have hascii := Identifier.toNat_lt_of_isContinue (Identifier.isContinue_of_isStart hc)
    rw [chars.opens_ascii c hascii, hc]
  · rw [chars.continues_ascii d (Identifier.toNat_lt_of_isContinue (hcs d hd)), hcs d hd]

/-- A mark of ASCII makes a text no name. -/
theorem not_isName_of_mem {c : Char} (hmem : c ∈ name) (hascii : c.toNat < 128)
    (hmark : Identifier.isContinue c = false) : ¬ chars.IsName name := by
  rintro ⟨first, rest, rfl, hfirst, hrest⟩
  rcases List.mem_cons.mp hmem with rfl | hmem
  · rw [chars.opens_ascii _ hascii] at hfirst
    rw [Identifier.isContinue_of_isStart hfirst] at hmark
    cases hmark
  · rw [← chars.continues_ascii c hascii, hrest c hmem] at hmark
    cases hmark

/-- A name is read as it is. -/
theorem access_name (h : chars.IsName name) : chars.Access name [name] := by
  have haccess := Access.root .nil h (writesAll_self name) .nil
  rwa [List.nil_append, List.append_nil] at haccess

/-- A name behind a point is read as a property. -/
theorem Access.behind_point (hfront : chars.Access front names) (h : chars.IsName name) :
    chars.Access (front ++ '.' :: name) (names ++ [name]) := by
  have haccess := hfront.property .nil h (writesAll_self name) .nil
  rwa [List.nil_append, List.append_nil] at haccess

end NameCharacters

end TypeScript

end TypedLayouts
