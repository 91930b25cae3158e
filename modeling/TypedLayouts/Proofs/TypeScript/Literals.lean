import TypedLayouts.Text.Reader
import TypedLayouts.TypeScript.Printer

/-!
# String literals in printed text

Literal expressions, literal types, keys that are no identifiers and the sources of imports and
exports are printed as one and the same literal. Any reader of literals that knows the five escapes
finds the text in it again and stops right behind it, whatever follows, and the literal keeps to its
line. Escaping a character at a time comes to the same as replacing the five characters in turn,
the backslash first.
-/

namespace TypedLayouts.TypeScript

open TypedLayouts.Text (Reader)

/-! ## Escapes -/

/-- The characters that are written with a backslash, each with the character behind it. -/
def escapes : List (Char × Char) :=
  [('\\', '\\'), ('"', '"'), ('\n', 'n'), ('\r', 'r'), ('\t', 't')]

theorem escapeChar_of_mem {c e : Char} (h : (c, e) ∈ escapes) : escapeChar c = ['\\', e] := by
  unfold escapes at h
  simp only [List.mem_cons, List.not_mem_nil, or_false, Prod.mk.injEq] at h
  rcases h with ⟨rfl, rfl⟩ | ⟨rfl, rfl⟩ | ⟨rfl, rfl⟩ | ⟨rfl, rfl⟩ | ⟨rfl, rfl⟩
  all_goals rfl

theorem escapeChar_of_not_mem {c : Char} (h : c ∉ escapes.map Prod.fst) : escapeChar c = [c] := by
  unfold escapeChar
  split
  case h_6 => rfl
  all_goals exact absurd (by decide) h

/-- A character is written with a backslash or as itself. -/
theorem escapeChar_cases (c : Char) :
    (∃ e, (c, e) ∈ escapes ∧ escapeChar c = ['\\', e]) ∨
      (c ∉ escapes.map Prod.fst ∧ escapeChar c = [c]) := by
  by_cases h : c ∈ escapes.map Prod.fst
  · obtain ⟨⟨_, e⟩, hmem, rfl⟩ := List.mem_map.mp h
    exact .inl ⟨e, hmem, escapeChar_of_mem hmem⟩
  · exact .inr ⟨h, escapeChar_of_not_mem h⟩

theorem toList_quote (s : String) :
    (quote s).toList = '"' :: (s.toList.flatMap escapeChar ++ ['"']) := by
  have hinner := String.toList_ofList (l := s.toList.flatMap escapeChar)
  unfold quote escape
  rw [String.toList_append, String.toList_append, hinner]
  rfl

/-! ## Escaping in turn -/

/-- A text with another text in place of each occurrence of a character. -/
def replaceEach (c : Char) (replacement cs : List Char) : List Char :=
  cs.flatMap fun d => if d = c then replacement else [d]

/-- A text with one character after the other escaped. -/
def escapeInTurn (cs : List Char) : List Char :=
  escapes.foldl (fun cs escape => replaceEach escape.1 ['\\', escape.2] cs) cs

theorem replaceEach_append (c : Char) (replacement cs ds : List Char) :
    replaceEach c replacement (cs ++ ds) =
      replaceEach c replacement cs ++ replaceEach c replacement ds :=
  List.flatMap_append

theorem escapeInTurn_append (cs ds : List Char) :
    escapeInTurn (cs ++ ds) = escapeInTurn cs ++ escapeInTurn ds := by
  unfold escapeInTurn escapes
  simp only [List.foldl_cons, List.foldl_nil, replaceEach_append]

/-- No later replacement touches what an earlier one has written. -/
theorem escapeInTurn_singleton (c : Char) : escapeInTurn [c] = escapeChar c := by
  rcases escapeChar_cases c with ⟨e, hmem, he⟩ | ⟨hmem, he⟩
  · rw [he]
    unfold escapes at hmem
    simp only [List.mem_cons, List.not_mem_nil, or_false, Prod.mk.injEq] at hmem
    rcases hmem with ⟨rfl, rfl⟩ | ⟨rfl, rfl⟩ | ⟨rfl, rfl⟩ | ⟨rfl, rfl⟩ | ⟨rfl, rfl⟩
    all_goals rfl
  · rw [he]
    unfold escapes at hmem
    simp only [List.map_cons, List.map_nil, List.mem_cons, List.not_mem_nil, or_false,
      not_or] at hmem
    obtain ⟨hbackslash, hquote, hline, hreturn, htab⟩ := hmem
    unfold escapeInTurn escapes replaceEach
    simp [hbackslash, hquote, hline, hreturn, htab]

theorem escapeInTurn_eq (cs : List Char) : escapeInTurn cs = cs.flatMap escapeChar := by
  induction cs with
  | nil => rfl
  | cons c cs ih =>
    rw [← List.singleton_append, escapeInTurn_append, escapeInTurn_singleton, ih]
    rfl

/-! ## Readers of literals -/

/-- A reader of string literals behind the opening quote. It knows the five escapes, it takes every
other character but the five for itself, and it ends behind the first quote without a backslash.
What it makes of other escapes, or of a bare line end, is left open. -/
structure LiteralReader where
  /-- Read the characters of a literal and the quote behind them. -/
  read : Reader (List Char)
  /-- A quote ends the literal. -/
  read_quote : ∀ rest, read ('"' :: rest) = some ([], rest)
  /-- An escape stands for its character. -/
  read_escape : ∀ c e, (c, e) ∈ escapes → ∀ rest,
    read ('\\' :: e :: rest) = (read rest).map fun (text, rest) => (c :: text, rest)
  /-- A character that is never escaped stands for itself. -/
  read_plain : ∀ c, c ∉ escapes.map Prod.fst → ∀ rest,
    read (c :: rest) = (read rest).map fun (text, rest) => (c :: text, rest)

namespace LiteralReader

variable (reader : LiteralReader)

/-- Read a literal from its opening quote on. -/
def literal : Reader String
  | '"' :: cs => (reader.read cs).map fun (text, rest) => (String.ofList text, rest)
  | _ => none

theorem read_escapeChar (c : Char) (rest : List Char) :
    reader.read (escapeChar c ++ rest) =
      (reader.read rest).map fun (text, rest) => (c :: text, rest) := by
  rcases escapeChar_cases c with ⟨e, hmem, he⟩ | ⟨hmem, he⟩
  · rw [he]
    exact reader.read_escape c e hmem rest
  · rw [he]
    exact reader.read_plain c hmem rest

theorem read_escaped (text rest : List Char) :
    reader.read (text.flatMap escapeChar ++ '"' :: rest) = some (text, rest) := by
  induction text with
  | nil => exact reader.read_quote rest
  | cons c text ih =>
    rw [List.flatMap_cons, List.append_assoc, reader.read_escapeChar, ih]
    rfl

/-- A literal is read as the text it was printed for, up to its end. -/
theorem literal_quote_append (s : String) (rest : List Char) :
    reader.literal ((quote s).toList ++ rest) = some (s, rest) := by
  rw [toList_quote, List.cons_append, List.append_assoc, List.singleton_append]
  rw [literal, reader.read_escaped, Option.map_some]
  dsimp only
  rw [String.ofList_toList]

end LiteralReader

/-! ## Printed literals -/

/-- The text is a literal for `s`: every reader finds `s` in it and leaves what stands behind it,
and it has no line end and no tab. -/
structure IsLiteralOf (s : String) (literal : String) : Prop where
  reads : ∀ (reader : LiteralReader) (rest : List Char),
    reader.literal (literal.toList ++ rest) = some (s, rest)
  unbroken : ∀ c ∈ ['\n', '\r', '\t'], c ∉ literal.toList

theorem not_mem_escapeChar {c : Char} (hc : c ∈ ['\n', '\r', '\t']) (d : Char) :
    c ∉ escapeChar d := by
  rcases escapeChar_cases d with ⟨e, hmem, he⟩ | ⟨hmem, he⟩
  · have hescapes : ∀ escape ∈ escapes, ∀ c ∈ ['\n', '\r', '\t'], c ∉ ['\\', escape.2] := by
      simp [escapes]
    rw [he]
    exact hescapes (d, e) hmem c hc
  · have hescaped : ∀ c ∈ ['\n', '\r', '\t'], c ∈ escapes.map Prod.fst := by
      simp [escapes]
    rw [he, List.mem_singleton]
    rintro rfl
    exact hmem (hescaped c hc)

theorem isLiteralOf_quote (s : String) : IsLiteralOf s (quote s) := by
  refine ⟨fun reader rest => reader.literal_quote_append s rest, fun c hc hmem => ?_⟩
  have hquote : c ≠ '"' := by
    rintro rfl
    exact absurd hc (by decide)
  rw [toList_quote] at hmem
  rcases List.mem_cons.mp hmem with rfl | hmem
  · exact hquote rfl
  · rcases List.mem_append.mp hmem with hmem | hmem
    · obtain ⟨d, -, hd⟩ := List.mem_flatMap.mp hmem
      exact not_mem_escapeChar hc d hd
    · exact hquote (List.mem_singleton.mp hmem)

/-- A text has one literal, wherever it is printed: as an expression, as a type, as a key unless it
is an identifier, and as the source of an import or export. The literal is read back as the text,
keeps to its line, and has between its quotes what replacing the five characters in turn gives. -/
theorem printed_literal (s : String) :
    ∃ literal, IsLiteralOf s literal ∧
      (∀ depth, (Expr.string s).render depth = literal) ∧
      (∀ depth, (TypeExpr.literal s).render depth = literal) ∧
      renderKey s = (if Identifier.isValid s then s else literal) ∧
      (∀ names, (Statement.importNames names s).render =
        "import \x7b " ++ String.intercalate ", " names ++ " \x7d from " ++ literal ++ ";") ∧
      (∀ specifiers, (Statement.exportFrom specifiers s).render =
        "export \x7b " ++ String.intercalate ", " (specifiers.map ExportSpecifier.render)
          ++ " \x7d from " ++ literal ++ ";") ∧
      literal.toList = '"' :: (escapeInTurn s.toList ++ ['"']) := by
  refine ⟨quote s, isLiteralOf_quote s, fun _ => rfl, fun _ => rfl, rfl, fun _ => rfl,
    fun _ => rfl, ?_⟩
  rw [toList_quote, escapeInTurn_eq]

end TypedLayouts.TypeScript
