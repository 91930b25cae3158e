import Mathlib.Data.List.TakeWhile
import TypedLayouts.Proofs.Text.Cuts
import TypedLayouts.Text.Percent
import TypedLayouts.Toml.Document

/-!
# Lines of TOML

How strings, keys and values are written in TOML, and that each is read back from its text. A line
is a text that is read as the same thing whatever lines stand behind it; a document of such lines is
read line by line.
-/

namespace TypedLayouts.Toml

open Text (upperHexDigit)

/-! ## Strings -/

/-- The characters with an escape of one letter. -/
def shortEscapes : List (Char × Char) :=
  [('"', '"'), ('\\', '\\'), ('\x08', 'b'), ('\t', 't'), ('\n', 'n'), ('\x0c', 'f'), ('\r', 'r')]

/-- How a character is written in a basic string: with its short escape, as it is, or by its code
point when it is a control character. -/
def writtenChar (c : Char) : List Char :=
  match shortEscapes.lookup c with
  | some e => ['\\', e]
  | none =>
    if isCommentChar c then [c]
    else ['\\', 'u', '0', '0', upperHexDigit (c.toNat / 16), upperHexDigit (c.toNat % 16)]

/-- The basic string for a text. -/
def quoted (s : String) : List Char :=
  '"' :: (s.toList.flatMap writtenChar ++ ['"'])

theorem escape_short {c e : Char} (h : shortEscapes.lookup c = some e) (rest : List Char) :
    escape (e :: rest) = some (c, rest) := by
  have hmem : (c, e) ∈ shortEscapes := by
    obtain ⟨front, behind, heq, -⟩ := List.lookup_eq_some_iff.mp h
    rw [heq]
    exact List.mem_append_right front List.mem_cons_self
  unfold shortEscapes at hmem
  simp only [List.mem_cons, List.not_mem_nil, or_false, Prod.mk.injEq] at hmem
  rcases hmem with ⟨rfl, rfl⟩ | ⟨rfl, rfl⟩ | ⟨rfl, rfl⟩ | ⟨rfl, rfl⟩ | ⟨rfl, rfl⟩ | ⟨rfl, rfl⟩ |
    ⟨rfl, rfl⟩
  all_goals rfl

theorem hexValue_upperHexDigit {n : Nat} (h : n < 16) : hexValue (upperHexDigit n) = some n := by
  have hall : ∀ n < 16, hexValue (upperHexDigit n) = some n := by decide
  exact hall n h

theorem charOf_toNat (c : Char) : charOf c.toNat = some c := by
  have hvalid : c.toNat.isValidChar := c.valid
  unfold charOf
  rw [dif_pos hvalid]
  rfl

/-- A character below 256 is read back from its code point. -/
theorem escape_codePoint {c : Char} (h : c.toNat < 256) (rest : List Char) :
    escape ('u' :: '0' :: '0' :: upperHexDigit (c.toNat / 16) :: upperHexDigit (c.toNat % 16)
      :: rest) = some (c, rest) := by
  have hzero : hexValue '0' = some 0 := rfl
  have hhigh : hexValue (upperHexDigit (c.toNat / 16)) = some (c.toNat / 16) :=
    hexValue_upperHexDigit (by omega)
  have hlow : hexValue (upperHexDigit (c.toNat % 16)) = some (c.toNat % 16) :=
    hexValue_upperHexDigit (by omega)
  have hdigits : hexDigits 4 0 ('0' :: '0' :: upperHexDigit (c.toNat / 16)
      :: upperHexDigit (c.toNat % 16) :: rest) = some (c.toNat, rest) := by
    have hsum : ((0 * 16 + 0) * 16 + 0) * 16 + c.toNat / 16 = c.toNat / 16 := by omega
    have htotal : c.toNat / 16 * 16 + c.toNat % 16 = c.toNat := by omega
    simp only [hexDigits, hzero, hhigh, hlow, hsum, htotal]
  unfold escape
  simp only [hdigits, Option.bind_eq_bind, Option.bind_some, charOf_toNat]
  rfl

theorem toNat_lt_of_not_isCommentChar {c : Char} (h : isCommentChar c = false) : c.toNat < 256 := by
  unfold isCommentChar at h
  simp only [Bool.or_eq_false_iff, Bool.and_eq_false_iff, decide_eq_false_iff_not,
    bne_eq_false_iff_eq] at h
  omega

/-- A written character is read as the character. -/
theorem basicString_writtenChar (c : Char) (steps : Nat) (rest : List Char) :
    basicString (steps + 1) (writtenChar c ++ rest) =
      (basicString steps rest).map fun (text, rest) => (c :: text, rest) := by
  have hescaped : ∀ cs, escape cs = some (c, rest) → basicString (steps + 1) ('\\' :: cs) =
      (basicString steps rest).map fun (text, rest) => (c :: text, rest) := by
    intro cs hcs
    rw [basicString]
    simp only [hcs, Option.bind_eq_bind, Option.bind_some]
    cases basicString steps rest <;> rfl
  unfold writtenChar
  split
  · rename_i e he
    exact hescaped _ (escape_short he rest)
  · rename_i hshort
    split
    · rename_i hplain
      have hquote : c ≠ '"' := by
        rintro rfl
        cases hshort
      have hbackslash : c ≠ '\\' := by
        rintro rfl
        cases hshort
      rw [List.singleton_append, basicString]
      · simp only [hplain, if_true, Option.bind_eq_bind]
        cases basicString steps rest <;> rfl
      · exact hquote
      · exact hbackslash
    · rename_i hcontrol
      exact hescaped _ (escape_codePoint
        (toNat_lt_of_not_isCommentChar (Bool.eq_false_iff.mpr hcontrol)) rest)

theorem basicString_written (text rest : List Char) {steps : Nat} (h : text.length < steps) :
    basicString steps (text.flatMap writtenChar ++ '"' :: rest) = some (text, rest) := by
  induction text generalizing steps with
  | nil =>
    obtain ⟨n, rfl⟩ := Nat.exists_eq_add_of_lt h
    rw [List.length_nil, Nat.zero_add]
    rfl
  | cons c text ih =>
    rw [List.length_cons] at h
    obtain ⟨n, rfl⟩ := Nat.exists_eq_add_of_lt h
    have hrest : basicString (text.length + 1 + n) (text.flatMap writtenChar ++ '"' :: rest) =
        some (text, rest) := ih (by omega)
    rw [List.flatMap_cons, List.append_assoc, basicString_writtenChar, hrest]
    rfl

theorem writtenChar_ne_nil (c : Char) : writtenChar c ≠ [] := by
  unfold writtenChar
  split
  · simp
  · split <;> simp

/-- What is written for a character does not open with a quote. -/
theorem head?_writtenChar (c : Char) : ∀ d ∈ (writtenChar c).head?, d ≠ '"' := by
  unfold writtenChar
  split
  · simp
  · rename_i hshort
    split
    · rintro d hd rfl
      obtain rfl := Option.some.inj hd
      cases hshort
    · simp

theorem quoted_append (s : String) (rest : List Char) :
    quoted s ++ rest = '"' :: (s.toList.flatMap writtenChar ++ '"' :: rest) := by
  unfold quoted
  rw [List.cons_append, List.append_assoc, List.singleton_append]

theorem basicString_quoted (s : String) (rest : List Char) :
    basicString ((s.toList.flatMap writtenChar ++ '"' :: rest).length + 1)
      (s.toList.flatMap writtenChar ++ '"' :: rest) = some (s.toList, rest) := by
  refine basicString_written s.toList rest ?_
  have hlength := Text.length_le_flatMap writtenChar_ne_nil s.toList
  rw [List.length_append, List.length_cons]
  omega

/-- A string is read in front of a text that does not go on with a quote. -/
theorem stringValue_quoted (s : String) {rest : List Char} (h : rest.head? ≠ some '"') :
    stringValue (quoted s ++ rest) = some (s, rest) := by
  have hclosed : ∀ more, s.toList.flatMap writtenChar ++ '"' :: rest = '"' :: '"' :: more →
      False := by
    intro more heq
    cases hs : s.toList with
    | nil =>
      rw [hs] at heq
      exact h (congrArg List.head? (List.cons.inj heq).2)
    | cons c cs =>
      rw [hs, List.flatMap_cons, List.append_assoc] at heq
      have hhead := congrArg List.head? heq
      rw [List.head?_append] at hhead
      cases hc : (writtenChar c).head? with
      | none => exact absurd (List.head?_eq_none_iff.mp hc) (writtenChar_ne_nil c)
      | some d =>
        rw [hc] at hhead
        exact head?_writtenChar c d hc (Option.some.inj hhead)
  rw [quoted_append, stringValue]
  · rw [basicString_quoted]
    simp only [Option.bind_eq_bind, Option.bind_some, String.ofList_toList]
    rfl
  · exact hclosed

/-! ## Keys -/

/-- The key may be written without quotes. -/
def isBare (key : String) : Bool :=
  !key.isEmpty && key.toList.all isKeyChar

/-- How a key is written: bare if it can be, and otherwise as a basic string. -/
def keyText (key : String) : List Char :=
  if isBare key then key.toList else quoted key

theorem exists_of_isBare {key : String} (h : isBare key = true) :
    ∃ c cs, key.toList = c :: cs ∧ ∀ d ∈ key.toList, isKeyChar d = true := by
  unfold isBare at h
  rw [Bool.and_eq_true, List.all_eq_true] at h
  have hkey : key.toList ≠ [] := by
    rw [ne_eq, String.toList_eq_nil_iff]
    rintro rfl
    cases h.1
  obtain ⟨c, cs, hcs⟩ := List.exists_cons_of_ne_nil hkey
  exact ⟨c, cs, hcs, h.2⟩

theorem simpleKey_bare {key : String} {rest : List Char} (hbare : isBare key = true)
    (h : ∀ c ∈ rest.head?, isKeyChar c = false) :
    simpleKey (key.toList ++ rest) = some (key, rest) := by
  obtain ⟨c, cs, hcs, hall⟩ := exists_of_isBare hbare
  have hnone : rest.takeWhile isKeyChar = [] ∧ rest.dropWhile isKeyChar = rest := by
    cases rest with
    | nil => exact ⟨rfl, rfl⟩
    | cons d more =>
      have hd := h d rfl
      exact ⟨List.takeWhile_cons_of_neg (by simp [hd]), List.dropWhile_cons_of_neg (by simp [hd])⟩
  have htake : (key.toList ++ rest).takeWhile isKeyChar = key.toList := by
    rw [List.takeWhile_append_of_pos hall, hnone.1, List.append_nil]
  have hdrop : (key.toList ++ rest).dropWhile isKeyChar = rest := by
    rw [List.dropWhile_append_of_pos hall, hnone.2]
  have hc : isKeyChar c = true := hall c (hcs ▸ List.mem_cons_self)
  have hcons : key.toList ++ rest = c :: (cs ++ rest) := by
    rw [hcs, List.cons_append]
  rw [hcons] at htake hdrop
  rw [hcons, simpleKey]
  · rw [htake, hdrop, hcs]
    dsimp only
    rw [← hcs, String.ofList_toList]
  · rintro more ⟨⟩
    cases hc
  · rintro more ⟨⟩
    cases hc

theorem simpleKey_keyText (key : String) {rest : List Char}
    (h : ∀ c ∈ rest.head?, isKeyChar c = false) :
    simpleKey (keyText key ++ rest) = some (key, rest) := by
  unfold keyText
  split
  · rename_i hbare
    exact simpleKey_bare hbare h
  · rw [quoted_append, simpleKey, basicString_quoted]
    simp only [Option.bind_eq_bind, Option.bind_some, String.ofList_toList]
    rfl

/-- A key opens with a character of a bare key or with a quote. -/
theorem keyText_opens (key : String) :
    ∃ c cs, keyText key = c :: cs ∧ (isKeyChar c = true ∨ c = '"') := by
  unfold keyText
  split
  · rename_i hbare
    obtain ⟨c, cs, hcs, hall⟩ := exists_of_isBare hbare
    exact ⟨c, cs, hcs, .inl (hall c (hcs ▸ List.mem_cons_self))⟩
  · exact ⟨'"', _, rfl, .inr rfl⟩

theorem ne_of_opens {c d : Char} (hc : isKeyChar c = true ∨ c = '"') (hd : isKeyChar d = false)
    (hquote : d ≠ '"') : c ≠ d := by
  rintro rfl
  rcases hc with hc | hc
  · rw [hc] at hd
    cases hd
  · exact hquote hc

theorem skipBlanks_keyText (key : String) (behind : List Char) :
    skipBlanks (keyText key ++ behind) = keyText key ++ behind := by
  obtain ⟨c, cs, hkey, hc⟩ := keyText_opens key
  have hblank : isBlank c = false := by
    unfold isBlank
    rw [beq_eq_false_iff_ne.mpr (ne_of_opens hc rfl (by decide)),
      beq_eq_false_iff_ne.mpr (ne_of_opens hc rfl (by decide))]
    rfl
  unfold skipBlanks
  rw [hkey, List.cons_append, List.dropWhile_cons_of_neg (by rw [hblank]; exact Bool.false_ne_true)]

/-- A key is read up to what stands behind it and behind blanks, unless this is a point. -/
theorem dottedKey_keyText (key : String) {behind : List Char}
    (h : ∀ c ∈ behind.head?, isKeyChar c = false)
    (hdot : ∀ c ∈ (skipBlanks behind).head?, c ≠ '.') :
    dottedKey (keyText key ++ behind) = some (([], key), skipBlanks behind) := by
  have hparts : keyParts ((keyText key ++ behind).length + 1) (keyText key ++ behind) =
      some (([], key), skipBlanks behind) := by
    rw [keyParts, skipBlanks_keyText, simpleKey_keyText key h]
    simp only [Option.bind_eq_bind, Option.bind_some]
    split
    · rename_i rest hrest
      rw [hrest] at hdot
      exact absurd rfl (hdot '.' rfl)
    · rfl
  unfold dottedKey
  rw [hparts]
  rfl

/-! ## Values -/

/-- The values that settings have. -/
inductive Value where
  /-- A text. -/
  | text (s : String)
  /-- A truth value. -/
  | flag (b : Bool)
  /-- An array without items. -/
  | nothing

/-- How a value is written. -/
def Value.written : Value → List Char
  | .text s => quoted s
  | .flag true => "true".toList
  | .flag false => "false".toList
  | .nothing => ['[', ']']

/-- What a value is read as. -/
def Value.node : Value → Node
  | .text s => .string s
  | .flag b => .bool b
  | .nothing => .array []

theorem value_written (v : Value) (levels steps : Nat) (rest : List Char) :
    value (levels + 1) (steps + 2) (v.written ++ '\n' :: rest) = some (v.node, '\n' :: rest) := by
  cases v with
  | text s =>
    have hread : stringValue (quoted s ++ '\n' :: rest) = some (s, '\n' :: rest) :=
      stringValue_quoted s (by simp)
    unfold Value.written
    rw [quoted_append] at hread ⊢
    rw [value, hread]
    rfl
  | flag b =>
    cases b with
    | true => rfl
    | false => rfl
  | nothing => rfl

theorem skipBlanks_written (v : Value) (rest : List Char) :
    skipBlanks (v.written ++ rest) = v.written ++ rest := by
  cases v with
  | text s =>
    unfold Value.written
    rw [quoted_append]
    rfl
  | flag b =>
    cases b with
    | true => rfl
    | false => rfl
  | nothing => rfl

/-! ## Lines -/

/-- The text is read as a line, whatever stands behind its end. -/
def IsLine (text : List Char) (line : Line) : Prop :=
  ∀ rest, ∃ behind, lineBody (skipBlanks (text ++ '\n' :: rest)) = some (line, behind) ∧
    skipComment (skipBlanks behind) = '\n' :: rest

theorem isLine_empty : IsLine [] .empty :=
  fun rest => ⟨'\n' :: rest, rfl, rfl⟩

/-- The line `key = value`. -/
def settingText (key : String) (v : Value) : List Char :=
  keyText key ++ ' ' :: '=' :: ' ' :: v.written

theorem isLine_setting (key : String) (v : Value) :
    IsLine (settingText key v) (.pair ([], key, v.node)) := by
  intro rest
  refine ⟨'\n' :: rest, ?_, rfl⟩
  obtain ⟨c, cs, hkey, hc⟩ := keyText_opens key
  have hkeyRead : dottedKey (keyText key ++ ' ' :: '=' :: ' ' :: (v.written ++ '\n' :: rest)) =
      some (([], key), '=' :: ' ' :: (v.written ++ '\n' :: rest)) :=
    dottedKey_keyText key (by simp; decide) (by simp [skipBlanks, isBlank])
  have htext : settingText key v ++ '\n' :: rest =
      keyText key ++ ' ' :: '=' :: ' ' :: (v.written ++ '\n' :: rest) := by
    unfold settingText
    simp only [List.append_assoc, List.cons_append]
  have hvalue : value depthLimit (2 * (' ' :: (v.written ++ '\n' :: rest)).length + 2)
      (skipBlanks (' ' :: (v.written ++ '\n' :: rest))) = some (v.node, '\n' :: rest) := by
    have hblank : skipBlanks (' ' :: (v.written ++ '\n' :: rest)) =
        skipBlanks (v.written ++ '\n' :: rest) := rfl
    rw [hblank, skipBlanks_written]
    exact value_written v 78 _ rest
  rw [htext, skipBlanks_keyText]
  rw [hkey, List.cons_append] at hkeyRead ⊢
  -- No line of another kind opens as a key does.
  rw [lineBody]
  · rw [hkeyRead]
    simp only [Option.bind_eq_bind, Option.bind_some, hvalue]
    rfl
  · intro more heq
    exact ne_of_opens hc (d := '[') rfl (by decide) (List.cons.inj heq).1
  · rintro more ⟨⟩
    exact ne_of_opens hc (d := '[') rfl (by decide) rfl
  · rintro more ⟨⟩
    exact ne_of_opens hc (d := '#') rfl (by decide) rfl
  · rintro more ⟨⟩
    exact ne_of_opens hc (d := '\n') rfl (by decide) rfl
  · rintro more ⟨⟩
    exact ne_of_opens hc (d := '\r') rfl (by decide) rfl
  · rintro ⟨⟩

theorem isLine_table (key : String) : IsLine ('[' :: (keyText key ++ [']'])) (.table [] key) := by
  intro rest
  refine ⟨'\n' :: rest, ?_, rfl⟩
  obtain ⟨c, cs, hkey, hc⟩ := keyText_opens key
  have hkeyRead : dottedKey (keyText key ++ ']' :: '\n' :: rest) =
      some (([], key), ']' :: '\n' :: rest) :=
    dottedKey_keyText key (by simp; decide) (by simp [skipBlanks, isBlank])
  have htext : skipBlanks ('[' :: (keyText key ++ [']']) ++ '\n' :: rest) =
      '[' :: (keyText key ++ ']' :: '\n' :: rest) := by
    rw [List.cons_append, List.append_assoc]
    rfl
  rw [htext]
  rw [hkey, List.cons_append] at hkeyRead ⊢
  rw [lineBody]
  · rw [hkeyRead]
    rfl
  · rintro more ⟨⟩
    exact ne_of_opens hc (d := '[') rfl (by decide) rfl

theorem isLine_tableItem (key : String) :
    IsLine ('[' :: '[' :: (keyText key ++ [']', ']'])) (.tableItem [] key) := by
  intro rest
  refine ⟨'\n' :: rest, ?_, rfl⟩
  have hkeyRead : dottedKey (keyText key ++ ']' :: ']' :: '\n' :: rest) =
      some (([], key), ']' :: ']' :: '\n' :: rest) :=
    dottedKey_keyText key (by simp; decide) (by simp [skipBlanks, isBlank])
  have htext : skipBlanks ('[' :: '[' :: (keyText key ++ [']', ']']) ++ '\n' :: rest) =
      '[' :: '[' :: (keyText key ++ ']' :: ']' :: '\n' :: rest) := by
    rw [List.cons_append, List.cons_append, List.append_assoc]
    rfl
  rw [htext, lineBody, hkeyRead]
  rfl

/-- Lines are read one after the other. -/
theorem lines_of_isLine {texts : List (List Char)} {read : List Line}
    (h : List.Forall₂ IsLine texts read) {steps : Nat} (hsteps : texts.length < steps) :
    lines steps (texts.flatMap (· ++ ['\n'])) = some (read ++ [.empty]) := by
  induction h generalizing steps with
  | nil =>
    obtain ⟨n, rfl⟩ := Nat.exists_eq_add_of_lt hsteps
    rw [List.length_nil, Nat.zero_add]
    rfl
  | @cons text line texts read hline _ ih =>
    rw [List.length_cons] at hsteps
    obtain ⟨n, rfl⟩ := Nat.exists_eq_add_of_lt hsteps
    have hrest : lines (texts.length + 1 + n) (texts.flatMap (· ++ ['\n'])) =
        some (read ++ [.empty]) := ih (by omega)
    obtain ⟨behind, hbody, hend⟩ := hline (texts.flatMap (· ++ ['\n']))
    rw [List.flatMap_cons, List.append_assoc, List.singleton_append, lines, hbody]
    simp only [Option.bind_eq_bind, Option.bind_some, hend, newline, hrest]
    rfl

end TypedLayouts.Toml
