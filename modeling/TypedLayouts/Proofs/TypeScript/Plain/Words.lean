import TypedLayouts.Proofs.TypeScript.ReadBack.Words
import TypedLayouts.TypeScript.Plain
import TypedLayouts.TypeScript.TokenStore

/-!
# Plain words, strings and keys

What the readers of plain files come to on the smallest parts of a printed module. A node has the
text that was read, whatever follows, and it has no mistake if none of its children has one.
-/

namespace TypedLayouts.TypeScript

/-! ## Nodes without mistakes -/

theorem Tree.anyError_eq_any (children : List (Role × Tree)) :
    Tree.anyError children = children.any fun child => child.2.hasError := by
  induction children with
  | nil => rfl
  | cons child rest ih =>
    rw [Tree.anyError, ih]
    rfl

namespace Plain

open ReadBack (Stops valid_toList ne_of_isStart)

theorem hasError_mk {kind : Kind} {text : String} {children : List (Role × Tree)}
    (hkind : kind ≠ .error) (h : ∀ child ∈ children, child.2.hasError = false) :
    Tree.hasError ⟨kind, text, children, false, false⟩ = false := by
  have hany : (children.any fun child => child.2.hasError) = false :=
    List.any_eq_false.mpr fun child hchild => by simp [h child hchild]
  rw [Tree.hasError, Tree.anyError_eq_any, hany]
  simp [hkind]

theorem hasError_parts {ts : List Tree} (h : ∀ t ∈ ts, t.hasError = false) :
    ∀ child ∈ parts ts, child.2.hasError = false := by
  intro child hchild
  obtain ⟨t, ht, rfl⟩ := List.mem_map.mp hchild
  exact h t ht

/-- The text of a node is what was read for it. -/
theorem text_node (kind : Kind) (read rest : List Char) (children : List (Role × Tree)) :
    node kind (read ++ rest) rest children =
      ⟨kind, String.ofList read, children, false, false⟩ := by
  unfold node
  rw [Text.between_append]

theorem node_of_text (kind : Kind) (s : String) (rest : List Char) (children : List (Role × Tree)) :
    node kind (s.toList ++ rest) rest children = ⟨kind, s, children, false, false⟩ := by
  rw [text_node, String.ofList_toList]

/-! ## Blanks and marks -/

variable {c d : Char} {cs rest : List Char} {s : String}

theorem skipBlanks_cons (h : c ≠ ' ') (h' : c ≠ '\n') : skipBlanks (c :: cs) = c :: cs := by
  unfold skipBlanks
  rw [List.dropWhile_cons_of_neg (by simp [h, h'])]

theorem skipBlanks_blank (h : c = ' ' ∨ c = '\n') : skipBlanks (c :: cs) = skipBlanks cs := by
  unfold skipBlanks
  rw [List.dropWhile_cons_of_pos (by simpa using h)]

theorem skipBlanks_indentation (depth : Nat) (cs : List Char) :
    skipBlanks ((indentation depth).toList ++ cs) = skipBlanks cs := by
  unfold skipBlanks indentation
  rw [String.toList_ofList, List.dropWhile_append_of_pos]
  intro c hc
  rw [List.eq_of_mem_replicate hc]
  rfl

theorem mark?_of_skipBlanks (h : skipBlanks cs = c :: rest) : mark? c cs = some rest := by
  unfold mark?
  rw [h]
  exact if_pos rfl

theorem mark?_of_ne (h : skipBlanks cs = d :: rest) (hne : d ≠ c) : mark? c cs = none := by
  unfold mark?
  rw [h]
  exact if_neg hne

/-! ## Words -/

theorem stops_cons {p : Char → Bool} (h : p c = false) : Stops p (c :: cs) := by
  rintro d ⟨⟩
  exact h

theorem word_append (h : Identifier.isValid s = true) (hr : Stops Identifier.isContinue rest) :
    word (s.toList ++ rest) = some (s, rest) := by
  obtain ⟨c, cs, hs, hstart, hall⟩ := valid_toList h
  have hrest : rest.dropWhile Identifier.isContinue = rest := by
    cases rest with
    | nil => rfl
    | cons d ds => exact List.dropWhile_cons_of_neg (by rw [hr d rfl]; exact Bool.false_ne_true)
  have hdrop : (cs ++ rest).dropWhile Identifier.isContinue = rest := by
    rw [List.dropWhile_append_of_pos fun d hd => hall d (List.mem_cons_of_mem c hd), hrest]
  have hread : Text.between (s.toList ++ rest) rest = s := by
    rw [Text.between_append, String.ofList_toList]
  rw [hs, List.cons_append] at hread ⊢
  unfold word
  dsimp only
  rw [if_pos hstart, hdrop, hread]

theorem keyword?_append (h : Identifier.isValid s = true)
    (hr : Stops Identifier.isContinue rest) : keyword? s (s.toList ++ rest) = some rest := by
  unfold keyword?
  rw [word_append h hr]
  exact if_pos rfl

theorem name_append (h : Identifier.isValid s = true) (hs : s ∉ keywords)
    (hr : Stops Identifier.isContinue rest) :
    name (s.toList ++ rest) = some (⟨.identifier, s, [], false, false⟩, rest) := by
  unfold name
  rw [word_append h hr]
  dsimp only [Option.bind_eq_bind, Option.bind_some]
  rw [if_neg hs, node_of_text]

theorem property_append (h : Identifier.isValid s = true)
    (hr : Stops Identifier.isContinue rest) :
    property (s.toList ++ rest) = some (⟨.propertyName, s, [], false, false⟩, rest) := by
  unfold property
  rw [word_append h hr]
  dsimp only [Option.bind_eq_bind, Option.bind_some]
  rw [node_of_text]

/-! ## Strings -/

/-- A character that is written as itself between quotes. -/
def isBare (c : Char) : Bool :=
  escapeChar c = [c]

theorem isPlain_of_isBare (h : isBare c = true) (hnul : c ≠ '\x00') :
    Lexeme.isPlain '"' c = true := by
  have hbare : escapeChar c = [c] := of_decide_eq_true h
  unfold escapeChar at hbare
  split at hbare
  · cases hbare
  · cases hbare
  · cases hbare
  · cases hbare
  · cases hbare
  · rename_i hbackslash hquote hnewline hreturn _
    unfold Lexeme.isPlain
    simp only [Bool.and_eq_true, decide_eq_true_eq]
    exact ⟨⟨⟨⟨hquote, hbackslash⟩, hreturn⟩, hnewline⟩, hnul⟩

/-- Any other character is written as an escape, which is read as one. -/
theorem escapeChar_of_not_isBare (h : isBare c = false) :
    ∃ d, escapeChar c = ['\\', d] ∧ ∀ cs, Lexeme.escape ('\\' :: d :: cs) = some cs := by
  have hbare : escapeChar c ≠ [c] := of_decide_eq_false h
  unfold escapeChar at hbare ⊢
  split at hbare
  · exact ⟨'\\', rfl, fun _ => rfl⟩
  · exact ⟨'"', rfl, fun _ => rfl⟩
  · exact ⟨'n', rfl, fun _ => rfl⟩
  · exact ⟨'r', rfl, fun _ => rfl⟩
  · exact ⟨'t', rfl, fun _ => rfl⟩
  · exact absurd rfl hbare

/-- Plain characters are read up to an escape, or to the quote behind the text. -/
theorem dropWhile_isPlain {text : List Char} (hnul : '\x00' ∉ text) (rest : List Char) :
    (text.flatMap escapeChar ++ '"' :: rest).dropWhile (Lexeme.isPlain '"') =
      (text.dropWhile isBare).flatMap escapeChar ++ '"' :: rest := by
  induction text with
  | nil => rfl
  | cons c cs ih =>
    rw [List.mem_cons, not_or] at hnul
    cases hbare : isBare c with
    | true =>
      have hself : escapeChar c = [c] := of_decide_eq_true hbare
      rw [List.dropWhile_cons_of_pos hbare, ← ih hnul.2, List.flatMap_cons, hself]
      exact List.dropWhile_cons_of_pos (isPlain_of_isBare hbare (Ne.symm hnul.1))
    | false =>
      obtain ⟨d, hescape, -⟩ := escapeChar_of_not_isBare hbare
      rw [List.dropWhile_cons_of_neg (by rw [hbare]; exact Bool.false_ne_true), List.flatMap_cons,
        hescape]
      rfl

theorem flatMap_takeWhile_isBare (text : List Char) :
    (text.takeWhile isBare).flatMap escapeChar = text.takeWhile isBare := by
  induction text with
  | nil => rfl
  | cons c cs ih =>
    cases hbare : isBare c with
    | true =>
      have hself : escapeChar c = [c] := of_decide_eq_true hbare
      rw [List.takeWhile_cons_of_pos hbare, List.flatMap_cons, hself, ih]
      rfl
    | false => rw [List.takeWhile_cons_of_neg (by rw [hbare]; exact Bool.false_ne_true)]; rfl

/-- The first piece of a written text: all bare characters that it opens with, or an escape. -/
theorem exists_piece (c : Char) (cs : List Char) (hnul : '\x00' ∉ c :: cs) :
    ∃ (d : Char) (piece more : List Char),
      (c :: cs).flatMap escapeChar = d :: piece ++ more.flatMap escapeChar ∧ d ≠ '"' ∧
        more.length ≤ cs.length ∧ '\x00' ∉ more ∧
        ∀ rest, (Lexeme.run (Lexeme.isPlain '"') ((c :: cs).flatMap escapeChar ++ '"' :: rest) <|>
          Lexeme.escape ((c :: cs).flatMap escapeChar ++ '"' :: rest)) =
            some (more.flatMap escapeChar ++ '"' :: rest) := by
  rw [List.mem_cons, not_or] at hnul
  cases hbare : isBare c with
  | true =>
    have hself : escapeChar c = [c] := of_decide_eq_true hbare
    have hplain := isPlain_of_isBare hbare (Ne.symm hnul.1)
    have hparts : cs.takeWhile isBare ++ (cs.dropWhile isBare).flatMap escapeChar =
        cs.flatMap escapeChar := by
      rw [← flatMap_takeWhile_isBare, ← List.flatMap_append, List.takeWhile_append_dropWhile]
    refine ⟨c, cs.takeWhile isBare, cs.dropWhile isBare, ?_, ?_, ?_, ?_, fun rest => ?_⟩
    · rw [List.flatMap_cons, hself, ← hparts]
      rfl
    · rintro rfl
      cases hplain
    · exact (List.dropWhile_sublist isBare).length_le
    · exact fun hmem => hnul.2 ((List.dropWhile_sublist isBare).mem hmem)
    · rw [List.flatMap_cons, hself]
      unfold Lexeme.run
      simp only [List.cons_append, List.nil_append, hplain, if_true]
      rw [dropWhile_isPlain hnul.2]
      rfl
  | false =>
    obtain ⟨d, hescape, hread⟩ := escapeChar_of_not_isBare hbare
    refine ⟨'\\', [d], cs, ?_, by decide, le_rfl, hnul.2, fun rest => ?_⟩
    · rw [List.flatMap_cons, hescape]
    · rw [List.flatMap_cons, hescape, List.append_assoc]
      exact hread _

/-- One piece of a string, and those behind it. -/
theorem pieces_succ {steps : Nat} {stop : List Char} {ts : List Tree} (hc : c ≠ '"')
    (hpiece : (Lexeme.run (Lexeme.isPlain '"') (c :: cs) <|> Lexeme.escape (c :: cs)) = some stop)
    (hmore : pieces steps stop = some (ts, rest)) :
    pieces (steps + 1) (c :: cs) = some (node .other (c :: cs) stop [] :: ts, rest) := by
  unfold pieces
  split
  · rename_i heq
    exact absurd (List.cons.inj heq).1 hc
  · rw [hpiece]
    dsimp only [Option.bind_eq_bind, Option.bind_some]
    rw [hmore]
    rfl

/-- The pieces of a string are read to its end. -/
theorem pieces_escape (text : List Char) (hnul : '\x00' ∉ text) :
    ∃ ts : List Tree, (∀ t ∈ ts, t.hasError = false) ∧
      ∀ rest steps, (text.flatMap escapeChar).length < steps →
        pieces steps (text.flatMap escapeChar ++ '"' :: rest) = some (ts, rest) := by
  -- A piece may take many characters, so the induction is on how many are left.
  induction hlength : text.length using Nat.strong_induction_on generalizing text with
  | _ length ih =>
    subst hlength
    cases text with
    | nil =>
      refine ⟨[], nofun, fun rest steps hsteps => ?_⟩
      obtain ⟨n, rfl⟩ := Nat.exists_eq_add_of_lt hsteps
      rfl
    | cons c cs =>
      obtain ⟨d, piece, more, hsplit, hd, hshorter, hnul', hpiece⟩ := exists_piece c cs hnul
      obtain ⟨ts, hts, hread⟩ := ih more.length (Nat.lt_succ_of_le hshorter) more hnul' rfl
      have hnode : ∀ rest, node .other (d :: piece ++ rest) rest [] =
          ⟨.other, String.ofList (d :: piece), [], false, false⟩ :=
        fun rest => text_node .other (d :: piece) rest []
      refine ⟨⟨.other, String.ofList (d :: piece), [], false, false⟩ :: ts, ?_, ?_⟩
      · exact List.forall_mem_cons.mpr ⟨rfl, hts⟩
      · intro rest steps hsteps
        rw [hsplit, List.length_append, List.length_cons] at hsteps
        obtain ⟨n, rfl⟩ := Nat.exists_eq_add_of_lt hsteps
        have hmore := hread rest (piece.length + 1 + (more.flatMap escapeChar).length + n)
          (by omega)
        have hfirst := hpiece rest
        rw [hsplit, List.append_assoc] at hfirst ⊢
        rw [← hnode (more.flatMap escapeChar ++ '"' :: rest)]
        exact pieces_succ hd hfirst hmore

/-- A string literal is read to the quote behind it. -/
theorem string_quote (hnul : '\x00' ∉ s.toList) :
    ∃ children, (∀ child ∈ children, Tree.hasError child.2 = false) ∧
      ∀ rest, string ((quote s).toList ++ rest) =
        some (⟨.string, quote s, children, false, false⟩, rest) := by
  obtain ⟨ts, hts, hread⟩ := pieces_escape s.toList hnul
  refine ⟨parts ts, hasError_parts hts, fun rest => ?_⟩
  have hinner : (quote s).toList ++ rest = '"' :: (s.toList.flatMap escapeChar ++ '"' :: rest) := by
    have hcharacters := String.toList_ofList (l := s.toList.flatMap escapeChar)
    unfold quote escape
    rw [String.toList_append, String.toList_append, hcharacters, List.append_assoc,
      List.append_assoc]
    rfl
  have hnode := node_of_text .string (quote s) rest (parts ts)
  have hsteps : (s.toList.flatMap escapeChar).length <
      (s.toList.flatMap escapeChar ++ '"' :: rest).length := by
    rw [List.length_append, List.length_cons]
    omega
  rw [hinner] at hnode
  rw [hinner, ← hnode]
  unfold string
  split
  · rename_i heq
    rw [← (List.cons.inj heq).2, hread rest _ hsteps]
    rfl
  · rename_i hno
    exact absurd rfl (hno _)

/-! ## Keys -/

/-- A text that is written without escapes is written as it is. -/
theorem escape_of_no_backslash (h : '\\' ∉ (escape s).toList) : escape s = s := by
  have hinner : (escape s).toList = s.toList.flatMap escapeChar := String.toList_ofList
  have hbare : ∀ c ∈ s.toList, escapeChar c = [c] := by
    intro c hc
    cases hb : isBare c with
    | true => exact of_decide_eq_true hb
    | false =>
      obtain ⟨d, hescape, -⟩ := escapeChar_of_not_isBare hb
      refine absurd ?_ h
      rw [hinner]
      exact List.mem_flatMap.mpr ⟨c, hc, by rw [hescape]; exact List.mem_cons_self⟩
  have hself : s.toList.flatMap escapeChar = s.toList := by
    rw [List.flatMap_congr hbare]
    exact List.flatMap_singleton' _
  rw [hself] at hinner
  exact String.toList_injective hinner

theorem unquoted?_quote (s : String) : Tree.unquoted? (quote s) = some (escape s) := by
  have hquote : (quote s).toList = '"' :: ((escape s).toList ++ ['"']) := by
    unfold quote
    rw [String.toList_append, String.toList_append]
    rfl
  unfold Tree.unquoted?
  rw [hquote]
  simp

/-- A key is read in front of the colon, and it is the key that it looks like: for a name, no other
key is read as that name. -/
theorem key_render (k : String) (hnul : '\x00' ∉ k.toList) :
    ∃ t : Tree, t.hasError = false ∧
      (∀ name, Identifier.isValid name = true → (t.keyName? = some name ↔ k = name)) ∧
        ∀ rest, Stops Identifier.isContinue rest →
          key ((renderKey k).toList ++ rest) = some (t, rest) := by
  unfold renderKey
  by_cases hk : Identifier.isValid k = true
  · refine ⟨⟨.propertyName, k, [], false, false⟩, rfl, fun name _ => ?_, fun rest hr => ?_⟩
    · exact Option.some_inj
    · rw [if_pos hk]
      have hword := property_append hk hr
      obtain ⟨c, cs, hcs, hstart, -⟩ := valid_toList hk
      rw [hcs] at hword ⊢
      unfold key
      split
      · rename_i heq
        exact absurd (List.cons.inj heq).1 (ne_of_isStart hstart rfl)
      · exact hword
  · obtain ⟨children, hchildren, hread⟩ := string_quote hnul
    refine ⟨⟨.string, quote k, children, false, false⟩, ?_, fun name hname => ?_, fun rest hr => ?_⟩
    · exact hasError_mk nofun hchildren
    · have hkey : Tree.keyName? ⟨.string, quote k, children, false, false⟩ = some (escape k) :=
        unquoted?_quote k
      rw [hkey, Option.some_inj]
      refine ⟨fun he => ?_, fun he => absurd (he ▸ hname) hk⟩
      -- A key is compared with its escapes, and a name has no backslash.
      have hself : escape k = k := by
        refine escape_of_no_backslash ?_
        obtain ⟨c, cs, hcs, -, hall⟩ := valid_toList hname
        rw [he, hcs]
        intro hmem
        have hcontinue := hall _ hmem
        revert hcontinue
        decide
      rw [← he, hself]
    · rw [if_neg hk]
      have hquote : ∃ cs, (quote k).toList ++ rest = '"' :: cs := by
        unfold quote
        rw [String.toList_append, String.toList_append]
        exact ⟨_, rfl⟩
      obtain ⟨cs, hcs⟩ := hquote
      have hstring := hread rest
      rw [hcs] at hstring ⊢
      exact hstring

end Plain

end TypedLayouts.TypeScript
