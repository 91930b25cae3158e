import TypedLayouts.Proofs.TypeScript.Literals
import TypedLayouts.Proofs.TypeScript.ReadBack.Expressions

/-!
# Indentation of printed text

The lines of a printed module tell how deep they are in objects. A line that opens with a closing
brace leaves an object, a line that ends in an opening brace enters one, and every line is indented
by two blanks for each object that it is in. `depthAfter` follows the depth from line to line and
gives up on a line that is indented otherwise or that leaves more objects than were entered.

The text of a type or expression may stand anywhere in a line and have line ends of its own. What it
keeps is the depth of the line: a text that begins on a line of some depth ends on a line of the
same depth. `Keeps` says so of any text, and it goes through from the parts of a tree to the whole.
-/

namespace TypedLayouts.TypeScript

/-! ## Depth -/

/-- The depth behind a line. There is none when the line closes an object that is not open, or when
the blanks that it opens with are not two for each object that it is in. -/
def depthAfter (depth : Nat) (line : List Char) : Option Nat :=
  let blanks := line.takeWhile (· == ' ')
  let content := line.dropWhile (· == ' ')
  let closes := content.head? = some '}'
  if closes ∧ depth = 0 then none
  else
    let own := if closes then depth - 1 else depth
    if blanks.length ≠ 2 * own then none
    else some (if line.getLast? = some '{' then own + 1 else own)

/-- The depth at the end of a text, followed through its lines from the first on. What stands behind
the last line end is a line too. -/
def depthOf (text : String) : Option Nat :=
  (text.toList.splitOn '\n').foldlM depthAfter 0

/-- A place in a text. -/
structure Cursor where
  /-- The depth in front of the line. -/
  depth : Nat
  /-- What the line holds so far. -/
  line : List Char

namespace Cursor

/-- The place behind one more character. -/
def step (c : Cursor) (char : Char) : Option Cursor :=
  if char = '\n' then (depthAfter c.depth c.line).map (⟨·, []⟩)
  else some ⟨c.depth, c.line ++ [char]⟩

/-- The place behind some more characters. -/
def run (c : Cursor) (text : List Char) : Option Cursor :=
  text.foldlM step c

variable {c : Cursor} {text : List Char}

theorem run_append (front rest : List Char) :
    c.run (front ++ rest) = (c.run front).bind (·.run rest) :=
  List.foldlM_append ..

theorem run_line_end (rest : List Char) :
    c.run ('\n' :: rest) = (depthAfter c.depth c.line).bind fun depth => run ⟨depth, []⟩ rest := by
  unfold run
  rw [List.foldlM_cons, step, if_pos rfl]
  cases depthAfter c.depth c.line with
  | none => rfl
  | some depth => rfl

theorem run_of_not_mem (h : '\n' ∉ text) : c.run text = some ⟨c.depth, c.line ++ text⟩ := by
  induction text generalizing c with
  | nil => rw [List.append_nil]; rfl
  | cons char text ih =>
    rw [List.mem_cons, not_or] at h
    have hstep : c.step char = some ⟨c.depth, c.line ++ [char]⟩ := if_neg (Ne.symm h.1)
    have hrun : c.run (char :: text) = (c.step char).bind (·.run text) := rfl
    rw [hrun, hstep, Option.bind_some, ih h.2, List.append_assoc, List.singleton_append]

/-- Following the depth line by line comes to the same as following it character by character. -/
theorem foldlM_splitOn (depth : Nat) (text : List Char) {line : List Char} (h : '\n' ∉ line) :
    ((line ++ text).splitOn '\n').foldlM depthAfter depth =
      (run ⟨depth, line⟩ text).bind fun c => depthAfter c.depth c.line := by
  induction text generalizing depth line with
  | nil =>
    rw [List.append_nil, List.splitOn_eq_singleton h, List.foldlM_cons]
    exact bind_pure _
  | cons char text ih =>
    by_cases hend : char = '\n'
    · subst hend
      rw [List.splitOn_append_cons_self, List.splitOn_eq_singleton h, List.singleton_append,
        List.foldlM_cons, run_line_end, Option.bind_assoc]
      exact congrArg (Option.bind _) (funext fun depth => ih depth List.not_mem_nil)
    · have hline : '\n' ∉ line ++ [char] := by
        simp [h, Ne.symm hend]
      have hstep : step ⟨depth, line⟩ char = some ⟨depth, line ++ [char]⟩ := if_neg hend
      have hrun : run ⟨depth, line⟩ (char :: text) =
          (step ⟨depth, line⟩ char).bind (·.run text) := rfl
      rw [hrun, hstep, Option.bind_some, ← ih depth hline, List.append_assoc,
        List.singleton_append]

/-! ## Places within a line -/

/-- The line is indented, has something behind the blanks, and is itself at the depth. -/
def IsAt (depth : Nat) (c : Cursor) : Prop :=
  ∃ first rest, c.line = List.replicate (2 * depth) ' ' ++ first :: rest ∧ first ≠ ' ' ∧
    c.depth = if first = '}' then depth + 1 else depth

variable {depth : Nat}

theorem IsAt.append (h : c.IsAt depth) (more : List Char) :
    IsAt depth ⟨c.depth, c.line ++ more⟩ := by
  obtain ⟨first, rest, hline, hfirst, hdepth⟩ := h
  refine ⟨first, rest ++ more, ?_, hfirst, hdepth⟩
  show c.line ++ more = _
  rw [hline, List.append_assoc, List.cons_append]

/-- Behind the line is its own depth, or one more if it ends in an opening brace. -/
theorem IsAt.depthAfter_eq (h : c.IsAt depth) : depthAfter c.depth c.line =
    some (if c.line.getLast? = some '{' then depth + 1 else depth) := by
  obtain ⟨first, rest, hline, hfirst, hdepth⟩ := h
  have hblanks : c.line.takeWhile (· == ' ') = List.replicate (2 * depth) ' ' := by
    rw [hline, List.takeWhile_append_of_pos (by simp),
      List.takeWhile_cons_of_neg (by simpa using hfirst), List.append_nil]
  have hcontent : c.line.dropWhile (· == ' ') = first :: rest := by
    rw [hline, List.dropWhile_append_of_pos (by simp),
      List.dropWhile_cons_of_neg (by simpa using hfirst)]
  unfold depthAfter
  rw [hblanks, hcontent, hdepth]
  by_cases hcloses : first = '}'
  · simp [hcloses]
  · simp [hcloses]

/-- A line ends behind a mark; only an opening brace changes the depth there. -/
theorem IsAt.run_mark (h : c.IsAt depth) {mark : Char} (hmark : mark ≠ '\n') (rest : List Char) :
    c.run (mark :: '\n' :: rest) =
      run ⟨if mark = '{' then depth + 1 else depth, []⟩ rest := by
  have hstep : c.run [mark] = some ⟨c.depth, c.line ++ [mark]⟩ :=
    run_of_not_mem (by simpa using Ne.symm hmark)
  have hafter := (h.append [mark]).depthAfter_eq
  simp only [List.getLast?_concat, Option.some_inj] at hafter
  rw [← List.singleton_append, run_append, hstep, Option.bind_some, run_line_end, hafter]
  rfl

end Cursor

/-! ## Texts that keep the depth -/

/-- The text can stand within a line of the depth: behind it is a line of that depth again. -/
def Keeps (depth : Nat) (text : String) : Prop :=
  ∀ c : Cursor, c.IsAt depth → ∃ c', c.run text.toList = some c' ∧ c'.IsAt depth

/-- The text is made of whole lines, with the depth in front of them and behind. -/
def Fills (depth : Nat) (text : String) : Prop :=
  Cursor.run ⟨depth, []⟩ text.toList = some ⟨depth, []⟩

/-- The text can stand behind the indentation of a line. -/
def Opens (text : String) : Prop :=
  ∃ first rest, text.toList = first :: rest ∧ first ≠ ' ' ∧ first ≠ '}' ∧ '\n' ∉ first :: rest

variable {depth : Nat} {s t : String} {ss : List String}

theorem Keeps.append (hs : Keeps depth s) (ht : Keeps depth t) : Keeps depth (s ++ t) := by
  intro c hc
  obtain ⟨c', hrun, hc'⟩ := hs c hc
  obtain ⟨c'', hrun', hc''⟩ := ht c' hc'
  refine ⟨c'', ?_, hc''⟩
  rw [String.toList_append, Cursor.run_append, hrun, Option.bind_some, hrun']

/-- A text without line ends keeps every depth. -/
theorem keeps_of_not_mem (h : '\n' ∉ s.toList) : Keeps depth s :=
  fun _ hc => ⟨_, Cursor.run_of_not_mem h, hc.append _⟩

theorem keeps_intercalate {mark : String} (hmark : '\n' ∉ mark.toList)
    (h : ∀ s ∈ ss, Keeps depth s) : Keeps depth (mark.intercalate ss) := by
  induction ss with
  | nil => exact keeps_of_not_mem (by rw [String.intercalate_nil]; exact List.not_mem_nil)
  | cons s ss ih =>
    rw [List.forall_mem_cons] at h
    cases ss with
    | nil =>
      rw [String.intercalate_singleton]
      exact h.1
    | cons t ts =>
      rw [String.intercalate_cons_cons]
      exact (h.1.append (keeps_of_not_mem hmark)).append (ih h.2)

theorem Fills.append (hs : Fills depth s) (ht : Fills depth t) : Fills depth (s ++ t) := by
  unfold Fills at *
  rw [String.toList_append, Cursor.run_append, hs, Option.bind_some, ht]

theorem fills_join (h : ∀ s ∈ ss, Fills depth s) : Fills depth (String.join ss) := by
  induction ss with
  | nil => rfl
  | cons s ss ih =>
    rw [List.forall_mem_cons] at h
    rw [String.join_cons]
    exact h.1.append (ih h.2)

theorem newline_not_mem_indentation (depth : Nat) : '\n' ∉ (indentation depth).toList := by
  unfold indentation
  rw [String.toList_ofList]
  intro h
  exact absurd (List.eq_of_mem_replicate h) (by decide)

/-- An indented text that ends in a mark fills a line when what is behind its first word keeps the
depth. -/
theorem fills_line {word rest mark : String} (hword : Opens word) (hrest : Keeps depth rest)
    (hmark : mark ∈ [",", ";"]) : Fills depth (indentation depth ++ word ++ rest ++ mark ++ "\n") := by
  obtain ⟨first, more, hlist, hblank, hbrace, hend⟩ := hword
  have hopening : (indentation depth ++ word).toList =
      List.replicate (2 * depth) ' ' ++ first :: more := by
    unfold indentation
    rw [String.toList_append, String.toList_ofList, hlist]
  have hopen : '\n' ∉ (indentation depth ++ word).toList := by
    rw [String.toList_append, List.mem_append, not_or, hlist]
    exact ⟨newline_not_mem_indentation depth, hend⟩
  have hbegin : Cursor.run ⟨depth, []⟩ (indentation depth ++ word).toList = _ :=
    Cursor.run_of_not_mem hopen
  have hat : Cursor.IsAt depth ⟨depth, [] ++ (indentation depth ++ word).toList⟩ :=
    ⟨first, more, by rw [← hopening]; rfl, hblank, (if_neg hbrace).symm⟩
  obtain ⟨c, hc, hcat⟩ := hrest _ hat
  unfold Fills
  rw [String.append_assoc, String.toList_append, String.toList_append, Cursor.run_append,
    Cursor.run_append, hbegin, Option.bind_some, hc, Option.bind_some]
  simp only [List.mem_cons, List.not_mem_nil, or_false] at hmark
  rcases hmark with rfl | rfl
  · exact hcat.run_mark (by decide) []
  · exact hcat.run_mark (by decide) []

/-- Braces around lines that are one deeper keep the depth. -/
theorem keeps_block (h : Fills (depth + 1) s) :
    Keeps depth ("\x7b\n" ++ s ++ indentation depth ++ "\x7d") := by
  intro c hc
  have hopen : c.run ("\x7b\n" ++ s ++ indentation depth ++ "\x7d").toList =
      Cursor.run ⟨depth + 1, []⟩ (s.toList ++ (indentation depth ++ "\x7d").toList) := by
    rw [String.append_assoc, String.append_assoc, String.toList_append, String.toList_append]
    exact hc.run_mark (by decide) _
  have hclose : '\n' ∉ (indentation depth ++ "\x7d").toList := by
    rw [String.toList_append, List.mem_append, not_or]
    exact ⟨newline_not_mem_indentation depth, by decide⟩
  rw [hopen, Cursor.run_append, h, Option.bind_some, Cursor.run_of_not_mem hclose]
  -- The closing line is at the outer depth, with the inner one in front of it.
  refine ⟨_, rfl, '}', [], ?_, by decide, rfl⟩
  unfold indentation
  rw [String.toList_append, String.toList_ofList]
  rfl

/-! ## Printed parts -/

theorem newline_not_mem_quote (text : String) : '\n' ∉ (quote text).toList :=
  (isLiteralOf_quote text).unbroken '\n' List.mem_cons_self

theorem opens_renderKey (key : String) : Opens (renderKey key) := by
  obtain ⟨first, rest, hlist, hfirst⟩ := ReadBack.key_opens key
  have hend : '\n' ∉ (renderKey key).toList := by
    unfold renderKey
    split
    · rename_i hvalid
      obtain ⟨c, cs, hkey, -, hcontinue⟩ := ReadBack.valid_toList hvalid
      rw [hkey]
      intro hmem
      exact absurd (hcontinue _ hmem) (by decide)
    · exact newline_not_mem_quote key
  rw [hlist] at hend
  refine ⟨first, rest, hlist, ?_, ?_, hend⟩
  · rcases hfirst with rfl | hstart
    · decide
    · exact ReadBack.ne_of_isStart hstart rfl
  · rcases hfirst with rfl | hstart
    · decide
    · exact ReadBack.ne_of_isStart hstart rfl

theorem Opens.not_mem (h : Opens s) : '\n' ∉ s.toList := by
  obtain ⟨first, rest, hlist, -, -, hend⟩ := h
  rwa [hlist]

/-- Properties with a line for each fill their lines when their values keep the depth. -/
theorem fills_lines {α : Type} {render : α → String} {mark : String} {ps : List (String × α)}
    (hmark : mark ∈ [",", ";"]) (h : ∀ p ∈ ps, Keeps depth (render p.2)) :
    Fills depth (String.join (ps.map (ReadBack.line depth render mark))) := by
  refine fills_join (List.forall_mem_map.mpr fun p hp => ?_)
  have hcolon : Keeps depth ": " := keeps_of_not_mem (by decide)
  have hline : ReadBack.line depth render mark p =
      indentation depth ++ renderKey p.1 ++ (": " ++ render p.2) ++ mark ++ "\n" := by
    unfold ReadBack.line
    simp only [String.append_assoc]
  rw [hline]
  exact fills_line (opens_renderKey p.1) (hcolon.append (h p hp)) hmark

namespace TypeExpr

/-- No name in the type has a line end. -/
inductive Unbroken : TypeExpr → Prop where
  | string : Unbroken .string
  | number : Unbroken .number
  | null : Unbroken .null
  | any : Unbroken .any
  | literal (value : String) : Unbroken (.literal value)
  | union {members : List TypeExpr} (h : ∀ t ∈ members, Unbroken t) : Unbroken (.union members)
  | array {item : TypeExpr} (h : Unbroken item) : Unbroken (.array item)
  | reference {name : String} {arguments : List TypeExpr} (hname : '\n' ∉ name.toList)
    (h : ∀ t ∈ arguments, Unbroken t) : Unbroken (.reference name arguments)
  | typeOf {name : String} (hname : '\n' ∉ name.toList) : Unbroken (.typeOf name)
  | object {members : List (String × TypeExpr)} (h : ∀ m ∈ members, Unbroken m.2) :
    Unbroken (.object members)

theorem keeps_renderAll {ts : List TypeExpr} {mark : String} (hmark : '\n' ∉ mark.toList)
    (h : ∀ t ∈ ts, Keeps depth (t.render depth)) :
    Keeps depth (mark.intercalate (renderAll depth ts)) := by
  rw [renderAll_eq_map]
  exact keeps_intercalate hmark (List.forall_mem_map.mpr h)

theorem keeps_renderArguments {ts : List TypeExpr} (h : ∀ t ∈ ts, Keeps depth (t.render depth)) :
    Keeps depth (renderArguments depth ts) := by
  unfold renderArguments
  split
  · exact keeps_of_not_mem (by decide)
  · have hopen : Keeps depth "<" := keeps_of_not_mem (by decide)
    have hclose : Keeps depth ">" := keeps_of_not_mem (by decide)
    exact (hopen.append (keeps_renderAll (by decide) h)).append hclose

theorem Unbroken.keeps {t : TypeExpr} (h : t.Unbroken) : Keeps depth (t.render depth) := by
  -- Members of an object are rendered one deeper, so the depth is not fixed.
  induction h generalizing depth with
  | string =>
    rw [render]
    exact keeps_of_not_mem (by decide)
  | number =>
    rw [render]
    exact keeps_of_not_mem (by decide)
  | null =>
    rw [render]
    exact keeps_of_not_mem (by decide)
  | any =>
    rw [render]
    exact keeps_of_not_mem (by decide)
  | literal value => exact keeps_of_not_mem (newline_not_mem_quote value)
  | union _ ih =>
    rw [render]
    split
    · exact keeps_of_not_mem (by decide)
    · exact keeps_renderAll (by decide) fun t ht => ih t ht
  | array _ ih =>
    rw [render]
    split
    · have hopen : Keeps depth "(" := keeps_of_not_mem (by decide)
      exact (hopen.append ih).append (keeps_of_not_mem (by decide))
    · exact Keeps.append ih (keeps_of_not_mem (by decide))
  | @reference name arguments hname _ ih =>
    have hrender : (TypeExpr.reference name arguments).render depth =
        name ++ renderArguments depth arguments := by
      rw [render]
      unfold renderArguments
      split
      · rw [String.append_empty]
      · simp only [String.append_assoc]
    rw [hrender]
    exact (keeps_of_not_mem hname).append (keeps_renderArguments fun t ht => ih t ht)
  | typeOf hname =>
    have hopen : Keeps depth "typeof " := keeps_of_not_mem (by decide)
    exact hopen.append (keeps_of_not_mem hname)
  | object _ ih =>
    rw [render]
    split
    · exact keeps_of_not_mem (by decide)
    · rw [renderMembers_eq_join]
      exact keeps_block (fills_lines (by decide) fun m hm => ih m hm)

end TypeExpr

namespace Expr

/-- Nothing in the expression is verbatim text, and no name in it has a line end. -/
inductive Unbroken : Expr → Prop where
  | null : Unbroken .null
  | string (value : String) : Unbroken (.string value)
  | ident {name : String} (hname : '\n' ∉ name.toList) : Unbroken (.ident name)
  | member {target : Expr} {property : String} (h : Unbroken target)
    (hproperty : '\n' ∉ property.toList) : Unbroken (.member target property)
  | call {callee : Expr} {types : List TypeExpr} {arguments : List Expr} (h : Unbroken callee)
    (htypes : ∀ t ∈ types, t.Unbroken) (harguments : ∀ e ∈ arguments, Unbroken e) :
    Unbroken (.call callee types arguments)
  | construct {callee : Expr} {arguments : List Expr} (h : Unbroken callee)
    (harguments : ∀ e ∈ arguments, Unbroken e) : Unbroken (.construct callee arguments)
  | not {operand : Expr} (h : Unbroken operand) : Unbroken (.not operand)
  | array {items : List Expr} (h : ∀ e ∈ items, Unbroken e) : Unbroken (.array items)
  | object {multiline : Bool} {properties : List (String × Expr)}
    (h : ∀ p ∈ properties, Unbroken p.2) : Unbroken (.object multiline properties)

theorem keeps_renderAll {es : List Expr} (h : ∀ e ∈ es, Keeps depth (e.render depth)) :
    Keeps depth (String.intercalate ", " (renderAll depth es)) := by
  rw [renderAll_eq_map]
  exact keeps_intercalate (by decide) (List.forall_mem_map.mpr h)

theorem keeps_arguments {es : List Expr} (hs : Keeps depth s)
    (h : ∀ e ∈ es, Keeps depth (e.render depth)) :
    Keeps depth (s ++ "(" ++ String.intercalate ", " (renderAll depth es) ++ ")") := by
  have hopen : Keeps depth "(" := keeps_of_not_mem (by decide)
  have hclose : Keeps depth ")" := keeps_of_not_mem (by decide)
  exact ((hs.append hopen).append (keeps_renderAll h)).append hclose

theorem keeps_renderInline {ps : List (String × Expr)}
    (h : ∀ p ∈ ps, Keeps depth (p.2.render depth)) :
    Keeps depth (String.intercalate ", " (renderInline depth ps)) := by
  have hcolon : Keeps depth ": " := keeps_of_not_mem (by decide)
  rw [renderInline_eq_map]
  refine keeps_intercalate (by decide) (List.forall_mem_map.mpr fun p hp => ?_)
  exact ((keeps_of_not_mem (opens_renderKey p.1).not_mem).append hcolon).append (h p hp)

theorem Unbroken.keeps {e : Expr} (h : e.Unbroken) : Keeps depth (e.render depth) := by
  induction h generalizing depth with
  | null =>
    rw [render]
    exact keeps_of_not_mem (by decide)
  | string value => exact keeps_of_not_mem (newline_not_mem_quote value)
  | ident hname => exact keeps_of_not_mem hname
  | member _ hproperty ih =>
    have hdot : Keeps depth "." := keeps_of_not_mem (by decide)
    exact (ih.append hdot).append (keeps_of_not_mem hproperty)
  | @call callee types arguments _ htypes _ ih iharguments =>
    have hcalled : Keeps depth (callee.render depth ++ TypeExpr.renderArguments depth types) :=
      ih.append (TypeExpr.keeps_renderArguments fun t ht => (htypes t ht).keeps)
    rw [render]
    exact keeps_arguments hcalled fun e he => iharguments e he
  | construct _ _ ih iharguments =>
    have hnew : Keeps depth "new " := keeps_of_not_mem (by decide)
    rw [render]
    exact keeps_arguments (hnew.append ih) fun e he => iharguments e he
  | not _ ih =>
    have hmark : Keeps depth "!" := keeps_of_not_mem (by decide)
    exact hmark.append ih
  | array _ ih =>
    have hopen : Keeps depth "[" := keeps_of_not_mem (by decide)
    exact (hopen.append (keeps_renderAll fun e he => ih e he)).append (keeps_of_not_mem (by decide))
  | @object multiline properties _ ih =>
    rw [render]
    split
    · exact keeps_of_not_mem (by decide)
    -- On one line the values are at the depth of the object, else one deeper.
    split
    · rw [renderLines_eq_join]
      exact keeps_block (fills_lines (by decide) fun p hp => ih p hp)
    · have hopen : Keeps depth "\x7b " := keeps_of_not_mem (by decide)
      exact (hopen.append (keeps_renderInline fun p hp => ih p hp)).append
        (keeps_of_not_mem (by decide))

end Expr

/-! ## Printed documents -/

namespace Statement

/-- Nothing in the statement is verbatim text, and no name in it has a line end. -/
inductive Unbroken : Statement → Prop where
  | importNames {names : List String} {source : String} (h : ∀ name ∈ names, '\n' ∉ name.toList) :
    Unbroken (.importNames names source)
  | exportType {name : String} {type : TypeExpr} (hname : '\n' ∉ name.toList)
    (h : type.Unbroken) : Unbroken (.exportType name type)
  | exportConst {name : String} {value : Expr} (hname : '\n' ∉ name.toList)
    (h : value.Unbroken) : Unbroken (.exportConst name value)
  | when {test : Expr} {consequent : Statement} (htest : test.Unbroken)
    (h : Unbroken consequent) : Unbroken (.when test consequent)
  | throw {value : Expr} (h : value.Unbroken) : Unbroken (.throw value)
  | exportFrom {specifiers : List ExportSpecifier} {source : String}
    (h : ∀ s ∈ specifiers, '\n' ∉ s.localName.toList ∧ '\n' ∉ s.exportedName.toList) :
    Unbroken (.exportFrom specifiers source)

theorem keeps_specifier {specifier : ExportSpecifier} (hlocal : '\n' ∉ specifier.localName.toList)
    (hexported : '\n' ∉ specifier.exportedName.toList) : Keeps depth specifier.render := by
  unfold ExportSpecifier.render
  split
  · exact keeps_of_not_mem hlocal
  · have has : Keeps depth " as " := keeps_of_not_mem (by decide)
    exact ((keeps_of_not_mem hlocal).append has).append (keeps_of_not_mem hexported)

/-- What statements open with can stand behind the indentation of a line. -/
theorem opens_word {word : String} (h : word ∈ ["import \x7b ", "export type ", "export const ",
    "if (", "throw ", "export \x7b "]) : Opens word := by
  simp only [List.mem_cons, List.not_mem_nil, or_false] at h
  rcases h with rfl | rfl | rfl | rfl | rfl | rfl <;>
    exact ⟨_, _, rfl, by decide, by decide, by decide⟩

/-- A statement opens with a word, ends in a semicolon, and keeps the depth between. -/
theorem Unbroken.parts {s : Statement} (h : s.Unbroken) :
    ∃ word rest, s.render = word ++ rest ++ ";" ∧ Opens word ∧ Keeps 0 rest := by
  have hfrom : Keeps 0 " \x7d from " := keeps_of_not_mem (by decide)
  have his : Keeps 0 " = " := keeps_of_not_mem (by decide)
  induction h with
  | @importNames names source h =>
    have hnames : Keeps 0 (String.intercalate ", " names) :=
      keeps_intercalate (by decide) fun name hname => keeps_of_not_mem (h name hname)
    have hrest := (hnames.append hfrom).append (keeps_of_not_mem (newline_not_mem_quote source))
    refine ⟨"import \x7b ", _, ?_, opens_word (by simp), hrest⟩
    show "import \x7b " ++ String.intercalate ", " names ++ " \x7d from " ++ quote source ++ ";" = _
    simp only [String.append_assoc]
  | @exportType name type hname h =>
    have hrest := ((keeps_of_not_mem hname).append his).append h.keeps
    refine ⟨"export type ", _, ?_, opens_word (by simp), hrest⟩
    show "export type " ++ name ++ " = " ++ type.render 0 ++ ";" = _
    simp only [String.append_assoc]
  | @exportConst name value hname h =>
    have hrest := ((keeps_of_not_mem hname).append his).append h.keeps
    refine ⟨"export const ", _, ?_, opens_word (by simp), hrest⟩
    show "export const " ++ name ++ " = " ++ value.render 0 ++ ";" = _
    simp only [String.append_assoc]
  | @when test consequent htest _ ih =>
    -- Only the outer word opens the line; the inner one is behind the test.
    obtain ⟨word, rest, hrender, hopens, hrest⟩ := ih
    have hthen : Keeps 0 ") " := keeps_of_not_mem (by decide)
    have hword : Keeps 0 word := keeps_of_not_mem hopens.not_mem
    refine ⟨"if (", _, ?_, opens_word (by simp),
      ((htest.keeps.append hthen).append hword).append hrest⟩
    show "if (" ++ test.render 0 ++ ") " ++ consequent.render = _
    rw [hrender]
    simp only [String.append_assoc]
  | throw h => exact ⟨"throw ", _, rfl, opens_word (by simp), h.keeps⟩
  | @exportFrom specifiers source h =>
    have hspecifiers : Keeps 0
        (String.intercalate ", " (specifiers.map ExportSpecifier.render)) :=
      keeps_intercalate (by decide)
        (List.forall_mem_map.mpr fun s hs => keeps_specifier (h s hs).1 (h s hs).2)
    have hrest :=
      (hspecifiers.append hfrom).append (keeps_of_not_mem (newline_not_mem_quote source))
    refine ⟨"export \x7b ", _, ?_, opens_word (by simp), hrest⟩
    show "export \x7b " ++ String.intercalate ", " (specifiers.map ExportSpecifier.render)
      ++ " \x7d from " ++ quote source ++ ";" = _
    simp only [String.append_assoc]

theorem Unbroken.fills {s : Statement} (h : s.Unbroken) : Fills 0 (s.render ++ "\n") := by
  obtain ⟨word, rest, hrender, hopens, hrest⟩ := h.parts
  have hindentation : indentation 0 = "" := rfl
  have hline : Fills 0 (indentation 0 ++ word ++ rest ++ ";" ++ "\n") :=
    fills_line hopens hrest (by decide)
  rw [hindentation, String.empty_append] at hline
  rw [hrender]
  exact hline

end Statement

namespace Document

/-- Nothing in the document is verbatim text, and no name in it has a line end. -/
def Unbroken (doc : Document) : Prop :=
  ∀ s ∈ doc.body, s.Unbroken

theorem Unbroken.fills {doc : Document} (h : doc.Unbroken) : Fills 0 doc.render :=
  fills_join (List.forall_mem_map.mpr fun s hs => (h s hs).fills)

theorem Unbroken.depthOf_eq {doc : Document} (h : doc.Unbroken) : depthOf doc.render = some 0 := by
  have hlines := Cursor.foldlM_splitOn 0 doc.render.toList List.not_mem_nil
  have hrun : Cursor.run ⟨0, []⟩ doc.render.toList = some ⟨0, []⟩ := h.fills
  rw [List.nil_append, hrun] at hlines
  exact hlines

/-- Where nothing is verbatim and no name has a line end, the lines of a printed document are
indented by the objects that they are in, and behind each statement no object is open. The text of
any statements in a row is that of the first and then that of the others, and a file is the banner
and then the text of the document. -/
theorem render_indented (doc other : Document) :
    (doc.Unbroken → ∀ front, front <+: doc.body → depthOf (Document.mk front).render = some 0) ∧
      (Document.mk (doc.body ++ other.body)).render = doc.render ++ other.render ∧
      doc.renderFile = banner ++ doc.render := by
  refine ⟨fun h front hfront => ?_, render_append doc.body other.body, rfl⟩
  have hpart : (Document.mk front).Unbroken := fun s hs => h s (hfront.subset hs)
  exact hpart.depthOf_eq

/-- A document with an object type among the type arguments of a call, a multi-line object literal
inside of one that stands on a line, and braces and line ends in keys and texts. -/
def nestedObjects : Document where
  body :=
    [.exportConst "first" (.call (.ident "make") [.object [("a \x7d\n", .literal "\x7b\n")]]
        [.object false [("b", .object true [("\x7b", .array [.string "\n\x7d"])])]]),
      .when (.not (.object true [("c", .null)])) (.throw (.string "\x7b"))]

theorem nestedObjects_unbroken : nestedObjects.Unbroken := by
  refine List.forall_mem_cons.mpr ⟨.exportConst (by decide) ?_, List.forall_mem_singleton.mpr ?_⟩
  · refine .call (.ident (by decide)) (List.forall_mem_singleton.mpr ?_)
      (List.forall_mem_singleton.mpr ?_)
    · exact .object (List.forall_mem_singleton.mpr (.literal _))
    · refine .object (List.forall_mem_singleton.mpr (.object (List.forall_mem_singleton.mpr ?_)))
      exact .array (List.forall_mem_singleton.mpr (.string _))
  · exact .when (.not (.object (List.forall_mem_singleton.mpr .null))) (.throw (.string _))

/-- The objects of this document are all closed in the end. -/
theorem nestedObjects_indented :
    nestedObjects.Unbroken ∧ depthOf nestedObjects.render = some 0 :=
  ⟨nestedObjects_unbroken,
    (render_indented nestedObjects ⟨[]⟩).1 nestedObjects_unbroken _ List.prefix_rfl⟩

end Document

end TypedLayouts.TypeScript
