import TypedLayouts.Proofs.TypeScript.ReadBack.Expressions

/-!
# Writing with a counter of the depth

`Document.render` has the depth of a line as an argument. A document can as well be written in one
go, piece after piece behind what is written already, with the depth as a counter that goes up where
an object opens and down before it closes. Both come to the same text, because a part of a document
leaves the counter where it was: it is written by appending its text at the depth that the counter
has in front of it.
-/

namespace TypedLayouts.TypeScript

/-- What is written so far, and the depth of the line that comes next. -/
structure Writer where
  /-- The text. -/
  output : String := ""
  /-- The counter. -/
  indent : Nat := 0

namespace Writer

/-- Append a text. -/
def push (w : Writer) (text : String) : Writer :=
  { w with output := w.output ++ text }

/-- The counter goes up. -/
def raised (w : Writer) : Writer :=
  { w with indent := w.indent + 1 }

/-- The counter goes down. -/
def lowered (w : Writer) : Writer :=
  { w with indent := w.indent - 1 }

/-- Append two blanks as often as the counter says. -/
def pushIndent (w : Writer) : Writer :=
  w.indent.repeat (·.push "  ") w

/-- Append the mark that stands in front of the part with a number; the first part has none. -/
def pushMark (w : Writer) (mark : String) (number : Nat) : Writer :=
  if 0 < number then w.push mark else w

/-- Append texts that are numbered from `number` on, with marks between them. -/
def pushAll (mark : String) (number : Nat) : List String → Writer → Writer
  | [], w => w
  | s :: ss, w => pushAll mark (number + 1) ss ((w.pushMark mark number).push s)

end Writer

namespace TypeExpr

mutual

/-- Write a type. -/
def write : TypeExpr → Writer → Writer
  | .string, w => w.push "string"
  | .number, w => w.push "number"
  | .null, w => w.push "null"
  | .any, w => w.push "any"
  | .literal value, w => w.push (quote value)
  | .union members, w =>
    writeAll " | " 0 members (if members.isEmpty then w.push "never" else w)
  | .array item, w =>
    if item.isUnion then ((write item (w.push "(")).push ")").push "[]"
    else (write item w).push "[]"
  | .reference name arguments, w =>
    if arguments.isEmpty then w.push name
    else (writeAll ", " 0 arguments ((w.push name).push "<")).push ">"
  | .typeOf name, w => w.push ("typeof " ++ name)
  | .object members, w =>
    if members.isEmpty then w.push "\x7b\x7d"
    else (writeMembers members (w.push "\x7b\n").raised).lowered.pushIndent.push "\x7d"

/-- Write types that are numbered from `number` on, with marks between them. -/
def writeAll (mark : String) (number : Nat) : List TypeExpr → Writer → Writer
  | [], w => w
  | t :: ts, w => writeAll mark (number + 1) ts (write t (w.pushMark mark number))

/-- Write the members of an object type, a line each. -/
def writeMembers : List (String × TypeExpr) → Writer → Writer
  | [], w => w
  | (key, t) :: rest, w =>
    writeMembers rest ((write t ((w.pushIndent.push (renderKey key)).push ": ")).push ";\n")

end

end TypeExpr

namespace Expr

mutual

/-- Write an expression. -/
def write : Expr → Writer → Writer
  | .null, w => w.push "null"
  | .string value, w => w.push (quote value)
  | .ident name, w => w.push name
  | .member target property, w => ((write target w).push ".").push property
  | .call callee typeArguments arguments, w =>
    let w := write callee w
    let w :=
      if typeArguments.isEmpty then w
      else (TypeExpr.writeAll ", " 0 typeArguments (w.push "<")).push ">"
    (writeAll 0 arguments (w.push "(")).push ")"
  | .construct callee arguments, w =>
    (writeAll 0 arguments ((write callee (w.push "new ")).push "(")).push ")"
  | .not operand, w => write operand (w.push "!")
  | .array items, w => (writeAll 0 items (w.push "[")).push "]"
  | .object multiline properties, w =>
    if properties.isEmpty then w.push "\x7b\x7d"
    else if multiline then
      (writeLines properties (w.push "\x7b\n").raised).lowered.pushIndent.push "\x7d"
    else (writeInline 0 properties (w.push "\x7b ")).push " \x7d"
  | .raw text, w => w.push text

/-- Write expressions that are numbered from `number` on, with commas between them. -/
def writeAll (number : Nat) : List Expr → Writer → Writer
  | [], w => w
  | e :: es, w => writeAll (number + 1) es (write e (w.pushMark ", " number))

/-- Write the properties of an object literal, a line each. -/
def writeLines : List (String × Expr) → Writer → Writer
  | [], w => w
  | (key, e) :: rest, w =>
    writeLines rest ((write e ((w.pushIndent.push (renderKey key)).push ": ")).push ",\n")

/-- Write properties on one line that are numbered from `number` on. -/
def writeInline (number : Nat) : List (String × Expr) → Writer → Writer
  | [], w => w
  | (key, e) :: rest, w =>
    writeInline (number + 1) rest
      (write e (((w.pushMark ", " number).push (renderKey key)).push ": "))

end

end Expr

/-- Write a statement behind the blanks that open its line. -/
def Statement.writeInline : Statement → Writer → Writer
  | .exportType name type, w => (type.write (w.push ("export type " ++ name ++ " = "))).push ";"
  | .exportConst name value, w => (value.write (w.push ("export const " ++ name ++ " = "))).push ";"
  | .when test consequent, w =>
    writeInline consequent ((test.write (w.push "if (")).push ") ")
  | .throw value, w => (value.write (w.push "throw ")).push ";"
  | .importNames names source, w =>
    ((w.push "import \x7b ").push (String.intercalate ", " names)).push
      (" \x7d from " ++ quote source ++ ";")
  | .exportFrom specifiers source, w =>
    (Writer.pushAll ", " 0 (specifiers.map ExportSpecifier.render) (w.push "export \x7b ")).push
      (" \x7d from " ++ quote source ++ ";")

namespace Document

/-- Write the statements of a document, a line end behind each. -/
def write (doc : Document) (w : Writer) : Writer :=
  doc.body.foldl (fun w s => (s.writeInline w.pushIndent).push "\n") w

/-- What a writer makes of a document. -/
def written (doc : Document) : String :=
  (doc.write {}).output

/-- What a writer makes of a document behind the banner. -/
def writtenFile (doc : Document) : String :=
  (doc.write (({} : Writer).push banner)).output

end Document

/-! ## What is appended -/

namespace Writer

variable (w : Writer) (s t : String)

@[simp] theorem push_push : (w.push s).push t = w.push (s ++ t) := by
  unfold push
  rw [String.append_assoc]

@[simp] theorem push_empty : w.push "" = w := by
  unfold push
  rw [String.append_empty]

@[simp] theorem indent_push : (w.push s).indent = w.indent := rfl

@[simp] theorem indent_raised : w.raised.indent = w.indent + 1 := rfl

/-- What is written between raising and lowering the counter is all that these two leave. -/
@[simp] theorem lowered_push_raised : (w.raised.push s).lowered = w.push s := rfl

@[simp] theorem pushMark_zero (mark : String) : w.pushMark mark 0 = w := rfl

@[simp] theorem pushMark_succ (mark : String) (n : Nat) :
    w.pushMark mark (n + 1) = w.push mark := rfl

@[simp] theorem indent_pushMark (mark : String) (n : Nat) :
    (w.pushMark mark n).indent = w.indent := by
  unfold pushMark
  split
  · rfl
  · rfl

@[simp] theorem pushIndent_eq : w.pushIndent = w.push (indentation w.indent) := by
  have hblanks : ∀ n, n.repeat (·.push "  ") w = w.push (indentation n) := by
    intro n
    induction n with
    | zero => exact (w.push_empty).symm
    | succ n ih =>
      have hmore : indentation (n + 1) = indentation n ++ "  " := by
        unfold indentation
        rw [Nat.mul_succ, List.replicate_add, String.ofList_append]
        rfl
      rw [Nat.repeat, ih, push_push, hmore]
  exact hblanks w.indent

theorem pushAll_succ (mark : String) (n : Nat) (ss : List String) :
    pushAll mark (n + 1) (s :: ss) w = w.push (mark ++ String.intercalate mark (s :: ss)) := by
  induction ss generalizing s n w with
  | nil => rw [pushAll, pushAll, pushMark_succ, push_push, String.intercalate_singleton]
  | cons t ss ih =>
    rw [pushAll, ih, pushMark_succ, push_push, push_push, String.intercalate_cons_cons]
    simp only [String.append_assoc]

/-- Marks between texts make an intercalated text. -/
theorem pushAll_zero (mark : String) (ss : List String) :
    pushAll mark 0 ss w = w.push (String.intercalate mark ss) := by
  match ss with
  | [] => rw [pushAll, String.intercalate_nil, push_empty]
  | [s] => rw [pushAll, pushAll, pushMark_zero, String.intercalate_singleton]
  | s :: t :: ss =>
    rw [pushAll, pushAll_succ, pushMark_zero, push_push, String.intercalate_cons_cons,
      String.append_assoc]

end Writer

namespace TypeExpr

/-- Writing the type appends its text at the depth of the counter, and leaves the counter. -/
def WritesText (t : TypeExpr) : Prop :=
  ∀ w : Writer, t.write w = w.push (t.render w.indent)

variable {t : TypeExpr} {ts : List TypeExpr} {ms : List (String × TypeExpr)}

theorem writeAll_eq (mark : String) (h : ∀ t ∈ ts, t.WritesText) (n : Nat) (w : Writer) :
    writeAll mark n ts w = w.pushAll mark n (renderAll w.indent ts) := by
  induction ts generalizing n w with
  | nil => rfl
  | cons t ts ih =>
    obtain ⟨ht, hts⟩ := List.forall_mem_cons.mp h
    rw [writeAll, ht, ih hts, renderAll, Writer.pushAll, Writer.indent_push,
      Writer.indent_pushMark]

theorem writeMembers_eq (h : ∀ m ∈ ms, m.2.WritesText) (w : Writer) :
    writeMembers ms w = w.push (renderMembers w.indent ms) := by
  induction ms generalizing w with
  | nil => exact w.push_empty.symm
  | cons m ms ih =>
    obtain ⟨hm, hms⟩ := List.forall_mem_cons.mp h
    rw [writeMembers, hm, ih hms, renderMembers]
    simp only [Writer.pushIndent_eq, Writer.push_push, Writer.indent_push, String.append_assoc]

theorem writesText (t : TypeExpr) : t.WritesText := by
  induction t using TypeExpr.memInduction with
  | string => exact fun w => rfl
  | number => exact fun w => rfl
  | null => exact fun w => rfl
  | any => exact fun w => rfl
  | literal value => exact fun w => rfl
  | typeOf name => exact fun w => rfl
  | union members ih =>
    intro w
    rw [write, render, writeAll_eq " | " ih, Writer.pushAll_zero]
    cases members with
    | nil => rw [renderAll, String.intercalate_nil, Writer.push_empty]; rfl
    | cons t ts => rfl
  | array item ih =>
    intro w
    rw [write, render]
    split
    · rw [ih]
      simp only [Writer.push_push, Writer.indent_push, String.append_assoc]
      rfl
    · rw [ih, Writer.push_push]
  | reference name arguments ih =>
    intro w
    rw [write, render]
    split
    · rfl
    · rw [writeAll_eq ", " ih, Writer.pushAll_zero]
      simp only [Writer.push_push, Writer.indent_push, String.append_assoc]
  | object members ih =>
    intro w
    rw [write, render]
    split
    · rfl
    · rw [writeMembers_eq ih, Writer.lowered_push_raised]
      simp only [Writer.pushIndent_eq, Writer.push_push, Writer.indent_push, Writer.indent_raised,
        String.append_assoc]

end TypeExpr

namespace Expr

/-- Writing the expression appends its text at the depth of the counter, and leaves the counter. -/
def WritesText (e : Expr) : Prop :=
  ∀ w : Writer, e.write w = w.push (e.render w.indent)

variable {es : List Expr} {ps : List (String × Expr)}

theorem writeAll_eq (h : ∀ e ∈ es, e.WritesText) (n : Nat) (w : Writer) :
    writeAll n es w = w.pushAll ", " n (renderAll w.indent es) := by
  induction es generalizing n w with
  | nil => rfl
  | cons e es ih =>
    obtain ⟨he, hes⟩ := List.forall_mem_cons.mp h
    rw [writeAll, he, ih hes, renderAll, Writer.pushAll, Writer.indent_push,
      Writer.indent_pushMark]

theorem writeLines_eq (h : ∀ p ∈ ps, p.2.WritesText) (w : Writer) :
    writeLines ps w = w.push (renderLines w.indent ps) := by
  induction ps generalizing w with
  | nil => exact w.push_empty.symm
  | cons p ps ih =>
    obtain ⟨hp, hps⟩ := List.forall_mem_cons.mp h
    rw [writeLines, hp, ih hps, renderLines]
    simp only [Writer.pushIndent_eq, Writer.push_push, Writer.indent_push, String.append_assoc]

theorem writeInline_eq (h : ∀ p ∈ ps, p.2.WritesText) (n : Nat) (w : Writer) :
    writeInline n ps w = w.pushAll ", " n (renderInline w.indent ps) := by
  induction ps generalizing n w with
  | nil => rfl
  | cons p ps ih =>
    obtain ⟨hp, hps⟩ := List.forall_mem_cons.mp h
    rw [writeInline, hp, ih hps, renderInline, Writer.pushAll]
    simp only [Writer.push_push, Writer.indent_push, Writer.indent_pushMark, String.append_assoc]

/-- Arguments in parentheses. -/
theorem write_arguments (h : ∀ e ∈ es, e.WritesText) (w : Writer) :
    (writeAll 0 es (w.push "(")).push ")" =
      w.push ("(" ++ String.intercalate ", " (renderAll w.indent es) ++ ")") := by
  rw [writeAll_eq h, Writer.pushAll_zero]
  simp only [Writer.push_push, Writer.indent_push, String.append_assoc]

theorem write_typeArguments (types : List TypeExpr) (w : Writer) :
    (if types.isEmpty then w else (TypeExpr.writeAll ", " 0 types (w.push "<")).push ">") =
      w.push (TypeExpr.renderArguments w.indent types) := by
  unfold TypeExpr.renderArguments
  split
  · exact w.push_empty.symm
  · rw [TypeExpr.writeAll_eq ", " fun t _ => t.writesText, Writer.pushAll_zero]
    simp only [Writer.push_push, Writer.indent_push, String.append_assoc]

theorem writesText (e : Expr) : e.WritesText := by
  induction e using Expr.memInduction with
  | null => exact fun w => rfl
  | string value => exact fun w => rfl
  | ident name => exact fun w => rfl
  | raw text => exact fun w => rfl
  | member target property ih =>
    intro w
    rw [write, render, ih]
    simp only [Writer.push_push, String.append_assoc]
  | call callee types arguments hcallee ih =>
    intro w
    rw [write, render, hcallee, write_typeArguments, write_arguments ih]
    simp only [Writer.push_push, Writer.indent_push, String.append_assoc]
  | construct callee arguments hcallee ih =>
    intro w
    rw [write, render, hcallee, write_arguments ih]
    simp only [Writer.push_push, Writer.indent_push, String.append_assoc]
  | not operand ih =>
    intro w
    rw [write, render, ih, Writer.push_push, Writer.indent_push]
  | array items ih =>
    intro w
    rw [write, render, writeAll_eq ih, Writer.pushAll_zero]
    simp only [Writer.push_push, Writer.indent_push, String.append_assoc]
  | object multiline properties ih =>
    intro w
    rw [write, render]
    split
    · rfl
    · cases multiline with
      | true =>
        rw [if_pos rfl, if_pos rfl, writeLines_eq ih, Writer.lowered_push_raised]
        simp only [Writer.pushIndent_eq, Writer.push_push, Writer.indent_push,
          Writer.indent_raised, String.append_assoc]
      | false =>
        rw [if_neg Bool.false_ne_true, if_neg Bool.false_ne_true, writeInline_eq ih,
          Writer.pushAll_zero]
        simp only [Writer.push_push, Writer.indent_push, String.append_assoc]

end Expr

/-- A statement at the margin is written by appending its text. -/
theorem Statement.writeInline_eq (s : Statement) (w : Writer) (hw : w.indent = 0) :
    s.writeInline w = w.push s.render := by
  induction s generalizing w with
  | importNames names source =>
    show _ = w.push ("import \x7b " ++ String.intercalate ", " names ++ " \x7d from "
      ++ quote source ++ ";")
    rw [writeInline]
    simp only [Writer.push_push, String.append_assoc]
  | exportType name type =>
    show _ = w.push ("export type " ++ name ++ " = " ++ type.render 0 ++ ";")
    rw [writeInline, type.writesText, Writer.indent_push, hw]
    simp only [Writer.push_push, String.append_assoc]
  | exportConst name value =>
    show _ = w.push ("export const " ++ name ++ " = " ++ value.render 0 ++ ";")
    rw [writeInline, value.writesText, Writer.indent_push, hw]
    simp only [Writer.push_push, String.append_assoc]
  | when test consequent ih =>
    have hrest := ih (((w.push "if (").push (test.render 0)).push ") ") hw
    show _ = w.push ("if (" ++ test.render 0 ++ ") " ++ consequent.render)
    rw [writeInline, test.writesText, Writer.indent_push, hw, hrest]
    simp only [Writer.push_push, String.append_assoc]
  | throw value =>
    show _ = w.push ("throw " ++ value.render 0 ++ ";")
    rw [writeInline, value.writesText, Writer.indent_push, hw]
    simp only [Writer.push_push, String.append_assoc]
  | exportFrom specifiers source =>
    show _ = w.push ("export \x7b " ++ String.intercalate ", "
      (specifiers.map ExportSpecifier.render) ++ " \x7d from " ++ quote source ++ ";")
    rw [writeInline, Writer.pushAll_zero]
    simp only [Writer.push_push, String.append_assoc]

namespace Document

theorem write_eq (doc : Document) (w : Writer) (hw : w.indent = 0) :
    doc.write w = w.push doc.render := by
  have hbody : ∀ (body : List Statement) (w : Writer), w.indent = 0 →
      (Document.mk body).write w = w.push (Document.mk body).render := by
    intro body
    unfold write
    induction body with
    | nil => exact fun w _ => w.push_empty.symm
    | cons s rest ih =>
      intro w hw
      have hmargin : indentation 0 = "" := rfl
      have hrest := ih ((w.push s.render).push "\n") hw
      dsimp only at hrest ⊢
      rw [List.foldl_cons, Writer.pushIndent_eq, hw, hmargin, Writer.push_empty,
        s.writeInline_eq w hw, hrest, render_cons]
      simp only [Writer.push_push, String.append_assoc]
  exact hbody doc.body w hw

/-- A writer that counts its depth writes the text of the document, alone and behind the banner. -/
theorem written_eq_render (doc : Document) :
    doc.written = doc.render ∧ doc.writtenFile = doc.renderFile := by
  have htext : ∀ s, (({} : Writer).push s).output = s := fun s => String.empty_append
  refine ⟨?_, ?_⟩
  · unfold written
    rw [doc.write_eq _ rfl, htext]
  · unfold writtenFile renderFile
    rw [doc.write_eq _ rfl, Writer.push_push, htext]

end Document

end TypedLayouts.TypeScript
