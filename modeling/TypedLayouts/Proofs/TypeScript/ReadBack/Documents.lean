import TypedLayouts.Proofs.TypeScript.ReadBack.Expressions

/-!
# Reading documents

A document is read statement by statement, each up to its line end. Since reading gives back the
flattened document from the text of every plain one, two plain documents with the same text are the
same but for what is never printed.
-/

namespace TypedLayouts.TypeScript

namespace ReadBack

open Filter (atTop)
open TypedLayouts.Text (Reader)

/-! ## Lists of names -/

/-- Read an entry of an export list. -/
def specifier : Reader ExportSpecifier := fun cs => do
  let (localName, rest) ← word cs
  match behind? " as " rest with
  | some rest => do
    let (exportedName, rest) ← word rest
    some (⟨localName, exportedName⟩, rest)
  | none => some (⟨localName, localName⟩, rest)

theorem valid_of_isName {name : String} (h : isName name = true) :
    Identifier.isValid name = true :=
  (Bool.and_eq_true_iff.mp h).1

/-- An entry of an export list is read up to what neither goes on a name nor renames it. -/
theorem specifier_render {s : ExportSpecifier} (hlocal : isName s.localName = true)
    (hexported : isName s.exportedName = true) {rest : List Char}
    (hr : Stops Identifier.isContinue rest) (has : behind? " as " rest = none) :
    specifier (s.render.toList ++ rest) = some (s, rest) := by
  have hl := valid_of_isName hlocal
  unfold specifier ExportSpecifier.render
  by_cases hsame : s.exportedName = s.localName
  · rw [if_pos hsame, word_append hl hr, Option.bind_eq_bind, Option.bind_some]
    dsimp only
    rw [has, ← hsame]
    cases s
    cases hsame
    rfl
  · rw [if_neg hsame]
    simp only [String.toList_append, List.append_assoc]
    rw [word_append hl (stops_mark " as " _ rfl rfl), Option.bind_eq_bind, Option.bind_some]
    dsimp only
    rw [behind?_append]
    dsimp only
    rw [word_append (valid_of_isName hexported) hr]
    rfl

/-- A text that opens with a name does not close a list. -/
theorem behind?_name {name : String} (h : isName name = true) (cs : List Char) :
    behind? " \x7d from " (name.toList ++ cs) = none := by
  obtain ⟨c, more, hname, hstart, -⟩ := valid_toList (valid_of_isName h)
  rw [hname]
  exact behind?_cons_of_ne " \x7d from " rfl (ne_of_isStart hstart rfl)

/-- A list of names is read back. -/
theorem enclosed_names {names : List String} (h : ∀ name ∈ names, isName name = true)
    (rest : List Char) :
    ∀ᶠ n in atTop,
      enclosed word " \x7d from " n ((String.intercalate ", " names).toList
        ++ (" \x7d from ".toList ++ rest)) = some (names, rest) := by
  have hread : ∀ mark c, mark.toList.head? = some c → Identifier.isContinue c = false →
      ∀ name ∈ names, ReadBefore (fun _ => word) name name mark :=
    fun mark c hm hc name hname rest =>
      .of_forall fun _ => word_append (valid_of_isName (h name hname)) (stops_mark mark rest hm hc)
  have hnames := enclosed_intercalate (fun _ => rfl) names
    (fun name hname => behind?_name (h name hname)) (hread ", " ',' rfl rfl)
    (hread " \x7d from " ' ' rfl rfl) rest
  rwa [List.map_id'] at hnames

/-- A list of exports is read back. -/
theorem enclosed_specifiers {specifiers : List ExportSpecifier}
    (h : ∀ s ∈ specifiers, isName s.localName = true ∧ isName s.exportedName = true)
    (rest : List Char) :
    ∀ᶠ n in atTop,
      enclosed specifier " \x7d from " n
        ((String.intercalate ", " (specifiers.map ExportSpecifier.render)).toList
          ++ (" \x7d from ".toList ++ rest)) = some (specifiers, rest) := by
  have hopens : ∀ s ∈ specifiers, ∀ rest,
      behind? " \x7d from " (s.render.toList ++ rest) = none := by
    intro s hs rest
    unfold ExportSpecifier.render
    split
    · exact behind?_name (h s hs).1 rest
    · rw [String.toList_append, String.toList_append, List.append_assoc, List.append_assoc]
      exact behind?_name (h s hs).1 _
  have hread : ∀ mark c, mark.toList.head? = some c → Identifier.isContinue c = false →
      (∀ rest, behind? " as " (mark.toList ++ rest) = none) →
        ∀ s ∈ specifiers, ReadBefore (fun _ => specifier) s.render s mark :=
    fun mark c hm hc has s hs rest =>
      .of_forall fun _ => specifier_render (h s hs).1 (h s hs).2 (stops_mark mark rest hm hc)
        (has rest)
  have hspecifiers := enclosed_intercalate (fun _ => rfl) specifiers hopens
    (hread ", " ',' rfl rfl fun _ => rfl) (hread " \x7d from " ' ' rfl rfl fun _ => rfl) rest
  rwa [List.map_id'] at hspecifiers

/-! ## Statements -/

/-- Read the source of an import or export and the end of the statement. -/
def source : Reader String := fun cs => do
  let (text, rest) ← literal cs
  let rest ← behind? ";" rest
  some (text, rest)

/-- Read a statement. -/
def statement : Nat → Reader Statement
  | 0, _ => none
  | steps + 1, cs =>
    match behind? "import \x7b " cs with
    | some rest => do
      let (names, rest) ← enclosed word " \x7d from " steps rest
      let (text, rest) ← source rest
      some (.importNames names text, rest)
    | none =>
      match behind? "export \x7b " cs with
      | some rest => do
        let (specifiers, rest) ← enclosed specifier " \x7d from " steps rest
        let (text, rest) ← source rest
        some (.exportFrom specifiers text, rest)
      | none =>
        match behind? "export type " cs with
        | some rest => do
          let (name, rest) ← word rest
          let rest ← behind? " = " rest
          let (t, rest) ← type steps rest
          let rest ← behind? ";" rest
          some (.exportType name t, rest)
        | none =>
          match behind? "export const " cs with
          | some rest => do
            let (name, rest) ← word rest
            let rest ← behind? " = " rest
            let (e, rest) ← value steps rest
            let rest ← behind? ";" rest
            some (.exportConst name e, rest)
          | none =>
            match behind? "throw " cs with
            | some rest => do
              let (e, rest) ← value steps rest
              let rest ← behind? ";" rest
              some (.throw e, rest)
            | none => do
              let rest ← behind? "if (" cs
              let (e, rest) ← value steps rest
              let rest ← behind? ") " rest
              let (s, rest) ← statement steps rest
              some (.when e s, rest)

theorem source_quote (text : String) (rest : List Char) :
    source ((quote text).toList ++ (";".toList ++ rest)) = some (text, rest) := by
  unfold source
  rw [literal_quote, Option.bind_eq_bind, Option.bind_some]
  dsimp only
  rw [behind?_append]
  rfl

theorem statement_importNames {names : List String} {text : String}
    (h : ∀ name ∈ names, isName name = true) (rest : List Char) :
    ∀ᶠ n in atTop, statement n ((Statement.importNames names text).render.toList ++ rest) =
      some (.importNames names text, rest) := by
  have hrender : (Statement.importNames names text).render =
      "import \x7b " ++ String.intercalate ", " names ++ " \x7d from " ++ quote text ++ ";" := rfl
  rw [hrender]
  simp only [String.toList_append, List.append_assoc]
  refine eventually_of_succ ?_
  filter_upwards [enclosed_names h _] with n hnames
  rw [statement, behind?_append]
  dsimp only
  rw [hnames, Option.bind_eq_bind, Option.bind_some]
  dsimp only
  rw [source_quote]
  rfl

theorem statement_exportFrom {specifiers : List ExportSpecifier} {text : String}
    (h : ∀ s ∈ specifiers, isName s.localName = true ∧ isName s.exportedName = true)
    (rest : List Char) :
    ∀ᶠ n in atTop, statement n ((Statement.exportFrom specifiers text).render.toList ++ rest) =
      some (.exportFrom specifiers text, rest) := by
  have hrender : (Statement.exportFrom specifiers text).render =
      "export \x7b " ++ String.intercalate ", " (specifiers.map ExportSpecifier.render)
        ++ " \x7d from " ++ quote text ++ ";" := rfl
  have himport : ∀ cs, behind? "import \x7b " ("export \x7b ".toList ++ cs) = none :=
    fun _ => rfl
  rw [hrender]
  simp only [String.toList_append, List.append_assoc]
  refine eventually_of_succ ?_
  filter_upwards [enclosed_specifiers h _] with n hspecifiers
  rw [statement, himport, behind?_append]
  dsimp only
  rw [hspecifiers, Option.bind_eq_bind, Option.bind_some]
  dsimp only
  rw [source_quote]
  rfl

theorem statement_exportType {name : String} {t : TypeExpr} (hname : isName name = true)
    (ht : t.isPlain = true) (rest : List Char) :
    ∀ᶠ n in atTop, statement n ((Statement.exportType name t).render.toList ++ rest) =
      some (.exportType name t.flattened, rest) := by
  have hrender : (Statement.exportType name t).render =
      "export type " ++ name ++ " = " ++ t.render 0 ++ ";" := rfl
  have hother : ∀ cs, behind? "import \x7b " ("export type ".toList ++ cs) = none ∧
      behind? "export \x7b " ("export type ".toList ++ cs) = none :=
    fun _ => ⟨rfl, rfl⟩
  rw [hrender]
  simp only [String.toList_append, List.append_assoc]
  refine eventually_of_succ ?_
  filter_upwards [(reads t ht 0).type (stops_mark ";" _ rfl rfl)] with n ht
  rw [statement, (hother _).1, (hother _).2, behind?_append]
  dsimp only
  rw [word_append (valid_of_isName hname) (stops_mark " = " _ rfl rfl), Option.bind_eq_bind,
    Option.bind_some]
  dsimp only
  rw [behind?_append, Option.bind_eq_bind, Option.bind_some, ht, Option.bind_eq_bind,
    Option.bind_some]
  dsimp only
  rw [behind?_append]
  rfl

theorem statement_exportConst {name : String} {e : Expr} (hname : isName name = true)
    (he : e.isPlain = true) (rest : List Char) :
    ∀ᶠ n in atTop, statement n ((Statement.exportConst name e).render.toList ++ rest) =
      some (.exportConst name e.flattened, rest) := by
  have hrender : (Statement.exportConst name e).render =
      "export const " ++ name ++ " = " ++ e.render 0 ++ ";" := rfl
  have hother : ∀ cs, behind? "import \x7b " ("export const ".toList ++ cs) = none ∧
      behind? "export \x7b " ("export const ".toList ++ cs) = none ∧
      behind? "export type " ("export const ".toList ++ cs) = none :=
    fun _ => ⟨rfl, rfl, rfl⟩
  rw [hrender]
  simp only [String.toList_append, List.append_assoc]
  refine eventually_of_succ ?_
  filter_upwards [(yields e he 0).value _ (stops_mark ";" _ rfl rfl)] with n he
  rw [statement, (hother _).1, (hother _).2.1, (hother _).2.2, behind?_append]
  dsimp only
  rw [word_append (valid_of_isName hname) (stops_mark " = " _ rfl rfl), Option.bind_eq_bind,
    Option.bind_some]
  dsimp only
  rw [behind?_append, Option.bind_eq_bind, Option.bind_some, he, Option.bind_eq_bind,
    Option.bind_some]
  dsimp only
  rw [behind?_append]
  rfl

theorem statement_throw {e : Expr} (he : e.isPlain = true) (rest : List Char) :
    ∀ᶠ n in atTop, statement n ((Statement.throw e).render.toList ++ rest) =
      some (.throw e.flattened, rest) := by
  have hrender : (Statement.throw e).render = "throw " ++ e.render 0 ++ ";" := rfl
  have hother : ∀ cs, behind? "import \x7b " ("throw ".toList ++ cs) = none ∧
      behind? "export \x7b " ("throw ".toList ++ cs) = none ∧
      behind? "export type " ("throw ".toList ++ cs) = none ∧
      behind? "export const " ("throw ".toList ++ cs) = none :=
    fun _ => ⟨rfl, rfl, rfl, rfl⟩
  rw [hrender]
  simp only [String.toList_append, List.append_assoc]
  refine eventually_of_succ ?_
  filter_upwards [(yields e he 0).value _ (stops_mark ";" _ rfl rfl)] with n he
  rw [statement, (hother _).1, (hother _).2.1, (hother _).2.2.1, (hother _).2.2.2,
    behind?_append]
  dsimp only
  rw [he, Option.bind_eq_bind, Option.bind_some]
  dsimp only
  rw [behind?_append]
  rfl

theorem statement_when {test : Expr} {consequent : Statement} {rest : List Char}
    (htest : test.isPlain = true) (h : ∀ᶠ n in atTop,
      statement n (consequent.render.toList ++ rest) = some (consequent.flattened, rest)) :
    ∀ᶠ n in atTop, statement n ((Statement.when test consequent).render.toList ++ rest) =
      some (.when test.flattened consequent.flattened, rest) := by
  have hrender : (Statement.when test consequent).render =
      "if (" ++ test.render 0 ++ ") " ++ consequent.render := rfl
  have hother : ∀ cs, behind? "import \x7b " ("if (".toList ++ cs) = none ∧
      behind? "export \x7b " ("if (".toList ++ cs) = none ∧
      behind? "export type " ("if (".toList ++ cs) = none ∧
      behind? "export const " ("if (".toList ++ cs) = none ∧
      behind? "throw " ("if (".toList ++ cs) = none :=
    fun _ => ⟨rfl, rfl, rfl, rfl, rfl⟩
  rw [hrender]
  simp only [String.toList_append, List.append_assoc]
  refine eventually_of_succ ?_
  filter_upwards [(yields test htest 0).value _ (stops_mark ") " _ rfl rfl), h] with n he hs
  rw [statement, (hother _).1, (hother _).2.1, (hother _).2.2.1, (hother _).2.2.2.1,
    (hother _).2.2.2.2]
  dsimp only
  rw [behind?_append, Option.bind_eq_bind, Option.bind_some, he, Option.bind_eq_bind,
    Option.bind_some]
  dsimp only
  rw [behind?_append, Option.bind_eq_bind, Option.bind_some, hs]
  rfl

/-- Every plain statement is read back from its text. -/
theorem statement_render (s : Statement) (h : s.isPlain = true) (rest : List Char) :
    ∀ᶠ n in atTop, statement n (s.render.toList ++ rest) = some (s.flattened, rest) := by
  induction s with
  | importNames names text => exact statement_importNames (List.all_eq_true.mp h) rest
  | exportFrom specifiers text =>
    refine statement_exportFrom (fun s hs => ?_) rest
    exact Bool.and_eq_true_iff.mp (List.all_eq_true.mp h s hs)
  | exportType name t =>
    obtain ⟨hname, ht⟩ := Bool.and_eq_true_iff.mp h
    exact statement_exportType hname ht rest
  | exportConst name e =>
    obtain ⟨hname, he⟩ := Bool.and_eq_true_iff.mp h
    exact statement_exportConst hname he rest
  | throw e => exact statement_throw h rest
  | when test consequent ih =>
    obtain ⟨htest, hconsequent⟩ := Bool.and_eq_true_iff.mp h
    exact statement_when htest (ih hconsequent)

/-! ## Documents -/

/-- Read statements, each with a line end behind it, up to the end of the text. -/
def statements : Nat → List Char → Option (List Statement)
  | 0, _ => none
  | steps + 1, cs =>
    if cs.isEmpty then some []
    else do
      let (s, rest) ← statement steps cs
      let rest ← behind? "\n" rest
      let ss ← statements steps rest
      some (s :: ss)

/-- The text of a plain document is read back as the flattened document. -/
theorem statements_render (body : List Statement) (h : ∀ s ∈ body, s.isPlain = true) :
    ∀ᶠ n in atTop,
      statements n (Document.mk body).render.toList = some (body.map Statement.flattened) := by
  induction body with
  | nil =>
    have hrender : (Document.mk []).render.toList = [] := rfl
    refine eventually_of_succ (.of_forall fun n => ?_)
    rw [hrender, statements]
    rfl
  | cons s rest ih =>
    have hrest := ih fun v hv => h v (List.mem_cons_of_mem s hv)
    have hs := statement_render s (h s List.mem_cons_self)
    rw [Document.render_cons, String.toList_append, String.toList_append]
    refine eventually_of_succ ?_
    filter_upwards [hs _, hrest] with n hs hrest
    rw [statements, if_neg ?_, hs, Option.bind_eq_bind, Option.bind_some]
    · dsimp only
      rw [behind?_append, Option.bind_eq_bind, Option.bind_some, hrest]
      rfl
    · simp

end ReadBack

namespace Document

/-- Two plain documents with the same text are the same when flattened. -/
theorem flattened_eq_of_render_eq {doc doc' : Document} (h : doc.isPlain = true)
    (h' : doc'.isPlain = true) (he : doc.render = doc'.render) :
    doc.flattened = doc'.flattened := by
  have hread := ReadBack.statements_render doc.body (List.all_eq_true.mp h)
  have hread' := ReadBack.statements_render doc'.body (List.all_eq_true.mp h')
  have htext : (Document.mk doc.body).render = (Document.mk doc'.body).render := he
  obtain ⟨n, hn, hn'⟩ := (hread.and hread').exists
  rw [htext, hn'] at hn
  exact congrArg Document.mk (Option.some.inj hn).symm

/-- An alias with a union in a union, and an empty object literal that is a multi-line one. -/
def nested : Document where
  body :=
    [.exportType "TStatus" (.array (.union [.literal "open", .union [.literal "paid", .null]])),
      .exportConst "client" (.member (.object true []) "status")]

/-- The same with other unions and with the object literal on one line. -/
def regrouped : Document where
  body :=
    [.exportType "TStatus" (.array (.union [.union [.literal "open", .literal "paid"], .null])),
      .exportConst "client" (.member (.object false []) "status")]

/-- Two documents that differ only in what is not printed. -/
theorem flattened_nested_eq_regrouped :
    nested.isPlain = true ∧ regrouped.isPlain = true ∧ nested.render = regrouped.render ∧
      nested.flattened = regrouped.flattened := by
  have h : nested.isPlain = true := by decide
  have h' : regrouped.isPlain = true := by decide
  have he : nested.render = regrouped.render := by decide
  exact ⟨h, h', he, flattened_eq_of_render_eq h h' he⟩

end Document

end TypedLayouts.TypeScript
