import TypedLayouts.Proofs.TypeScript.Paths
import TypedLayouts.Proofs.TypeScript.ReadBack.Types

/-!
# Reading expressions

An expression is read as an operand with any number of accesses behind it: properties and calls. A
negation reaches as far as the expression that it stands in front of, so it is never an operand.
What is read is the flattened expression.
-/

namespace TypedLayouts.TypeScript

namespace Expr

variable (depth : Nat)

theorem renderAll_eq_map (es : List Expr) : renderAll depth es = es.map (render depth) := by
  induction es with
  | nil => rfl
  | cons e es ih => rw [renderAll, ih, List.map_cons]

theorem renderInline_eq_map (ps : List (String × Expr)) :
    renderInline depth ps = ps.map fun p => renderKey p.1 ++ ": " ++ p.2.render depth := by
  induction ps with
  | nil => rfl
  | cons p ps ih => rw [renderInline, ih, List.map_cons]

theorem renderLines_eq_join (ps : List (String × Expr)) :
    renderLines depth ps = String.join (ps.map (ReadBack.line depth (render depth) ",")) := by
  induction ps with
  | nil => rfl
  | cons p ps ih =>
    have hend : ",\n" = "," ++ "\n" := rfl
    rw [renderLines, ih, List.map_cons, String.join_cons, ReadBack.line, hend]
    simp only [String.append_assoc]

theorem flattenedAll_eq_map (es : List Expr) : flattenedAll es = es.map flattened := by
  induction es with
  | nil => rfl
  | cons e es ih => rw [flattenedAll, ih, List.map_cons]

theorem flattenedProperties_eq_map (ps : List (String × Expr)) :
    flattenedProperties ps = ps.map fun p => (p.1, p.2.flattened) := by
  induction ps with
  | nil => rfl
  | cons p ps ih => rw [flattenedProperties, ih, List.map_cons]

theorem forall_mem_of_isPlainAll {es : List Expr} (h : isPlainAll es = true) :
    ∀ e ∈ es, e.isPlain = true := by
  induction es with
  | nil => exact nofun
  | cons e es ih =>
    obtain ⟨he, hes⟩ := Bool.and_eq_true_iff.mp h
    exact List.forall_mem_cons.mpr ⟨he, ih hes⟩

theorem forall_mem_of_isPlainProperties {ps : List (String × Expr)}
    (h : isPlainProperties ps = true) : ∀ p ∈ ps, p.2.isPlain = true := by
  induction ps with
  | nil => exact nofun
  | cons p ps ih =>
    obtain ⟨hp, hps⟩ := Bool.and_eq_true_iff.mp h
    exact List.forall_mem_cons.mpr ⟨hp, ih hps⟩

end Expr

namespace ReadBack

open Filter (atTop)
open TypedLayouts.Text (Reader)

/-- Read an object literal behind its first brace. -/
def object (value : Reader Expr) (steps : Nat) : Reader Expr := fun cs =>
  match behind? "\x7d" cs with
  | some rest => some (.object false [], rest)
  | none =>
    match behind? " " cs with
    | some rest => do
      let (ps, rest) ← separated (property value) " \x7d" steps rest
      some (.object false ps, rest)
    | none => do
      let (ps, rest) ← lines value "," steps cs
      some (.object true ps, rest)

mutual

/-- Read an expression. -/
def value : Nat → Reader Expr
  | 0, _ => none
  | steps + 1, cs =>
    match behind? "!" cs with
    | some rest => do
      let (e, rest) ← value steps rest
      some (.not e, rest)
    | none => chain steps cs

/-- Read an operand and what is asked of it. -/
def chain : Nat → Reader Expr
  | 0, _ => none
  | steps + 1, cs => do
    let (e, rest) ← operand steps cs
    accesses steps e rest

/-- Read an operand. -/
def operand : Nat → Reader Expr
  | 0, _ => none
  | steps + 1, cs =>
    match literal cs with
    | some (text, rest) => some (.string text, rest)
    | none =>
      match behind? "[" cs with
      | some rest => do
        let (es, rest) ← enclosed (value steps) "]" steps rest
        some (.array es, rest)
      | none =>
        match behind? "\x7b" cs with
        | some rest => object (value steps) steps rest
        | none => do
          let (w, rest) ← word cs
          if w = "new" then creation steps rest
          else if w = "null" then some (.null, rest)
          else some (.ident w, rest)

/-- Read what follows `new`. -/
def creation : Nat → Reader Expr
  | 0, _ => none
  | steps + 1, cs => do
    let rest ← behind? " " cs
    let (name, rest) ← dottedWord rest
    let rest ← behind? "(" rest
    let (es, rest) ← enclosed (value steps) ")" steps rest
    some (.construct (.path name) es, rest)

/-- Read the properties and calls behind an expression. -/
def accesses : Nat → Expr → Reader Expr
  | 0, _, _ => none
  | steps + 1, e, cs =>
    match behind? "." cs with
    | some rest => do
      let (property, rest) ← word rest
      accesses steps (.member e property) rest
    | none =>
      match behind? "<" cs with
      | some rest => do
        let (ts, rest) ← separated (type steps) ">" steps rest
        let rest ← behind? "(" rest
        let (es, rest) ← enclosed (value steps) ")" steps rest
        accesses steps (.call e ts es) rest
      | none =>
        match behind? "(" cs with
        | some rest => do
          let (es, rest) ← enclosed (value steps) ")" steps rest
          accesses steps (.call e [] es) rest
        | none => some (e, cs)

end

/-- A character that would go on an expression. -/
def isAccess (c : Char) : Bool :=
  Identifier.isContinue c || c == '.' || c == '<' || c == '('

theorem Stops.isContinue {cs : List Char} (h : Stops isAccess cs) :
    Stops Identifier.isContinue cs :=
  h.mono fun c hc => by rw [isAccess, hc, Bool.true_or, Bool.true_or, Bool.true_or]

theorem accesses_of_stops {e : Expr} {rest : List Char} (h : Stops isAccess rest) (n : Nat) :
    accesses (n + 1) e rest = some (e, rest) := by
  rw [accesses, behind?_of_stops "." h rfl rfl, behind?_of_stops "<" h rfl rfl,
    behind?_of_stops "(" h rfl rfl]

/-- How the printed text of an expression is read with enough steps. -/
structure Yields (depth : Nat) (e : Expr) : Prop where
  /-- It opens with a character that closes nothing, and only a negation opens with its mark. -/
  opens : ∃ c cs, (e.render depth).toList = c :: cs ∧ c ≠ ')' ∧ c ≠ ']' ∧
    (e.isNot = false → c ≠ '!')
  /-- As an operand, with what is asked of it: the text of a property or call begins with that of
  its object, so what the object is asked for is read before the whole is known. -/
  chain : e.isNot = false → ∀ rest found, Stops Identifier.isContinue rest →
    (∀ᶠ n in atTop, accesses n e.flattened rest = some found) →
    ∀ᶠ n in atTop, chain n ((e.render depth).toList ++ rest) = some found
  /-- As an expression, up to what cannot go on it. -/
  value : ∀ rest, Stops isAccess rest →
    ∀ᶠ n in atTop, value n ((e.render depth).toList ++ rest) = some (e.flattened, rest)

variable {depth : Nat}

/-- An operand is read where expressions are. -/
theorem Yields.of_chain {e : Expr}
    (ho : ∃ c cs, (e.render depth).toList = c :: cs ∧ c ≠ ')' ∧ c ≠ ']' ∧ c ≠ '!')
    (h : ∀ rest found, Stops Identifier.isContinue rest →
      (∀ᶠ n in atTop, accesses n e.flattened rest = some found) →
      ∀ᶠ n in atTop, ReadBack.chain n ((e.render depth).toList ++ rest) = some found) :
    Yields depth e where
  opens := by
    obtain ⟨c, cs, hc, hp, hb, hx⟩ := ho
    exact ⟨c, cs, hc, hp, hb, fun _ => hx⟩
  chain _ := h
  value rest hr := by
    obtain ⟨c, cs, hc, -, -, hx⟩ := ho
    have hchain := h rest (e.flattened, rest) hr.isContinue
      (eventually_of_succ (.of_forall fun n => accesses_of_stops hr n))
    rw [hc, List.cons_append] at hchain ⊢
    refine eventually_of_succ ?_
    filter_upwards [hchain] with n hchain
    rw [ReadBack.value, behind?_cons_of_ne "!" rfl hx]
    exact hchain

/-- An operand is read as such, whatever is asked of it. -/
theorem Yields.of_operand {e : Expr}
    (ho : ∃ c cs, (e.render depth).toList = c :: cs ∧ c ≠ ')' ∧ c ≠ ']' ∧ c ≠ '!')
    (h : ∀ rest, Stops Identifier.isContinue rest → ∀ᶠ n in atTop,
      operand n ((e.render depth).toList ++ rest) = some (e.flattened, rest)) :
    Yields depth e := by
  refine .of_chain ho fun rest found hr haccesses => eventually_of_succ ?_
  filter_upwards [h rest hr, haccesses] with n hoperand haccesses
  rw [ReadBack.chain, hoperand]
  exact haccesses

/-! ### Words -/

theorem operand_word {w : String} {rest : List Char} (hw : Identifier.isValid w = true)
    (hr : Stops Identifier.isContinue rest) (n : Nat) :
    operand (n + 1) (w.toList ++ rest) =
      if w = "new" then creation n rest
      else if w = "null" then some (.null, rest)
      else some (.ident w, rest) := by
  have hword := word_append hw hr
  obtain ⟨c, cs, hcs, hstart, -⟩ := valid_toList hw
  rw [operand]
  rw [hcs, List.cons_append] at hword ⊢
  rw [literal_cons_of_ne (ne_of_isStart hstart rfl),
    behind?_cons_of_ne "[" rfl (ne_of_isStart hstart rfl),
    behind?_cons_of_ne "\x7b" rfl (ne_of_isStart hstart rfl), hword]
  rfl

theorem opens_word {w : String} (hw : Identifier.isValid w = true) :
    ∃ c cs, w.toList = c :: cs ∧ c ≠ ')' ∧ c ≠ ']' ∧ c ≠ '!' := by
  obtain ⟨c, cs, hcs, hstart, -⟩ := valid_toList hw
  exact ⟨c, cs, hcs, ne_of_isStart hstart rfl, ne_of_isStart hstart rfl, ne_of_isStart hstart rfl⟩

theorem yields_null : Yields depth .null := by
  have hrender : Expr.null.render depth = "null" := rfl
  refine .of_operand (opens_word (w := "null") rfl) fun rest hr =>
    eventually_of_succ (.of_forall fun n => ?_)
  rw [hrender, operand_word rfl hr]
  rfl

/-- A name is none of the words that open other expressions. -/
theorem not_new {name : String} (h : isName name = true) : name ≠ "new" ∧ name ≠ "null" := by
  have hreserved : name ∉ reserved := by
    have hcontains := (Bool.and_eq_true_iff.mp h).2
    simpa using hcontains
  unfold reserved at hreserved
  simp only [List.mem_cons, not_or] at hreserved
  exact ⟨hreserved.2.1, hreserved.1⟩

theorem yields_ident {name : String} (h : isName name = true) : Yields depth (.ident name) := by
  have hvalid := (Bool.and_eq_true_iff.mp h).1
  have hrender : (Expr.ident name).render depth = name := rfl
  refine .of_operand (opens_word hvalid) fun rest hr =>
    eventually_of_succ (.of_forall fun n => ?_)
  rw [hrender, operand_word hvalid hr, if_neg (not_new h).1, if_neg (not_new h).2]
  rfl

theorem yields_string (text : String) : Yields depth (.string text) := by
  have hrender : (Expr.string text).render depth = quote text := rfl
  have hopens : ∃ cs, (quote text).toList = '"' :: cs := by
    unfold quote
    rw [String.toList_append, String.toList_append]
    exact ⟨_, rfl⟩
  obtain ⟨cs, hcs⟩ := hopens
  refine .of_operand ⟨'"', cs, hcs, by decide, by decide, by decide⟩ fun rest hr =>
    eventually_of_succ (.of_forall fun n => ?_)
  rw [hrender, operand, literal_quote]
  rfl

theorem yields_member {target : Expr} {property : String} (h : Yields depth target)
    (hn : target.isNot = false) (hp : Identifier.isValid property = true) :
    Yields depth (.member target property) := by
  have hrender : (Expr.member target property).render depth =
      target.render depth ++ "." ++ property := rfl
  refine .of_chain ?_ fun rest found hr haccesses => ?_
  · obtain ⟨c, cs, hc, h₁, h₂, h₃⟩ := h.opens
    refine ⟨c, cs ++ (".".toList ++ property.toList), ?_, h₁, h₂, h₃ hn⟩
    rw [hrender, String.toList_append, String.toList_append, hc, List.append_assoc]
    rfl
  · rw [hrender]
    simp only [String.toList_append, List.append_assoc]
    refine h.chain hn _ found (stops_mark "." _ rfl rfl) (eventually_of_succ ?_)
    filter_upwards [haccesses] with n haccesses
    rw [accesses, behind?_append]
    dsimp only
    rw [word_append hp hr]
    exact haccesses

/-! ### Lists of expressions -/

theorem Yields.before {e : Expr} (h : Yields depth e) (mark : String) {c : Char}
    (hm : mark.toList.head? = some c) (hc : isAccess c = false) :
    ReadBefore ReadBack.value (e.render depth) e.flattened mark :=
  fun rest => h.value _ (stops_mark mark rest hm hc)

/-- Expressions are read up to the parenthesis or bracket behind them. -/
theorem enclosed_renderAll {close : String} (hclose : close = ")" ∨ close = "]")
    {es : List Expr} (h : ∀ e ∈ es, Yields depth e) (rest : List Char) :
    ∀ᶠ n in atTop,
      enclosed (value n) close n ((String.intercalate ", " (Expr.renderAll depth es)).toList
        ++ (close.toList ++ rest)) = some (Expr.flattenedAll es, rest) := by
  have hcomma : ∀ rest, behind? ", " (close.toList ++ rest) = none := by
    rcases hclose with rfl | rfl <;> exact fun _ => rfl
  have hopens : ∀ e ∈ es, ∀ rest, behind? close ((e.render depth).toList ++ rest) = none := by
    intro e he rest
    obtain ⟨c, cs, hc, hparenthesis, hbracket, -⟩ := (h e he).opens
    rw [hc]
    rcases hclose with rfl | rfl
    · exact behind?_cons_of_ne ")" rfl hparenthesis
    · exact behind?_cons_of_ne "]" rfl hbracket
  have hlast : ∀ e ∈ es, ReadBefore value (e.render depth) e.flattened close := by
    intro e he
    rcases hclose with rfl | rfl
    · exact (h e he).before ")" rfl rfl
    · exact (h e he).before "]" rfl rfl
  rw [Expr.renderAll_eq_map, Expr.flattenedAll_eq_map]
  exact enclosed_intercalate hcomma es hopens (fun e he => (h e he).before ", " rfl rfl) hlast rest

/-- The arguments of a call are read, and then what is asked of the call. -/
theorem accesses_arguments {e : Expr} {types : List TypeExpr} {arguments : List Expr}
    (ht : ∀ t ∈ types, Reads depth t) (ha : ∀ a ∈ arguments, Yields depth a) {rest : List Char}
    {found : Expr × List Char} (haccesses : ∀ᶠ n in atTop,
      accesses n (.call e (TypeExpr.flattenedAll types) (Expr.flattenedAll arguments)) rest =
        some found) :
    ∀ᶠ n in atTop,
      accesses n e ((TypeExpr.renderArguments depth types).toList ++ ("(".toList ++
        ((String.intercalate ", " (Expr.renderAll depth arguments)).toList
          ++ (")".toList ++ rest)))) = some found := by
  have hitems := enclosed_renderAll (.inl rfl) ha rest
  refine eventually_of_succ ?_
  cases types with
  | nil =>
    have hrender : TypeExpr.renderArguments depth [] = "" := rfl
    have hpoint : ∀ cs, behind? "." ("(".toList ++ cs) = none := fun _ => rfl
    have hangle : ∀ cs, behind? "<" ("(".toList ++ cs) = none := fun _ => rfl
    filter_upwards [hitems, haccesses] with n hitems haccesses
    rw [accesses, hrender, String.toList_empty, List.nil_append, hpoint, hangle, behind?_append]
    dsimp only
    rw [hitems]
    exact haccesses
  | cons t ts =>
    have hrender : TypeExpr.renderArguments depth (t :: ts) =
        "<" ++ String.intercalate ", " (TypeExpr.renderAll depth (t :: ts)) ++ ">" := rfl
    have hpoint : ∀ cs, behind? "." ("<".toList ++ cs) = none := fun _ => rfl
    rw [hrender]
    simp only [String.toList_append, List.append_assoc]
    filter_upwards [separated_renderAll t ts ht _, hitems, haccesses] with n htypes hitems haccesses
    rw [accesses, hpoint, behind?_append]
    dsimp only
    rw [htypes, Option.bind_eq_bind, Option.bind_some]
    dsimp only
    rw [behind?_append, Option.bind_eq_bind, Option.bind_some, hitems]
    exact haccesses

theorem yields_call {callee : Expr} {types : List TypeExpr} {arguments : List Expr}
    (h : Yields depth callee) (hn : callee.isNot = false) (ht : ∀ t ∈ types, Reads depth t)
    (ha : ∀ a ∈ arguments, Yields depth a) : Yields depth (.call callee types arguments) := by
  have hrender : ((Expr.call callee types arguments).render depth).toList =
      (callee.render depth).toList ++ ((TypeExpr.renderArguments depth types).toList ++
        ("(".toList ++ ((String.intercalate ", " (Expr.renderAll depth arguments)).toList
          ++ ")".toList))) := by
    have hstep : (Expr.call callee types arguments).render depth =
        callee.render depth ++ TypeExpr.renderArguments depth types ++ "("
          ++ String.intercalate ", " (Expr.renderAll depth arguments) ++ ")" := rfl
    rw [hstep]
    simp only [String.toList_append, List.append_assoc]
  have hstops : ∀ cs, Stops Identifier.isContinue
      ((TypeExpr.renderArguments depth types).toList ++ ("(".toList ++ cs)) := by
    intro cs
    cases types with
    | nil => exact stops_mark "(" cs rfl rfl
    | cons t ts =>
      have hstep : TypeExpr.renderArguments depth (t :: ts) =
          "<" ++ String.intercalate ", " (TypeExpr.renderAll depth (t :: ts)) ++ ">" := rfl
      rw [hstep, String.toList_append, String.toList_append, List.append_assoc,
        List.append_assoc]
      exact stops_mark "<" _ rfl rfl
  refine .of_chain ?_ fun rest found hr haccesses => ?_
  · obtain ⟨c, cs, hc, h₁, h₂, h₃⟩ := h.opens
    rw [hrender, hc]
    exact ⟨c, _, rfl, h₁, h₂, h₃ hn⟩
  · rw [hrender]
    simp only [List.append_assoc]
    exact h.chain hn _ found (hstops _) (accesses_arguments ht ha haccesses)

theorem yields_array {es : List Expr} (h : ∀ e ∈ es, Yields depth e) :
    Yields depth (.array es) := by
  have hrender : (Expr.array es).render depth =
      "[" ++ String.intercalate ", " (Expr.renderAll depth es) ++ "]" := rfl
  refine .of_operand ?_ fun rest hr => ?_
  · rw [hrender, String.toList_append, String.toList_append]
    exact ⟨'[', _, rfl, by decide, by decide, by decide⟩
  · have hliteral : ∀ cs, literal ("[".toList ++ cs) = none :=
      fun cs => literal_cons_of_ne (by decide)
    rw [hrender]
    simp only [String.toList_append, List.append_assoc]
    refine eventually_of_succ ?_
    filter_upwards [enclosed_renderAll (.inr rfl) h rest] with n hitems
    rw [operand, hliteral, behind?_append]
    dsimp only
    rw [hitems]
    rfl

theorem yields_not {e : Expr} (h : Yields depth e) : Yields depth (.not e) := by
  have hrender : (Expr.not e).render depth = "!" ++ e.render depth := rfl
  refine ⟨?_, nofun, fun rest hr => ?_⟩
  · rw [hrender, String.toList_append]
    exact ⟨'!', _, rfl, by decide, by decide, nofun⟩
  · rw [hrender, String.toList_append, List.append_assoc]
    refine eventually_of_succ ?_
    filter_upwards [h.value rest hr] with n he
    rw [value, behind?_append]
    dsimp only
    rw [he]
    rfl

/-! ### Instances -/

/-- A point and a name behind a dotted name are a property. -/
theorem path_append (name property : String) (h : '.' ∉ property.toList) :
    Expr.path (name ++ "." ++ property) = .member (Expr.path name) property := by
  rw [Expr.path_append_dot, List.splitOn_eq_singleton h]
  simp only [Expr.properties, List.foldl_cons, List.foldl_nil, String.ofList_toList]

theorem dot_not_mem_of_valid {s : String} (h : Identifier.isValid s = true) :
    '.' ∉ s.toList := by
  obtain ⟨c, cs, hs, -, hall⟩ := valid_toList h
  rw [hs]
  intro hdot
  have hcontinue := hall '.' hdot
  revert hcontinue
  decide

/-- The text of a path is a dotted name, and that name denotes the path. -/
theorem path_render (depth : Nat) {e : Expr} (hpath : e.isPath = true) (hplain : e.isPlain = true) :
    IsRun (e.render depth) ∧ Expr.path (e.render depth) = e ∧ e.flattened = e := by
  induction e using Expr.memInduction with
  | ident name =>
    have hvalid := (Bool.and_eq_true_iff.mp hplain).1
    have hrender : (Expr.ident name).render depth = name := rfl
    refine ⟨isRun_of_valid hvalid, ?_, rfl⟩
    rw [hrender, Expr.path_of_not_mem (dot_not_mem_of_valid hvalid)]
  | member target property ih =>
    obtain ⟨htarget, hproperty⟩ := Bool.and_eq_true_iff.mp hplain
    obtain ⟨⟨c, cs, hc, hstart, hall⟩, hdenotes, hflat⟩ :=
      ih hpath (Bool.and_eq_true_iff.mp htarget).1
    obtain ⟨d, ds, hd, -, hinner⟩ := valid_toList hproperty
    have hrender : (Expr.member target property).render depth =
        target.render depth ++ "." ++ property := rfl
    have hflattened : (Expr.member target property).flattened =
        .member target.flattened property := rfl
    refine ⟨⟨c, cs ++ '.' :: d :: ds, ?_, hstart, ?_⟩, ?_, ?_⟩
    · rw [hrender, String.toList_append, String.toList_append, hc, hd, List.append_assoc]
      rfl
    · intro x hx
      rcases List.mem_append.mp (show x ∈ (c :: cs) ++ '.' :: d :: ds from hx) with hx | hx
      · exact hall x hx
      · rcases List.mem_cons.mp hx with rfl | hx
        · rfl
        · exact Bool.or_eq_true_iff.mpr (.inl (hinner x hx))
    · rw [hrender, path_append _ _ (dot_not_mem_of_valid hproperty), hdenotes]
    · rw [hflattened, hflat]
  | _ => cases hpath

theorem yields_construct {callee : Expr} {arguments : List Expr} (hpath : callee.isPath = true)
    (hplain : callee.isPlain = true) (ha : ∀ a ∈ arguments, Yields depth a) :
    Yields depth (.construct callee arguments) := by
  obtain ⟨hrun, hdenotes, hflat⟩ := path_render depth hpath hplain
  have hnew : "new ".toList = "new".toList ++ " ".toList := rfl
  have hrender : ((Expr.construct callee arguments).render depth).toList =
      "new".toList ++ (" ".toList ++ ((callee.render depth).toList ++ ("(".toList ++
        ((String.intercalate ", " (Expr.renderAll depth arguments)).toList ++ ")".toList)))) := by
    have hstep : (Expr.construct callee arguments).render depth =
        "new " ++ callee.render depth ++ "("
          ++ String.intercalate ", " (Expr.renderAll depth arguments) ++ ")" := rfl
    rw [hstep]
    simp only [String.toList_append, List.append_assoc, hnew]
  have hflattened : (Expr.construct callee arguments).flattened =
      .construct callee.flattened (Expr.flattenedAll arguments) := rfl
  refine .of_operand ?_ fun rest hr => ?_
  · rw [hrender]
    exact ⟨'n', _, rfl, by decide, by decide, by decide⟩
  · rw [hrender, hflattened, hflat]
    simp only [List.append_assoc]
    refine eventually_of_succ (eventually_of_succ ?_)
    filter_upwards [enclosed_renderAll (.inl rfl) ha rest] with n hitems
    rw [operand_word rfl (stops_mark " " _ rfl rfl), if_pos rfl, creation, behind?_append,
      Option.bind_eq_bind, Option.bind_some, dottedWord_append hrun (stops_mark "(" _ rfl rfl),
      Option.bind_eq_bind, Option.bind_some]
    dsimp only
    rw [behind?_append, Option.bind_eq_bind, Option.bind_some, hitems, hdenotes]
    rfl

/-! ### Object literals -/

/-- An object literal is read behind its first brace. -/
theorem yields_of_object {multiline : Bool} {ps : List (String × Expr)} {text : List Char}
    (hrender : ((Expr.object multiline ps).render depth).toList = "\x7b".toList ++ text)
    (h : ∀ rest, ∀ᶠ n in atTop,
      object (value n) n (text ++ rest) = some ((Expr.object multiline ps).flattened, rest)) :
    Yields depth (.object multiline ps) := by
  refine .of_operand ?_ fun rest hr => ?_
  · rw [hrender]
    exact ⟨'\x7b', text, rfl, by decide, by decide, by decide⟩
  · have hliteral : ∀ cs, literal ("\x7b".toList ++ cs) = none :=
      fun cs => literal_cons_of_ne (by decide)
    have hbracket : ∀ cs, behind? "[" ("\x7b".toList ++ cs) = none := fun _ => rfl
    refine eventually_of_succ ?_
    filter_upwards [h rest] with n hobject
    rw [hrender, List.append_assoc, operand, hliteral, hbracket, behind?_append]
    exact hobject

theorem yields_empty {multiline : Bool} : Yields depth (.object multiline []) := by
  have hrender : (Expr.object multiline []).render depth = "\x7b\x7d" := by
    cases multiline <;> rfl
  have hbraces : "\x7b\x7d".toList = "\x7b".toList ++ "\x7d".toList := rfl
  refine yields_of_object (by rw [hrender]; exact hbraces) fun rest => .of_forall fun n => ?_
  rw [object, behind?_append]
  cases multiline <;> rfl

theorem yields_lines {p : String × Expr} {ps : List (String × Expr)}
    (h : ∀ q ∈ p :: ps, Yields (depth + 1) q.2) : Yields depth (.object true (p :: ps)) := by
  have hrender : ((Expr.object true (p :: ps)).render depth).toList =
      "\x7b".toList ++ ("\n".toList ++ ((Expr.renderLines (depth + 1) (p :: ps)).toList ++
        ((indentation depth).toList ++ "\x7d".toList))) := by
    have hstep : (Expr.object true (p :: ps)).render depth =
        "\x7b\n" ++ Expr.renderLines (depth + 1) (p :: ps) ++ indentation depth ++ "\x7d" := rfl
    have hopen : "\x7b\n".toList = "\x7b".toList ++ "\n".toList := rfl
    rw [hstep]
    simp only [String.toList_append, List.append_assoc, hopen]
  have hbrace : ∀ cs, behind? "\x7d" ("\n".toList ++ cs) = none := fun _ => rfl
  have hblank : ∀ cs, behind? " " ("\n".toList ++ cs) = none := fun _ => rfl
  have hflattened : (Expr.object true (p :: ps)).flattened =
      .object true (Expr.flattenedProperties (p :: ps)) := rfl
  refine yields_of_object hrender fun rest => ?_
  simp only [List.append_assoc]
  rw [Expr.renderLines_eq_join, hflattened, Expr.flattenedProperties_eq_map]
  filter_upwards [lines_join (p :: ps) (fun q hq => (h q hq).before "," rfl rfl) rest] with n hlines
  rw [object, hbrace, hblank]
  dsimp only
  rw [hlines]
  rfl

theorem yields_inline {p : String × Expr} {ps : List (String × Expr)}
    (h : ∀ q ∈ p :: ps, Yields depth q.2) : Yields depth (.object false (p :: ps)) := by
  have hrender : ((Expr.object false (p :: ps)).render depth).toList =
      "\x7b".toList ++ (" ".toList ++ ((String.intercalate ", "
        (Expr.renderInline depth (p :: ps))).toList ++ " \x7d".toList)) := by
    have hstep : (Expr.object false (p :: ps)).render depth =
        "\x7b " ++ String.intercalate ", " (Expr.renderInline depth (p :: ps)) ++ " \x7d" := rfl
    have hopen : "\x7b ".toList = "\x7b".toList ++ " ".toList := rfl
    rw [hstep]
    simp only [String.toList_append, List.append_assoc, hopen]
  have hbrace : ∀ cs, behind? "\x7d" (" ".toList ++ cs) = none := fun _ => rfl
  have hflattened : (Expr.object false (p :: ps)).flattened =
      .object false (Expr.flattenedProperties (p :: ps)) := rfl
  refine yields_of_object hrender fun rest => ?_
  simp only [List.append_assoc]
  rw [Expr.renderInline_eq_map, hflattened, Expr.flattenedProperties_eq_map]
  filter_upwards [separated_intercalate (fun _ => rfl) p ps
    (fun q hq => ((h q hq).before ", " rfl rfl).property q.1)
    (fun q hq => ((h q hq).before " \x7d" rfl rfl).property q.1) rest] with n hinline
  rw [object, hbrace, behind?_append]
  dsimp only
  rw [hinline]
  rfl

theorem yields_object {multiline : Bool} {ps : List (String × Expr)}
    (h : ∀ depth, ∀ p ∈ ps, Yields depth p.2) : Yields depth (.object multiline ps) := by
  cases ps with
  | nil => exact yields_empty
  | cons p ps =>
    cases multiline with
    | true => exact yields_lines (h (depth + 1))
    | false => exact yields_inline (h depth)

/-! ### All expressions -/

/-- Every plain expression is read back from its text at every depth. -/
theorem yields (e : Expr) (h : e.isPlain = true) (depth : Nat) : Yields depth e := by
  induction e using Expr.memInduction generalizing depth with
  | null => exact yields_null
  | string text => exact yields_string text
  | ident name => exact yields_ident h
  | member target property ih =>
    obtain ⟨htarget, hproperty⟩ := Bool.and_eq_true_iff.mp h
    obtain ⟨hplain, hnot⟩ := Bool.and_eq_true_iff.mp htarget
    exact yields_member (ih hplain depth) (by simpa using hnot) hproperty
  | call callee types arguments ih ihArguments =>
    obtain ⟨hrest, harguments⟩ := Bool.and_eq_true_iff.mp h
    obtain ⟨hcallee, htypes⟩ := Bool.and_eq_true_iff.mp hrest
    obtain ⟨hplain, hnot⟩ := Bool.and_eq_true_iff.mp hcallee
    exact yields_call (ih hplain depth) (by simpa using hnot)
      (fun t ht => reads t (TypeExpr.forall_mem_of_isPlainAll htypes t ht) depth)
      (fun a ha => ihArguments a ha (Expr.forall_mem_of_isPlainAll harguments a ha) depth)
  | construct callee arguments ih ihArguments =>
    obtain ⟨hcallee, harguments⟩ := Bool.and_eq_true_iff.mp h
    obtain ⟨hpath, hplain⟩ := Bool.and_eq_true_iff.mp hcallee
    exact yields_construct hpath hplain
      (fun a ha => ihArguments a ha (Expr.forall_mem_of_isPlainAll harguments a ha) depth)
  | not operand ih => exact yields_not (ih h depth)
  | array items ih =>
    exact yields_array fun e he => ih e he (Expr.forall_mem_of_isPlainAll h e he) depth
  | object multiline ps ih =>
    exact yields_object fun depth p hp => ih p hp (Expr.forall_mem_of_isPlainProperties h p hp) depth
  | raw text => cases h

end ReadBack

end TypedLayouts.TypeScript
