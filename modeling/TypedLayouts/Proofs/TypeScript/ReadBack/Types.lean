import TypedLayouts.Proofs.TypeScript.Induction
import TypedLayouts.Proofs.TypeScript.ReadBack.Lists

/-!
# Reading types

A type is read as alternatives with bars between, each of them an atom with any number of brackets
behind it. What is read is the flattened type: the bars do not show how the alternatives were
grouped.
-/

namespace TypedLayouts.TypeScript

namespace TypeExpr

/-- The members of a union, or the type alone. -/
def listed : TypeExpr → List TypeExpr
  | .union members => members
  | t => [t]

variable (depth : Nat)

theorem renderAll_eq_map (ts : List TypeExpr) : renderAll depth ts = ts.map (render depth) := by
  induction ts with
  | nil => rfl
  | cons t ts ih => rw [renderAll, ih, List.map_cons]

theorem renderMembers_eq_join (ms : List (String × TypeExpr)) :
    renderMembers depth ms = String.join (ms.map (ReadBack.line depth (render depth) ";")) := by
  induction ms with
  | nil => rfl
  | cons m ms ih =>
    have hend : ";\n" = ";" ++ "\n" := rfl
    rw [renderMembers, ih, List.map_cons, String.join_cons, ReadBack.line, hend]
    simp only [String.append_assoc]

theorem flattenedAll_eq_map (ts : List TypeExpr) : flattenedAll ts = ts.map flattened := by
  induction ts with
  | nil => rfl
  | cons t ts ih => rw [flattenedAll, ih, List.map_cons, flattened]

theorem flattenedMembers_eq_map (ms : List (String × TypeExpr)) :
    flattenedMembers ms = ms.map fun m => (m.1, m.2.flattened) := by
  induction ms with
  | nil => rfl
  | cons m ms ih => rw [flattenedMembers, ih, List.map_cons, flattened]

theorem forall_mem_of_isPlainAll {ts : List TypeExpr} (h : isPlainAll ts = true) :
    ∀ t ∈ ts, t.isPlain = true := by
  induction ts with
  | nil => exact nofun
  | cons t ts ih =>
    obtain ⟨ht, hts⟩ := Bool.and_eq_true_iff.mp h
    exact List.forall_mem_cons.mpr ⟨ht, ih hts⟩

theorem forall_mem_of_isPlainMembers {ms : List (String × TypeExpr)}
    (h : isPlainMembers ms = true) : ∀ m ∈ ms, m.2.isPlain = true := by
  induction ms with
  | nil => exact nofun
  | cons m ms ih =>
    obtain ⟨hm, hms⟩ := Bool.and_eq_true_iff.mp h
    exact List.forall_mem_cons.mpr ⟨hm, ih hms⟩

end TypeExpr

namespace ReadBack

open Filter (atTop)
open TypedLayouts.Text (Reader)

/-- The type that a reserved word stands for. -/
def builtIn? : String → Option TypeExpr
  | "string" => some .string
  | "number" => some .number
  | "null" => some .null
  | "any" => some .any
  | "never" => some (.union [])
  | _ => none

/-- Put a type into the brackets behind it. -/
def brackets (t : TypeExpr) : List Char → TypeExpr × List Char
  | '[' :: ']' :: rest => brackets (.array t) rest
  | cs => (t, cs)

mutual

/-- Read a type. -/
def type : Nat → Reader TypeExpr
  | 0, _ => none
  | steps + 1, cs => do
    let (ts, rest) ← choices steps cs
    some (.ofAlternatives ts, rest)

/-- Read alternatives. -/
def choices : Nat → Reader (List TypeExpr)
  | 0, _ => none
  | steps + 1, cs => do
    let (t, rest) ← atom steps cs
    let (ts, rest) ← furtherChoices steps rest
    some (t.listed ++ ts, rest)

/-- Read the alternatives behind another one, if there are any. -/
def furtherChoices : Nat → Reader (List TypeExpr)
  | 0, _ => none
  | steps + 1, cs =>
    match behind? " | " cs with
    | some rest => choices steps rest
    | none => some ([], cs)

/-- Read an alternative. -/
def atom : Nat → Reader TypeExpr
  | 0, _ => none
  | steps + 1, cs => do
    let (t, rest) ← core steps cs
    some (brackets t rest)

/-- Read an alternative without the brackets behind it. -/
def core : Nat → Reader TypeExpr
  | 0, _ => none
  | steps + 1, cs =>
    match literal cs with
    | some (value, rest) => some (.literal value, rest)
    | none =>
      match behind? "(" cs with
      | some rest => do
        let (t, rest) ← type steps rest
        let rest ← behind? ")" rest
        some (t, rest)
      | none =>
        match behind? "\x7b" cs with
        | some rest => do
          let (ms, rest) ← lines (type steps) ";" steps rest
          some (.object ms, rest)
        | none => do
          let (w, rest) ← dottedWord cs
          named steps w rest

/-- Read what follows the word that opens an alternative. -/
def named : Nat → String → Reader TypeExpr
  | 0, _, _ => none
  | steps + 1, w, cs =>
    if w = "typeof" then do
      let rest ← behind? " " cs
      let (name, rest) ← dottedWord rest
      some (.typeOf name, rest)
    else
      match builtIn? w with
      | some t => some (t, cs)
      | none =>
        match behind? "<" cs with
        | some rest => do
          let (ts, rest) ← separated (type steps) ">" steps rest
          some (.reference w ts, rest)
        | none => some (.reference w [], cs)

end

/-! ## What may stand behind a type -/

/-- A character that would go on a word or its type arguments. -/
def isTail (c : Char) : Bool :=
  isDotted c || c == '<'

/-- A character that would go on an alternative. -/
def isJoined (c : Char) : Bool :=
  isTail c || c == '['

/-- A character that would go on a type. -/
def isFurther (c : Char) : Bool :=
  isJoined c || c == ' '

theorem Stops.isDotted {cs : List Char} (h : Stops isTail cs) : Stops isDotted cs :=
  h.mono fun c hc => by rw [isTail, hc, Bool.true_or]

theorem Stops.isTail {cs : List Char} (h : Stops isJoined cs) : Stops isTail cs :=
  h.mono fun c hc => by rw [isJoined, hc, Bool.true_or]

theorem Stops.isJoined {cs : List Char} (h : Stops isFurther cs) : Stops isJoined cs :=
  h.mono fun c hc => by rw [isFurther, hc, Bool.true_or]

/-! ## Printed types are read back -/

/-- Brackets are read up to another character. -/
theorem brackets_of_stops {t : TypeExpr} {rest : List Char} (h : Stops isJoined rest) :
    brackets t rest = (t, rest) := by
  cases rest with
  | nil => rfl
  | cons c cs =>
    have hc : c ≠ '[' := by
      rintro rfl
      have hjoined := h '[' rfl
      revert hjoined
      decide
    rw [brackets]
    exact fun rest he => absurd (List.cons.inj he).1 hc

/-- No alternative is a union, but that of no alternatives. -/
theorem listed_flattened {t : TypeExpr} (h : t.isUnion = false) :
    t.flattened.listed = t.alternatives := by
  cases t with
  | union members => cases h
  | _ => rfl

/-- How the printed text of a type is read with enough steps: as an alternative unless it is a
union, and as alternatives. -/
structure Reads (depth : Nat) (t : TypeExpr) : Prop where
  /-- As an alternative, with the brackets behind it. -/
  atom : t.isUnion = false → ∀ rest, Stops isTail rest →
    ∀ᶠ n in atTop, atom n ((t.render depth).toList ++ rest) = some (brackets t.flattened rest)
  /-- As alternatives, with those behind them: the text does not show where a union ends among
  other alternatives. -/
  choices : ∀ rest ts rest', Stops isJoined rest →
    (∀ᶠ n in atTop, furtherChoices n rest = some (ts, rest')) →
    ∀ᶠ n in atTop, choices n ((t.render depth).toList ++ rest) = some (t.alternatives ++ ts, rest')

/-- An alternative is read where alternatives are. -/
theorem Reads.of_atom {depth : Nat} {t : TypeExpr} (hu : t.isUnion = false)
    (h : ∀ rest, Stops isTail rest → ∀ᶠ n in atTop,
      ReadBack.atom n ((t.render depth).toList ++ rest) = some (brackets t.flattened rest)) :
    Reads depth t where
  atom _ := h
  choices rest ts rest' hr hfurther := by
    refine eventually_of_succ ?_
    filter_upwards [h rest hr.isTail, hfurther] with n hatom hfurther
    rw [ReadBack.choices, hatom, brackets_of_stops hr, Option.bind_eq_bind, Option.bind_some]
    dsimp only
    rw [hfurther, ← listed_flattened hu]
    rfl

/-- A type is read up to what cannot go on it. -/
theorem Reads.type {depth : Nat} {t : TypeExpr} (h : Reads depth t) {rest : List Char}
    (hr : Stops isFurther rest) :
    ∀ᶠ n in atTop,
      ReadBack.type n ((t.render depth).toList ++ rest) = some (t.flattened, rest) := by
  have hfurther : ∀ᶠ n in atTop, furtherChoices n rest = some ([], rest) := by
    refine eventually_of_succ (.of_forall fun n => ?_)
    rw [furtherChoices, behind?_of_stops " | " hr rfl rfl]
  refine eventually_of_succ ?_
  filter_upwards [h.choices rest [] rest hr.isJoined hfurther] with n hchoices
  rw [ReadBack.type, hchoices, List.append_nil]
  rfl

theorem Reads.before {depth : Nat} {t : TypeExpr} (h : Reads depth t) (mark : String) {c : Char}
    (hm : mark.toList.head? = some c) (hc : isFurther c = false) :
    ReadBefore ReadBack.type (t.render depth) t.flattened mark :=
  fun rest => h.type (stops_mark mark rest hm hc)

/-! ### Words -/

theorem core_word {w : String} {rest : List Char} (hw : IsRun w) (hr : Stops isDotted rest)
    (n : Nat) : core (n + 1) (w.toList ++ rest) = named n w rest := by
  have hword := dottedWord_append hw hr
  obtain ⟨c, cs, hcs, hstart, -⟩ := hw
  rw [core]
  rw [hcs, List.cons_append] at hword ⊢
  rw [literal_cons_of_ne (ne_of_isStart hstart rfl),
    behind?_cons_of_ne "(" rfl (ne_of_isStart hstart rfl),
    behind?_cons_of_ne "\x7b" rfl (ne_of_isStart hstart rfl), hword]
  rfl

theorem atom_word {w : String} {t : TypeExpr} {text rest : List Char} (hw : IsRun w)
    (hr : Stops isDotted text) (hn : ∀ᶠ n in atTop, named n w text = some (t, rest)) :
    ∀ᶠ n in atTop, atom n (w.toList ++ text) = some (brackets t rest) := by
  refine eventually_of_succ (eventually_of_succ ?_)
  filter_upwards [hn] with n hn
  rw [atom, core_word hw hr, hn]
  rfl

theorem atom_builtIn {w : String} {t : TypeExpr} (hv : Identifier.isValid w = true)
    (hb : builtIn? w = some t) {rest : List Char} (hr : Stops isTail rest) :
    ∀ᶠ n in atTop, atom n (w.toList ++ rest) = some (brackets t rest) := by
  have hne : w ≠ "typeof" := by
    rintro rfl
    cases hb
  refine atom_word (isRun_of_valid hv) hr.isDotted (eventually_of_succ (.of_forall fun n => ?_))
  rw [named, if_neg hne, hb]

/-- A name is none of the words that open other types. -/
theorem not_reserved {name : String} (h : isDottedName name = true) :
    name ≠ "typeof" ∧ builtIn? name = none := by
  have hreserved : name ∉ reserved := by
    have hcontains := (Bool.and_eq_true_iff.mp h).2
    simpa using hcontains
  unfold reserved at hreserved
  simp only [List.mem_cons, not_or] at hreserved
  obtain ⟨hnull, hnew, htypeof, hstring, hnumber, hany, hnever, -⟩ := hreserved
  refine ⟨htypeof, ?_⟩
  unfold builtIn?
  split <;> first | contradiction | rfl

/-! ### Lists of types -/

variable {depth : Nat}

/-- Type arguments are read up to the bracket behind them. -/
theorem separated_renderAll (t : TypeExpr) (ts : List TypeExpr) (h : ∀ u ∈ t :: ts, Reads depth u)
    (rest : List Char) :
    ∀ᶠ n in atTop,
      separated (type n) ">" n
        ((String.intercalate ", " (TypeExpr.renderAll depth (t :: ts))).toList
          ++ (">".toList ++ rest)) = some (TypeExpr.flattenedAll (t :: ts), rest) := by
  rw [TypeExpr.renderAll_eq_map, TypeExpr.flattenedAll_eq_map]
  exact separated_intercalate (fun _ => rfl) t ts (fun u hu => (h u hu).before ", " rfl rfl)
    (fun u hu => (h u hu).before ">" rfl rfl) rest

/-- The alternatives of a union are read, with those behind them. -/
theorem choices_intercalate (t : TypeExpr) (ts : List TypeExpr) (h : ∀ u ∈ t :: ts, Reads depth u)
    {rest rest' : List Char} {us : List TypeExpr} (hr : Stops isJoined rest)
    (hfurther : ∀ᶠ n in atTop, furtherChoices n rest = some (us, rest')) :
    ∀ᶠ n in atTop,
      choices n ((String.intercalate " | " ((t :: ts).map (TypeExpr.render depth))).toList
        ++ rest) = some (TypeExpr.alternativesAll (t :: ts) ++ us, rest') := by
  induction ts generalizing t with
  | nil =>
    have halternatives : TypeExpr.alternativesAll [t] = t.alternatives ++ [] := rfl
    rw [List.map_singleton, String.intercalate_singleton, halternatives, List.append_nil]
    exact (h t List.mem_cons_self).choices rest us rest' hr hfurther
  | cons v vs ih =>
    have hrest := ih v fun w hw => h w (List.mem_cons_of_mem t hw)
    have halternatives : TypeExpr.alternativesAll (t :: v :: vs) =
        t.alternatives ++ TypeExpr.alternativesAll (v :: vs) := rfl
    rw [List.map_cons] at hrest
    rw [List.map_cons, List.map_cons, toList_intercalate_cons, List.append_assoc,
      List.append_assoc, halternatives, List.append_assoc]
    refine (h t List.mem_cons_self).choices _ _ _ (stops_mark " | " _ rfl rfl)
      (eventually_of_succ ?_)
    filter_upwards [hrest] with n hrest
    rw [furtherChoices, behind?_append]
    exact hrest

/-! ### All types -/

theorem reads_literal (value : String) : Reads depth (.literal value) := by
  refine .of_atom rfl fun rest hr => ?_
  have hrender : (TypeExpr.literal value).render depth = quote value := rfl
  refine eventually_of_succ (eventually_of_succ (.of_forall fun n => ?_))
  rw [hrender, atom, core, literal_quote]
  rfl

theorem reads_union {ms : List TypeExpr} (h : ∀ t ∈ ms, Reads depth t) :
    Reads depth (.union ms) := by
  refine ⟨nofun, fun rest ts rest' hr hfurther => ?_⟩
  cases ms with
  | nil =>
    have hrender : (TypeExpr.union []).render depth = "never" := rfl
    have hnever : ∀ᶠ n in atTop, atom n ("never".toList ++ rest) = some (.union [], rest) := by
      rw [← brackets_of_stops hr]
      exact atom_builtIn rfl rfl hr.isTail
    refine eventually_of_succ ?_
    filter_upwards [hnever, hfurther] with n hnever hfurther
    rw [hrender, choices, hnever, Option.bind_eq_bind, Option.bind_some]
    dsimp only
    rw [hfurther]
    rfl
  | cons t ts =>
    have hrender : (TypeExpr.union (t :: ts)).render depth =
        String.intercalate " | " (TypeExpr.renderAll depth (t :: ts)) := rfl
    rw [hrender, TypeExpr.renderAll_eq_map]
    exact choices_intercalate t ts h hr hfurther

theorem reads_array {item : TypeExpr} (h : Reads depth item) : Reads depth (.array item) := by
  refine .of_atom rfl fun rest hr => ?_
  have hrender : (TypeExpr.array item).render depth =
      if item.isUnion then "(" ++ item.render depth ++ ")[]" else item.render depth ++ "[]" := rfl
  cases hu : item.isUnion with
  | false =>
    rw [hrender, hu, if_neg Bool.false_ne_true, String.toList_append, List.append_assoc]
    exact h.atom hu _ (stops_mark "[]" _ rfl rfl)
  | true =>
    -- In its parentheses the union is read as a type, which ends at the parenthesis.
    have hclose : ")[]".toList = ")".toList ++ "[]".toList := rfl
    have hliteral : ∀ cs, literal ("(".toList ++ cs) = none :=
      fun cs => literal_cons_of_ne (by decide)
    rw [hrender, hu, if_pos rfl, String.toList_append, String.toList_append, hclose]
    simp only [List.append_assoc]
    refine eventually_of_succ (eventually_of_succ ?_)
    filter_upwards [h.type (stops_mark ")" ("[]".toList ++ rest) rfl rfl)] with n hitem
    rw [atom, core, hliteral, behind?_append]
    dsimp only
    rw [hitem, Option.bind_eq_bind, Option.bind_some]
    dsimp only
    rw [behind?_append]
    rfl

theorem reads_reference {name : String} {arguments : List TypeExpr}
    (hn : isDottedName name = true) (h : ∀ t ∈ arguments, Reads depth t) :
    Reads depth (.reference name arguments) := by
  refine .of_atom rfl fun rest hr => ?_
  cases arguments with
  | nil =>
    have hrender : (TypeExpr.reference name []).render depth = name := rfl
    rw [hrender]
    refine atom_word (isRun_of_dotted hn) hr.isDotted (eventually_of_succ (.of_forall fun n => ?_))
    rw [named, if_neg (not_reserved hn).1, (not_reserved hn).2, behind?_of_stops "<" hr rfl rfl]
    rfl
  | cons t ts =>
    have hrender : (TypeExpr.reference name (t :: ts)).render depth =
        name ++ "<" ++ String.intercalate ", " (TypeExpr.renderAll depth (t :: ts)) ++ ">" := rfl
    rw [hrender]
    simp only [String.toList_append, List.append_assoc]
    refine atom_word (isRun_of_dotted hn) (stops_mark "<" _ rfl rfl) (eventually_of_succ ?_)
    filter_upwards [separated_renderAll t ts h rest] with n htypes
    rw [named, if_neg (not_reserved hn).1, (not_reserved hn).2]
    dsimp only
    rw [behind?_append]
    dsimp only
    rw [htypes]
    rfl

theorem reads_typeOf {name : String} (hn : isDottedName name = true) :
    Reads depth (.typeOf name) := by
  refine .of_atom rfl fun rest hr => ?_
  have hrender : (TypeExpr.typeOf name).render depth = "typeof " ++ name := rfl
  have htypeof : "typeof ".toList = "typeof".toList ++ " ".toList := rfl
  rw [hrender, String.toList_append, htypeof, List.append_assoc, List.append_assoc]
  refine atom_word (isRun_of_valid rfl) (stops_mark " " _ rfl rfl)
    (eventually_of_succ (.of_forall fun n => ?_))
  rw [named, if_pos rfl, behind?_append, Option.bind_eq_bind, Option.bind_some,
    dottedWord_append (isRun_of_dotted hn) hr.isDotted]
  rfl

theorem reads_object {ms : List (String × TypeExpr)} (h : ∀ m ∈ ms, Reads (depth + 1) m.2) :
    Reads depth (.object ms) := by
  refine .of_atom rfl fun rest hr => ?_
  have hatom : ∀ text ms, (∀ᶠ n in atTop, lines (type n) ";" n text = some (ms, rest)) →
      ∀ᶠ n in atTop, atom n ("\x7b".toList ++ text) = some (brackets (.object ms) rest) := by
    intro text ms hmembers
    have hliteral : literal ("\x7b".toList ++ text) = none := literal_cons_of_ne (by decide)
    have hparenthesis : behind? "(" ("\x7b".toList ++ text) = none := rfl
    refine eventually_of_succ (eventually_of_succ ?_)
    filter_upwards [hmembers] with n hmembers
    rw [atom, core, hliteral, hparenthesis, behind?_append]
    dsimp only
    rw [hmembers]
    rfl
  cases ms with
  | nil =>
    have hrender : (TypeExpr.object []).render depth = "\x7b\x7d" := rfl
    have hbraces : "\x7b\x7d".toList = "\x7b".toList ++ "\x7d".toList := rfl
    have hskip : skipLayout ("\x7d".toList ++ rest) = "\x7d".toList ++ rest := rfl
    rw [hrender, hbraces, List.append_assoc]
    refine hatom _ [] (eventually_of_succ (.of_forall fun n => ?_))
    rw [lines, hskip, behind?_append]
  | cons m ms =>
    have hrender : (TypeExpr.object (m :: ms)).render depth =
        "\x7b\n" ++ TypeExpr.renderMembers (depth + 1) (m :: ms) ++ indentation depth ++ "\x7d" :=
      rfl
    have hopen : "\x7b\n".toList = "\x7b".toList ++ "\n".toList := rfl
    have hflattened : (TypeExpr.object (m :: ms)).flattened =
        .object (TypeExpr.flattenedMembers (m :: ms)) := rfl
    rw [hrender, hflattened, TypeExpr.renderMembers_eq_join, TypeExpr.flattenedMembers_eq_map]
    simp only [String.toList_append, List.append_assoc, hopen]
    exact hatom _ _ (lines_join (m :: ms) (fun p hp => (h p hp).before ";" rfl rfl) rest)

/-- Every plain type is read back from its text at every depth. -/
theorem reads (t : TypeExpr) (h : t.isPlain = true) (depth : Nat) : Reads depth t := by
  induction t using TypeExpr.memInduction generalizing depth with
  | string => exact .of_atom rfl fun rest hr => atom_builtIn (w := "string") rfl rfl hr
  | number => exact .of_atom rfl fun rest hr => atom_builtIn (w := "number") rfl rfl hr
  | null => exact .of_atom rfl fun rest hr => atom_builtIn (w := "null") rfl rfl hr
  | any => exact .of_atom rfl fun rest hr => atom_builtIn (w := "any") rfl rfl hr
  | literal value => exact reads_literal value
  | union ms ih =>
    exact reads_union fun t ht => ih t ht (TypeExpr.forall_mem_of_isPlainAll h t ht) depth
  | array item ih => exact reads_array (ih h depth)
  | reference name arguments ih =>
    obtain ⟨hn, harguments⟩ := Bool.and_eq_true_iff.mp h
    exact reads_reference hn
      fun t ht => ih t ht (TypeExpr.forall_mem_of_isPlainAll harguments t ht) depth
  | typeOf name => exact reads_typeOf h
  | object ms ih =>
    exact reads_object
      fun m hm => ih m hm (TypeExpr.forall_mem_of_isPlainMembers h m hm) (depth + 1)

end ReadBack

end TypedLayouts.TypeScript
