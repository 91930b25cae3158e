import TypedLayouts.Proofs.TypeScript.Plain.Words
import TypedLayouts.Proofs.TypeScript.ReadBack.Expressions

/-!
# Values of plain files

The text of an expression is read as a plain value, if the names in it have no meaning in the
language and its strings have no NUL. Behind what has been read of a value there may be a property
or a call, so a value is read step by step: at each of its parts the reader stands behind the part,
with a depth left that the rest of the text does not use up.
-/

namespace TypedLayouts.TypeScript

/-- The words with a meaning in the language, wherever that is, and `undefined`. -/
def languageWords : List String :=
  ["abstract", "accessor", "any", "as", "asserts", "async", "await", "boolean", "break", "case",
    "catch", "class", "const", "continue", "debugger", "declare", "default", "delete", "do",
    "else", "enum", "export", "extends", "false", "finally", "for", "from", "function", "get",
    "global", "if", "implements", "import", "in", "infer", "instanceof", "interface", "is",
    "keyof", "let", "module", "namespace", "never", "new", "null", "number", "object", "of",
    "override", "private", "protected", "public", "readonly", "require", "return", "satisfies",
    "set", "static", "string", "super", "switch", "symbol", "this", "throw", "true", "try", "type",
    "typeof", "undefined", "unique", "unknown", "using", "var", "void", "while", "with", "yield"]

theorem Plain.keywords_subset : Plain.keywords ⊆ languageWords := by
  decide +kernel

/-- An expression whose text is plain. -/
inductive Expr.Readable : Expr → Prop where
  /-- `null` -/
  | null : Readable .null
  /-- A string without NUL. -/
  | string {text : String} (h : '\x00' ∉ text.toList) : Readable (.string text)
  /-- A name without a meaning in the language. -/
  | ident {name : String} (h : Identifier.isValid name = true) (hfree : name ∉ languageWords) :
    Readable (.ident name)
  /-- A property. -/
  | member {target : Expr} {property : String} (h : Readable target)
    (hproperty : Identifier.isValid property = true) : Readable (.member target property)
  /-- A call without type arguments. -/
  | call {callee : Expr} {arguments : List Expr} (h : Readable callee)
    (harguments : ∀ e ∈ arguments, Readable e) : Readable (.call callee [] arguments)
  /-- `new` in front of a dotted name. -/
  | construct {callee : Expr} {arguments : List Expr} (hpath : callee.isPath = true)
    (h : Readable callee) (harguments : ∀ e ∈ arguments, Readable e) :
    Readable (.construct callee arguments)
  /-- An array. -/
  | array {items : List Expr} (h : ∀ e ∈ items, Readable e) : Readable (.array items)
  /-- An object literal, whose keys have no NUL. -/
  | object {multiline : Bool} {properties : List (String × Expr)}
    (hkeys : ∀ p ∈ properties, '\x00' ∉ p.1.toList) (h : ∀ p ∈ properties, Readable p.2) :
    Readable (.object multiline properties)

namespace Plain

open ReadBack (Stops valid_toList ne_of_isStart)

/-! ## Texts of values -/

/-- The text begins like a value. -/
def Opens (w : List Char) : Prop :=
  ∃ c cs, w = c :: cs ∧ (c = '"' ∨ c = '[' ∨ c = '\x7b' ∨ Identifier.isStart c = true)

/-- No property and no call comes next, and no name goes on. -/
def Closes (rest : List Char) : Prop :=
  Stops Identifier.isContinue rest ∧ ∃ c cs, skipBlanks rest = c :: cs ∧ c ≠ '.' ∧ c ≠ '('

/-- A text is read as a value, whatever closes it. -/
structure Reads (w : List Char) (t : Tree) : Prop where
  /-- It begins like one. -/
  opens : Opens w
  /-- The value is read to its end. -/
  value : ∀ rest n, Closes rest → 4 * w.length + 2 ≤ n → value n (w ++ rest) = some (t, rest)

/-- A text is read as a value or as the first part of one. -/
structure Leads (w : List Char) (t : Tree) : Prop where
  /-- It begins like a value. -/
  opens : Opens w
  /-- Behind the text, the reader goes on with properties and calls. -/
  value : ∀ rest n, Stops Identifier.isContinue rest → 4 * w.length ≤ n →
    ∃ m, n ≤ m + 4 * w.length ∧ value (n + 1) (w ++ rest) = accesses m (w ++ rest) t rest

variable {w : List Char} {t : Tree}

theorem Opens.append (h : Opens w) (more : List Char) : Opens (w ++ more) := by
  obtain ⟨c, cs, rfl, hc⟩ := h
  exact ⟨c, cs ++ more, rfl, hc⟩

theorem Opens.skipBlanks (h : Opens w) (rest : List Char) :
    skipBlanks (w ++ rest) = w ++ rest := by
  obtain ⟨c, cs, rfl, hc⟩ := h
  rw [List.cons_append]
  rcases hc with rfl | rfl | rfl | hc
  · rfl
  · rfl
  · rfl
  · exact skipBlanks_cons (ne_of_isStart hc rfl) (ne_of_isStart hc rfl)

/-- A value does not begin with a mark that is none of its own. -/
theorem Opens.mark?_eq_none (h : Opens w) {c : Char} (hc : c ∈ [')', ']', '\x7d'])
    {cs rest : List Char} (hcs : Plain.skipBlanks cs = w ++ rest) : mark? c cs = none := by
  obtain ⟨d, ds, rfl, hd⟩ := h
  refine mark?_of_ne hcs ?_
  rintro rfl
  rcases hd with rfl | rfl | rfl | hd
  · simp at hc
  · simp at hc
  · simp at hc
  · rcases List.mem_cons.mp hc with rfl | hc
    · cases hd
    · rcases List.mem_cons.mp hc with rfl | hc
      · cases hd
      · rw [List.mem_singleton.mp hc] at hd
        cases hd

theorem accesses_of_closes {start rest : List Char} {n : Nat} (h : Closes rest) :
    accesses (n + 1) start t rest = some (t, rest) := by
  obtain ⟨-, c, cs, hcs, hdot, hparen⟩ := h
  rw [accesses, hcs]
  dsimp only
  split
  · rename_i heq
    exact absurd (List.cons.inj heq).1 hdot
  · rename_i heq
    exact absurd (List.cons.inj heq).1 hparen
  · rfl

theorem Leads.reads (h : Leads w t) : Reads w t := by
  refine ⟨h.opens, fun rest n hrest hn => ?_⟩
  obtain ⟨k, rfl⟩ := Nat.exists_eq_add_of_le' (Nat.one_le_of_lt hn)
  obtain ⟨m, hm, hvalue⟩ := h.value rest k hrest.1 (by omega)
  obtain ⟨m, rfl⟩ := Nat.exists_eq_add_of_le' (show 1 ≤ m by omega)
  rw [hvalue, accesses_of_closes hrest]

/-- What is read at once leads to what follows it. -/
theorem leads_of_operand (ho : Opens w)
    (h : ∀ rest n, Stops Identifier.isContinue rest → 4 * w.length ≤ n →
      operand n (w ++ rest) = some (t, rest)) : Leads w t := by
  refine ⟨ho, fun rest n hrest hn => ⟨n, Nat.le_add_right _ _, ?_⟩⟩
  rw [value, h rest n hrest hn]
  rfl

/-! ## Words -/

theorem opens_of_valid {s : String} (h : Identifier.isValid s = true) : Opens s.toList := by
  obtain ⟨c, cs, hs, hstart, -⟩ := valid_toList h
  exact ⟨c, cs, hs, .inr (.inr (.inr hstart))⟩

theorem four_le_of_opens {n : Nat} (h : Opens w) (hn : 4 * w.length ≤ n) : 4 ≤ n := by
  obtain ⟨c, cs, rfl, -⟩ := h
  rw [List.length_cons] at hn
  omega

/-- A value that begins with a word. -/
theorem operand_word {s : String} {rest : List Char} {n : Nat}
    (h : Identifier.isValid s = true) (hr : Stops Identifier.isContinue rest) :
    operand (n + 1) (s.toList ++ rest) =
      if s = "null" then some (⟨.other, s, [], false, false⟩, rest)
      else if s = "new" then creation n (s.toList ++ rest) rest
      else name (s.toList ++ rest) := by
  have hword := word_append h hr
  have hnode := node_of_text .other s rest []
  obtain ⟨c, cs, hs, hstart, -⟩ := valid_toList h
  rw [hs, List.cons_append] at hword hnode ⊢
  rw [operand, hword]
  · dsimp only [Option.bind_eq_bind, Option.bind_some]
    rw [hnode]
  · exact fun _ he => ne_of_isStart hstart rfl (List.cons.inj he).1
  · exact fun _ he => ne_of_isStart hstart rfl (List.cons.inj he).1
  · exact fun _ he => ne_of_isStart hstart rfl (List.cons.inj he).1

theorem leads_null : Leads "null".toList ⟨.other, "null", [], false, false⟩ := by
  have hvalid : Identifier.isValid "null" = true := by decide
  have ho := opens_of_valid hvalid
  refine leads_of_operand ho fun rest n hrest hn => ?_
  obtain ⟨k, rfl⟩ := Nat.exists_eq_add_of_le' (show 1 ≤ n from le_trans (by decide) hn)
  rw [operand_word hvalid hrest, if_pos rfl]

theorem mem_keywords_of_reserved {s : String} (h : s = "null" ∨ s = "new") : s ∈ keywords := by
  have hreserved : "null" ∈ keywords ∧ "new" ∈ keywords := by decide +kernel
  rcases h with rfl | rfl
  · exact hreserved.1
  · exact hreserved.2

theorem leads_ident {s : String} (h : Identifier.isValid s = true) (hfree : s ∉ keywords) :
    Leads s.toList ⟨.identifier, s, [], false, false⟩ := by
  have ho := opens_of_valid h
  refine leads_of_operand ho fun rest n hrest hn => ?_
  obtain ⟨k, rfl⟩ := Nat.exists_eq_add_of_le' (le_trans (by decide) (four_le_of_opens ho hn) :
    1 ≤ n)
  have hnull : s ≠ "null" := fun he => hfree (mem_keywords_of_reserved (.inl he))
  have hnew : s ≠ "new" := fun he => hfree (mem_keywords_of_reserved (.inr he))
  rw [operand_word h hrest, if_neg hnull, if_neg hnew, name_append h hfree hrest]

theorem leads_string {s : String} (h : '\x00' ∉ s.toList) :
    ∃ children, (∀ child ∈ children, Tree.hasError child.2 = false) ∧
      Leads (quote s).toList ⟨.string, quote s, children, false, false⟩ := by
  obtain ⟨children, hchildren, hread⟩ := string_quote h
  have hquote : ∃ cs, (quote s).toList = '"' :: cs := by
    unfold quote
    rw [String.toList_append, String.toList_append]
    exact ⟨_, rfl⟩
  obtain ⟨cs, hcs⟩ := hquote
  have ho : Opens (quote s).toList := ⟨_, _, hcs, .inl rfl⟩
  refine ⟨children, hchildren, leads_of_operand ho fun rest n hrest hn => ?_⟩
  obtain ⟨k, rfl⟩ := Nat.exists_eq_add_of_le' (le_trans (by decide) (four_le_of_opens ho hn) :
    1 ≤ n)
  have hstring := hread rest
  rw [hcs, List.cons_append] at hstring ⊢
  rw [operand]
  exact hstring

/-! ## Properties and calls -/

theorem accesses_property (n : Nat) (start more : List Char) :
    accesses (n + 1) start t ('.' :: more) =
      (property (skipBlanks more)).bind fun (p, rest) =>
        accesses n start (node .other start rest (parts [t, p])) rest := by
  have hskip : skipBlanks ('.' :: more) = '.' :: more := rfl
  rw [accesses, hskip]
  rfl

theorem accesses_call (n : Nat) (start more : List Char) :
    accesses (n + 1) start t ('(' :: more) =
      (values n ')' more).bind fun (items, rest) =>
        accesses n start (node .call start rest
          (parts [t, node .other ('(' :: more) rest (parts items)])) rest := by
  have hskip : skipBlanks ('(' :: more) = '(' :: more := rfl
  rw [accesses, hskip]
  rfl

theorem leads_member {property : String} (h : Leads w t)
    (hproperty : Identifier.isValid property = true) :
    Leads (w ++ '.' :: property.toList) ⟨.other, String.ofList (w ++ '.' :: property.toList),
      parts [t, ⟨.propertyName, property, [], false, false⟩], false, false⟩ := by
  obtain ⟨c, cs, hw, hc⟩ := h.opens
  refine ⟨⟨c, cs ++ '.' :: property.toList, by rw [hw]; rfl, hc⟩, fun rest n hrest hn => ?_⟩
  have hstops : Stops Identifier.isContinue ('.' :: (property.toList ++ rest)) :=
    stops_cons rfl
  rw [List.length_append, List.length_cons] at hn ⊢
  obtain ⟨m, hm, hvalue⟩ := h.value ('.' :: (property.toList ++ rest)) n hstops (by omega)
  obtain ⟨m, rfl⟩ := Nat.exists_eq_add_of_le' (show 1 ≤ m by omega)
  refine ⟨m, by omega, ?_⟩
  have hsplit : w ++ '.' :: property.toList ++ rest = w ++ '.' :: (property.toList ++ rest) := by
    rw [List.append_assoc]
    rfl
  rw [← text_node .other (w ++ '.' :: property.toList) rest, hsplit, hvalue, accesses_property,
    (opens_of_valid hproperty).skipBlanks, property_append hproperty hrest]
  rfl

/-! ## Lists of values -/

/-- A mark that stands behind values closes them. -/
theorem closes_mark {c : Char} (hc : c ∈ [',', ')', ']', '\x7d', ';']) (rest : List Char) :
    Closes (c :: rest) := by
  have hall : Identifier.isContinue c = false ∧ c ≠ ' ' ∧ c ≠ '\n' ∧ c ≠ '.' ∧ c ≠ '(' := by
    simp only [List.mem_cons, List.not_mem_nil, or_false] at hc
    rcases hc with rfl | rfl | rfl | rfl | rfl <;> decide
  obtain ⟨hcontinue, hblank, hend, hdot, hparen⟩ := hall
  exact ⟨stops_cons hcontinue, c, rest, skipBlanks_cons hblank hend, hdot, hparen⟩

/-- One of several values, up to a comma or the mark behind the last one. -/
theorem furtherValues_cons (h : Reads w t) {cs rest : List Char} {n : Nat} (close : Char)
    (hcs : Plain.skipBlanks cs = w ++ rest) (hrest : Closes rest) (hn : 4 * w.length + 2 ≤ n) :
    furtherValues (n + 1) close cs =
      match mark? ',' rest with
      | some more => (furtherValues n close more).bind fun (ts, stop) => some (t :: ts, stop)
      | none => (mark? close rest).bind fun stop => some ([t], stop) := by
  rw [furtherValues, hcs, h.value rest n hrest hn]
  rfl

/-- Texts with a mark between them begin like the first one. -/
theorem opens_intercalate {s : String} (h : Opens s.toList) (mark : String) (ss : List String) :
    Opens (mark.intercalate (s :: ss)).toList := by
  cases ss with
  | nil => rwa [String.intercalate_singleton]
  | cons s' ss =>
    rw [ReadBack.toList_intercalate_cons]
    exact h.append _

section Values

variable {close : Char} {depth : Nat}

/-- Values with commas between them are read up to the mark behind the last one. -/
theorem furtherValues_join (hclose : close = ')' ∨ close = ']') (e : Expr) (es : List Expr)
    (h : ∀ a ∈ e :: es, ∃ t : Tree, t.hasError = false ∧ Reads (a.render depth).toList t) :
    ∃ ts : List Tree, (∀ t ∈ ts, t.hasError = false) ∧
      ∀ cs rest n, skipBlanks cs =
          (", ".intercalate ((e :: es).map (Expr.render depth))).toList ++ close :: rest →
        4 * (", ".intercalate ((e :: es).map (Expr.render depth))).toList.length + 3 ≤ n →
          furtherValues n close cs = some (ts, rest) := by
  have hmark : close ∈ [',', ')', ']', '\x7d', ';'] := by
    rcases hclose with rfl | rfl <;> simp
  have hfar : close ≠ ',' ∧ close ≠ ' ' ∧ close ≠ '\n' := by
    rcases hclose with rfl | rfl <;> decide
  induction es generalizing e with
  | nil =>
    obtain ⟨t, ht, hreads⟩ := h e List.mem_cons_self
    refine ⟨[t], by simpa using ht, fun cs rest n hcs hn => ?_⟩
    rw [List.map_singleton, String.intercalate_singleton] at hcs hn
    obtain ⟨k, rfl⟩ := Nat.exists_eq_add_of_le' (show 1 ≤ n by omega)
    have hskip : skipBlanks (close :: rest) = close :: rest :=
      skipBlanks_cons hfar.2.1 hfar.2.2
    rw [furtherValues_cons hreads close hcs (closes_mark hmark rest) (by omega),
      mark?_of_ne hskip hfar.1, mark?_of_skipBlanks hskip]
    rfl
  | cons e' es ih =>
    obtain ⟨t, ht, hreads⟩ := h e List.mem_cons_self
    obtain ⟨ts, hts, hmore⟩ := ih e' fun a ha => h a (List.mem_cons_of_mem e ha)
    obtain ⟨t', -, hreads'⟩ := h e' (List.mem_cons_of_mem e List.mem_cons_self)
    have hopens := opens_intercalate hreads'.opens ", " (es.map (Expr.render depth))
    rw [← List.map_cons] at hopens
    refine ⟨t :: ts, List.forall_mem_cons.mpr ⟨ht, hts⟩, fun cs rest n hcs hn => ?_⟩
    have hcomma : ", ".toList = [',', ' '] := rfl
    rw [List.map_cons, List.map_cons, ReadBack.toList_intercalate_cons, ← List.map_cons, hcomma]
      at hcs hn
    rw [List.append_assoc, List.append_assoc] at hcs
    rw [List.length_append, List.length_append, List.length_cons, List.length_singleton] at hn
    obtain ⟨k, rfl⟩ := Nat.exists_eq_add_of_le' (show 1 ≤ n by omega)
    have hbehind : ∀ more, mark? ',' ([',', ' '] ++ more) = some (' ' :: more) := fun _ => rfl
    have hblank : ∀ more, skipBlanks (' ' :: more) = skipBlanks more :=
      fun _ => skipBlanks_blank (.inl rfl)
    rw [furtherValues_cons hreads close hcs (closes_mark (by simp) _) (by omega), hbehind]
    dsimp only
    rw [hmore _ rest k ((hblank _).trans (hopens.skipBlanks _)) (by omega)]
    rfl

/-- The same where there may be no values at all. -/
theorem values_join (hclose : close = ')' ∨ close = ']') (es : List Expr)
    (h : ∀ a ∈ es, ∃ t : Tree, t.hasError = false ∧ Reads (a.render depth).toList t) :
    ∃ ts : List Tree, (∀ t ∈ ts, t.hasError = false) ∧
      ∀ rest n, 4 * (", ".intercalate (Expr.renderAll depth es)).toList.length + 3 ≤ n →
        values n close ((", ".intercalate (Expr.renderAll depth es)).toList ++ close :: rest) =
          some (ts, rest) := by
  cases es with
  | nil =>
    refine ⟨[], nofun, fun rest n hn => ?_⟩
    obtain ⟨k, rfl⟩ := Nat.exists_eq_add_of_le' (show 1 ≤ n by omega)
    have hnone : (", ".intercalate (Expr.renderAll depth [])).toList = [] := rfl
    have hfar : close ≠ ' ' ∧ close ≠ '\n' := by
      rcases hclose with rfl | rfl <;> decide
    rw [hnone, List.nil_append, values, mark?_of_skipBlanks (skipBlanks_cons hfar.1 hfar.2)]
  | cons e es =>
    rw [Expr.renderAll_eq_map]
    obtain ⟨ts, hts, hread⟩ := furtherValues_join hclose e es h
    refine ⟨ts, hts, fun rest n hn => ?_⟩
    obtain ⟨t, -, hreads⟩ := h e List.mem_cons_self
    have hopens := opens_intercalate hreads.opens ", " (es.map (Expr.render depth))
    rw [← List.map_cons] at hopens
    have hskip := hopens.skipBlanks (close :: rest)
    have hopen : mark? close ((", ".intercalate ((e :: es).map (Expr.render depth))).toList ++
        close :: rest) = none :=
      hopens.mark?_eq_none (by rcases hclose with rfl | rfl <;> simp) hskip
    have hfurther := hread _ rest n hskip hn
    obtain ⟨k, rfl⟩ := Nat.exists_eq_add_of_le' (show 1 ≤ n by omega)
    rw [values, hopen]
    rw [furtherValues] at hfurther
    exact hfurther

end Values

/-! ## Expressions -/

/-- The tree of an expression: it has its text and no mistake, and only the tree of a name is that
of a name. -/
structure Shows (depth : Nat) (e : Expr) (t : Tree) : Prop where
  /-- It has the text of the expression. -/
  text : t.text = e.render depth
  /-- It has no mistake. -/
  sound : t.hasError = false
  /-- It is that of a name exactly for a name. -/
  ident : t.kind = .identifier ↔ ∃ name, e = .ident name
  /-- It is not that of a function. -/
  notArrow : t.kind ≠ .arrowFunction

/-- The text of an expression leads to a tree of it. -/
def Readback (depth : Nat) (e : Expr) : Prop :=
  ∃ t, Leads (e.render depth).toList t ∧ Shows depth e t

theorem Shows.of_children {depth : Nat} {e : Expr} {kind : Kind} {children : List (Role × Tree)}
    (he : ∀ name, e ≠ .ident name) (hkind : kind ∉ [.error, .identifier, .arrowFunction])
    (h : ∀ child ∈ children, child.2.hasError = false) :
    Shows depth e ⟨kind, e.render depth, children, false, false⟩ := by
  simp only [List.mem_cons, List.not_mem_nil, or_false, not_or] at hkind
  refine ⟨rfl, hasError_mk hkind.1 h, ?_, hkind.2.2⟩
  exact ⟨fun hident => absurd hident hkind.2.1, fun hname => absurd hname (not_exists.mpr he)⟩

section Expressions

variable {depth : Nat}

/-- The tree of arguments, parentheses included. -/
theorem node_arguments (inner rest : List Char) (ts : List Tree) :
    node .other ('(' :: (inner ++ ')' :: rest)) rest (parts ts) =
      ⟨.other, String.ofList ('(' :: (inner ++ [')'])), parts ts, false, false⟩ := by
  have hnode := text_node .other ('(' :: (inner ++ [')'])) rest (parts ts)
  rwa [List.cons_append, List.append_assoc, List.singleton_append] at hnode

theorem Readback.reads {e : Expr} (h : Readback depth e) :
    ∃ t : Tree, t.hasError = false ∧ Reads (e.render depth).toList t := by
  obtain ⟨t, hleads, hshows⟩ := h
  exact ⟨t, hshows.sound, hleads.reads⟩

theorem readback_null : Readback depth .null :=
  ⟨_, leads_null, .of_children nofun (by decide) nofun⟩

theorem readback_string {text : String} (h : '\x00' ∉ text.toList) :
    Readback depth (.string text) := by
  obtain ⟨children, hchildren, hleads⟩ := leads_string h
  exact ⟨_, hleads, .of_children nofun (by decide) hchildren⟩

theorem readback_ident {name : String} (h : Identifier.isValid name = true)
    (hfree : name ∉ keywords) : Readback depth (.ident name) :=
  ⟨_, leads_ident h hfree, rfl, rfl, ⟨fun _ => ⟨name, rfl⟩, fun _ => rfl⟩, nofun⟩

theorem toList_render_member (depth : Nat) (target : Expr) (property : String) :
    ((Expr.member target property).render depth).toList =
      (target.render depth).toList ++ '.' :: property.toList := by
  have hstep : (Expr.member target property).render depth =
      target.render depth ++ "." ++ property := rfl
  rw [hstep]
  simp

theorem readback_member {target : Expr} {property : String} (h : Readback depth target)
    (hproperty : Identifier.isValid property = true) :
    Readback depth (.member target property) := by
  obtain ⟨t, hleads, hshows⟩ := h
  have hmember := leads_member hleads hproperty
  rw [← toList_render_member, String.ofList_toList] at hmember
  refine ⟨_, hmember, .of_children nofun (by decide) (hasError_parts ?_)⟩
  exact List.forall_mem_cons.mpr ⟨hshows.sound, List.forall_mem_singleton.mpr rfl⟩

theorem readback_call {callee : Expr} {arguments : List Expr} (h : Readback depth callee)
    (ha : ∀ a ∈ arguments, Readback depth a) : Readback depth (.call callee [] arguments) := by
  obtain ⟨t, hleads, hshows⟩ := h
  obtain ⟨ts, hts, hread⟩ := values_join (.inl rfl) arguments fun a hmem => (ha a hmem).reads
  generalize hinner : (", ".intercalate (Expr.renderAll depth arguments)).toList = inner at hread
  have hrender : ((Expr.call callee [] arguments).render depth).toList =
      (callee.render depth).toList ++ '(' :: (inner ++ [')']) := by
    have hstep : (Expr.call callee [] arguments).render depth = callee.render depth ++ "" ++ "("
        ++ ", ".intercalate (Expr.renderAll depth arguments) ++ ")" := rfl
    rw [hstep, String.append_empty, ← hinner]
    simp
  have hsplit : ∀ rest, ((Expr.call callee [] arguments).render depth).toList ++ rest =
      (callee.render depth).toList ++ '(' :: (inner ++ ')' :: rest) := by
    intro rest
    rw [hrender]
    simp
  refine ⟨⟨.call, (Expr.call callee [] arguments).render depth, parts [t, ⟨.other,
    String.ofList ('(' :: (inner ++ [')'])), parts ts, false, false⟩], false, false⟩,
    ⟨?opens, fun rest n hrest hn => ?value⟩, .of_children nofun (by decide) (hasError_parts ?_)⟩
  case opens =>
    rw [hrender]
    exact hleads.opens.append _
  case value =>
    rw [hrender, List.length_append, List.length_cons, List.length_append,
      List.length_singleton] at hn ⊢
    have hstops : Stops Identifier.isContinue ('(' :: (inner ++ ')' :: rest)) :=
      stops_cons rfl
    -- Behind the callee, enough depth is left for the arguments.
    obtain ⟨m, hm, hvalue⟩ := hleads.value ('(' :: (inner ++ ')' :: rest)) n hstops (by omega)
    obtain ⟨m, rfl⟩ := Nat.exists_eq_add_of_le' (show 1 ≤ m by omega)
    have hnode := node_of_text .call ((Expr.call callee [] arguments).render depth) rest
    refine ⟨m, by omega, ?_⟩
    rw [← hrender, ← hnode, ← node_arguments inner rest, hsplit, hvalue, accesses_call,
      hread rest m (by omega)]
    rfl
  · refine List.forall_mem_cons.mpr ⟨hshows.sound, List.forall_mem_singleton.mpr ?_⟩
    exact hasError_mk nofun (hasError_parts hts)

theorem readback_array {items : List Expr} (h : ∀ e ∈ items, Readback depth e) :
    Readback depth (.array items) := by
  obtain ⟨ts, hts, hread⟩ := values_join (.inr rfl) items fun e hmem => (h e hmem).reads
  generalize hinner : (", ".intercalate (Expr.renderAll depth items)).toList = inner at hread
  have hrender : ((Expr.array items).render depth).toList = '[' :: (inner ++ [']']) := by
    have hstep : (Expr.array items).render depth =
        "[" ++ ", ".intercalate (Expr.renderAll depth items) ++ "]" := rfl
    rw [hstep, ← hinner]
    simp
  have hsplit : ∀ rest, ((Expr.array items).render depth).toList ++ rest =
      '[' :: (inner ++ ']' :: rest) := by
    intro rest
    rw [hrender]
    simp
  refine ⟨⟨.other, (Expr.array items).render depth, parts ts, false, false⟩,
    leads_of_operand ⟨_, _, hrender, .inr (.inl rfl)⟩ fun rest n hrest hn => ?_,
    .of_children nofun (by decide) (hasError_parts hts)⟩
  rw [hrender, List.length_cons, List.length_append, List.length_singleton] at hn
  obtain ⟨k, rfl⟩ := Nat.exists_eq_add_of_le' (show 1 ≤ n by omega)
  have hnode := node_of_text .other ((Expr.array items).render depth) rest (parts ts)
  rw [← hnode, hsplit, operand, hread rest k (by omega)]
  rfl

/-! ### Dotted names -/

theorem dotted_property (steps : Nat) (start more : List Char) (t : Tree) :
    dotted start (steps + 1) t ('.' :: more) =
      (property (skipBlanks more)).bind fun (p, rest) =>
        dotted start steps (node .other start rest (parts [t, p])) rest := by
  have hskip : skipBlanks ('.' :: more) = '.' :: more := rfl
  rw [dotted, hskip]
  rfl

/-- The first name of a dotted name is read, and then its properties one by one; as many steps as
there are characters behind it are left. -/
theorem dotted_render (depth : Nat) {callee : Expr} (h : callee.Readable)
    (hpath : callee.isPath = true) :
    ∃ t : Tree, t.hasError = false ∧ ∀ rest, Stops Identifier.isContinue rest →
      ∃ first more, name ((callee.render depth).toList ++ rest) = some (first, more) ∧
        ∀ steps, more.length ≤ steps → ∃ left, rest.length ≤ left ∧
          dotted ((callee.render depth).toList ++ rest) steps first more =
            dotted ((callee.render depth).toList ++ rest) left t rest := by
  induction h with
  | @ident text hvalid hfree =>
    refine ⟨⟨.identifier, text, [], false, false⟩, rfl, fun rest hrest => ?_⟩
    have hname := name_append hvalid (fun hmem => hfree (keywords_subset hmem)) hrest
    exact ⟨_, rest, hname, fun steps hsteps => ⟨steps, hsteps, rfl⟩⟩
  | @member target property h hproperty ih =>
    obtain ⟨t, ht, hread⟩ := ih hpath
    have hsplit : ∀ rest, ((Expr.member target property).render depth).toList ++ rest =
        (target.render depth).toList ++ '.' :: (property.toList ++ rest) := by
      intro rest
      rw [toList_render_member]
      simp
    refine ⟨⟨.other, (Expr.member target property).render depth,
      parts [t, ⟨.propertyName, property, [], false, false⟩], false, false⟩, ?_,
      fun rest hrest => ?_⟩
    · exact hasError_mk nofun (hasError_parts
        (List.forall_mem_cons.mpr ⟨ht, List.forall_mem_singleton.mpr rfl⟩))
    · obtain ⟨first, more, hname, hdotted⟩ := hread ('.' :: (property.toList ++ rest))
        (stops_cons rfl)
      rw [hsplit]
      refine ⟨first, more, hname, fun steps hsteps => ?_⟩
      obtain ⟨left, hleft, heq⟩ := hdotted steps hsteps
      rw [List.length_cons, List.length_append] at hleft
      obtain ⟨left, rfl⟩ := Nat.exists_eq_add_of_le' (show 1 ≤ left by omega)
      refine ⟨left, by omega, ?_⟩
      have hnode := node_of_text .other ((Expr.member target property).render depth) rest
        (parts [t, ⟨.propertyName, property, [], false, false⟩])
      rw [hsplit] at hnode
      rw [heq, ← hnode, dotted_property, (opens_of_valid hproperty).skipBlanks,
        property_append hproperty hrest]
      rfl
  | _ => cases hpath

/-- A dotted name and arguments behind `new`. -/
theorem creation_of_dotted {start cs more inside stop : List Char} {first t : Tree}
    {ts : List Tree} {n : Nat} (hname : name cs = some (first, more))
    (hdotted : dotted cs more.length first more = some (t, '(' :: inside))
    (hvalues : values n ')' inside = some (ts, stop)) :
    creation (n + 1) start (' ' :: cs) = some (node .other start stop
      (parts [t, node .other ('(' :: inside) stop (parts ts)]), stop) := by
  have hblank : (' ' :: cs).dropWhile (· = ' ') = cs := by
    cases cs with
    | nil => cases hname
    | cons c cs =>
      have hstart : Identifier.isStart c = true := by
        by_contra hno
        unfold name word at hname
        simp [hno] at hname
      have hc : c ≠ ' ' := ne_of_isStart hstart rfl
      simp [hc]
  have hskip : skipBlanks ('(' :: inside) = '(' :: inside := rfl
  rw [creation]
  dsimp only
  rw [hblank, hname]
  dsimp only [Option.bind_eq_bind, Option.bind_some]
  rw [hdotted]
  dsimp only [Option.bind_eq_bind, Option.bind_some]
  rw [hskip]
  split
  · rename_i heq
    rw [← (List.cons.inj heq).2, hvalues]
    rfl
  · rename_i hno
    exact absurd rfl (hno inside)

theorem readback_construct {callee : Expr} {arguments : List Expr} (hpath : callee.isPath = true)
    (h : callee.Readable) (ha : ∀ a ∈ arguments, Readback depth a) :
    Readback depth (.construct callee arguments) := by
  obtain ⟨t, ht, hdotted⟩ := dotted_render depth h hpath
  obtain ⟨ts, hts, hread⟩ := values_join (.inl rfl) arguments fun a hmem => (ha a hmem).reads
  generalize hinner : (", ".intercalate (Expr.renderAll depth arguments)).toList = inner at hread
  have hrender : ((Expr.construct callee arguments).render depth).toList =
      "new".toList ++ ' ' :: ((callee.render depth).toList ++ '(' :: (inner ++ [')'])) := by
    have hstep : (Expr.construct callee arguments).render depth = "new " ++ callee.render depth
        ++ "(" ++ ", ".intercalate (Expr.renderAll depth arguments) ++ ")" := rfl
    rw [hstep, ← hinner]
    simp
  have hsplit : ∀ rest, ((Expr.construct callee arguments).render depth).toList ++ rest =
      "new".toList ++ ' ' :: ((callee.render depth).toList ++ '(' :: (inner ++ ')' :: rest)) := by
    intro rest
    rw [hrender]
    simp
  have hvalid : Identifier.isValid "new" = true := by decide
  refine ⟨⟨.other, (Expr.construct callee arguments).render depth, parts [t, ⟨.other,
    String.ofList ('(' :: (inner ++ [')'])), parts ts, false, false⟩], false, false⟩,
    leads_of_operand ?opens fun rest n hrest hn => ?value,
    .of_children nofun (by decide) (hasError_parts ?_)⟩
  case opens =>
    rw [hrender]
    exact (opens_of_valid hvalid).append _
  case value =>
    rw [hrender] at hn
    simp only [List.length_append, List.length_cons] at hn
    obtain ⟨k, rfl⟩ := Nat.exists_eq_add_of_le' (show 2 ≤ n by omega)
    have hnode := node_of_text .other ((Expr.construct callee arguments).render depth) rest
      (parts [t, node .other ('(' :: (inner ++ ')' :: rest)) rest (parts ts)])
    rw [hsplit] at hnode
    have hstops : Stops Identifier.isContinue
        (' ' :: ((callee.render depth).toList ++ '(' :: (inner ++ ')' :: rest))) :=
      stops_cons rfl
    obtain ⟨first, more, hname, hsteps⟩ := hdotted ('(' :: (inner ++ ')' :: rest))
      (stops_cons rfl)
    obtain ⟨left, hleft, heq⟩ := hsteps more.length le_rfl
    obtain ⟨left, rfl⟩ := Nat.exists_eq_add_of_le' (show 1 ≤ left by
      rw [List.length_cons] at hleft
      omega)
    -- No property follows the dotted name, so the steps that are left do not matter.
    have hend : dotted ((callee.render depth).toList ++ '(' :: (inner ++ ')' :: rest)) (left + 1) t
        ('(' :: (inner ++ ')' :: rest)) = some (t, '(' :: (inner ++ ')' :: rest)) := rfl
    rw [← node_arguments inner rest, ← hnode, hsplit, operand_word hvalid hstops,
      if_neg (by decide), if_pos rfl, creation_of_dotted hname (heq.trans hend)
        (hread rest k (by omega))]
  · refine List.forall_mem_cons.mpr ⟨ht, List.forall_mem_singleton.mpr ?_⟩
    exact hasError_mk nofun (hasError_parts hts)

end Expressions

end Plain

end TypedLayouts.TypeScript
