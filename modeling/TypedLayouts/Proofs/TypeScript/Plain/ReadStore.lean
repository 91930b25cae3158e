import TypedLayouts.Proofs.TypeScript.Plain.Objects
import TypedLayouts.TypeScript.File

/-!
# A printed config is read back

A module that exports an object literal as `config` is a plain file, and the token store that is
found in it is the value of the first property of that name, whatever the other keys and values look
like. A name is made into a call of it; any other value is taken over with the very text that was
printed for it.
-/

namespace TypedLayouts.TypeScript

/-- What is made of the value of a property: a name is called, and anything else is taken with the
text that it has on a line at some depth. -/
def Expr.construction (depth : Nat) : Expr → Expr
  | .ident name => .call (.ident name) [] []
  | e => .raw (e.render depth)

namespace Plain

open ReadBack (Stops)

variable {depth : Nat}

/-- The tree of an expression is made into what the expression is made into. -/
theorem Shows.construction {e : Expr} {t : Tree} (h : Shows depth e t) :
    (Tree.Property.assigned t).construction = e.construction depth := by
  unfold Tree.Property.construction
  dsimp only
  split
  · rename_i hkind
    obtain ⟨name, rfl⟩ := h.ident.mp hkind
    rw [h.text]
    rfl
  · rename_i hkind _
    exact absurd hkind h.notArrow
  · rename_i hident _
    rw [h.text]
    cases e with
    | ident name => exact absurd (h.ident.mpr ⟨name, rfl⟩) (by simpa using hident)
    | _ => rfl

/-- The tree of a property is found by its key. -/
theorem IsPair.isProperty_iff {p : String × Expr} {t : Tree} (h : IsPair depth p t) {name : String}
    (hname : Identifier.isValid name = true) : t.isProperty name = true ↔ p.1 = name := by
  unfold Tree.isProperty
  rw [h.kind]
  exact decide_eq_true_iff.trans (h.key name hname)

/-- The tree of a property gives its value. -/
theorem IsPair.property? {p : String × Expr} {t : Tree} (h : IsPair depth p t) :
    ∃ v, t.property? = some (.assigned v) ∧ Shows depth p.2 v := by
  obtain ⟨v, hv, hshows⟩ := h.value
  refine ⟨v, ?_, hshows⟩
  unfold Tree.property?
  rw [h.kind, hv]
  dsimp only
  rw [Option.filter_some_pos (by rw [hshows.sound]; rfl)]
  rfl

/-- The property of a name is found where the first one of its key is. -/
theorem find?_pairs {name : String} (hname : Identifier.isValid name = true) (text : String)
    {ps : List (String × Expr)} {ts : List Tree} (h : List.Forall₂ (IsPair depth) ps ts) :
    (Tree.find? name ⟨.object, text, parts ts, false, false⟩).map Tree.Property.construction =
      (ps.lookup name).map (Expr.construction depth) := by
  induction h with
  | nil => rfl
  | @cons p t ps ts hp _ ih =>
    unfold Tree.find? at ih ⊢
    have hparts : parts (t :: ts) = (.part, t) :: parts ts := rfl
    obtain ⟨key, e⟩ := p
    by_cases hkey : key = name
    · have hfound : t.isProperty name = true := (hp.isProperty_iff hname).mpr hkey
      obtain ⟨v, hv, hshows⟩ := hp.property?
      have hlookup : List.lookup name ((key, e) :: ps) = some e := by
        rw [hkey]
        exact List.lookup_cons_self
      rw [hlookup, hparts, List.find?_cons_of_pos (by exact hfound)]
      dsimp only [Option.bind_eq_bind, Option.bind_some]
      rw [hv, Option.map_some, hshows.construction]
      rfl
    · have hother : ¬ t.isProperty name = true := fun h => hkey ((hp.isProperty_iff hname).mp h)
      have hlookup : List.lookup name ((key, e) :: ps) = ps.lookup name := by
        rw [List.lookup_cons, beq_eq_false_iff_ne.mpr (Ne.symm hkey)]
      rw [hlookup, hparts, List.find?_cons_of_neg (by exact hother)]
      exact ih

/-! ## The module -/

/-- The tree of a declaration of `config` with the value of some tree. -/
def configDeclaration (v : Tree) (start : List Char) : Tree :=
  node .lexicalDeclaration start ['\n'] (parts
    [node .declarator (start.drop 6) [';', '\n']
      [(.name, ⟨.identifier, "config", [], false, false⟩), (.value, v)]])

/-- The tree of a module that exports a declaration of `config`. -/
def configFile (v : Tree) (start : List Char) : Tree :=
  node .file start [] (parts
    [node .exportStatement start ['\n'] [(.declaration, configDeclaration v (start.drop 7))]])

/-- The declaration of a constant is read around its value. -/
theorem declaration_config {w : List Char} {v : Tree} (h : Leads w v) :
    declaration ("const config = ".toList ++ (w ++ [';', '\n'])) =
      some (configDeclaration v ("const config = ".toList ++ (w ++ [';', '\n'])), ['\n']) := by
  have hsplit : "const config = ".toList ++ (w ++ [';', '\n']) =
      "const".toList ++ ' ' :: ("config".toList ++ ' ' :: '=' :: ' ' :: (w ++ [';', '\n'])) := by
    simp
  have hconst : ∀ rest, keyword? "const" ("const".toList ++ ' ' :: rest) = some (' ' :: rest) :=
    fun rest => keyword?_append (by decide) (stops_cons rfl)
  have hskip : ∀ rest, skipBlanks (' ' :: ("config".toList ++ rest)) = "config".toList ++ rest :=
    fun rest => (skipBlanks_blank (.inl rfl)).trans
      ((opens_of_valid (by decide)).skipBlanks rest)
  have hname : ∀ rest, name ("config".toList ++ ' ' :: rest) =
      some (⟨.identifier, "config", [], false, false⟩, ' ' :: rest) :=
    fun rest => name_append (by decide) (by decide +kernel) (stops_cons rfl)
  have hequals : ∀ rest, mark? '=' (' ' :: '=' :: rest) = some rest := fun _ => rfl
  have hvalue : ∀ n, 4 * w.length + 2 ≤ n →
      value n (w ++ [';', '\n']) = some (v, [';', '\n']) :=
    fun n hn => h.reads.value _ n (closes_mark (by simp) _) hn
  have hblank : skipBlanks (' ' :: (w ++ [';', '\n'])) = w ++ [';', '\n'] :=
    (skipBlanks_blank (.inl rfl)).trans (h.opens.skipBlanks _)
  have hend : mark? ';' [';', '\n'] = some ['\n'] := rfl
  unfold declaration configDeclaration
  rw [hsplit, hconst]
  dsimp only [Option.bind_eq_bind, Option.bind_some]
  rw [hskip, hname]
  dsimp only [Option.bind_eq_bind, Option.bind_some]
  rw [hequals]
  dsimp only [Option.bind_some]
  rw [hblank, hvalue _ (by unfold depthOf; simp only [List.length_cons, List.length_append]; omega)]
  dsimp only [Option.bind_some]
  rw [hend]
  rfl

/-- A module that exports a constant is read around the value of the constant. -/
theorem file?_config {w : List Char} {v : Tree} (h : Leads w v) :
    file? ("export const config = ".toList ++ (w ++ [';', '\n'])) =
      some (configFile v ("export const config = ".toList ++ (w ++ [';', '\n']))) := by
  have hsplit : "export const config = ".toList ++ (w ++ [';', '\n']) =
      "export".toList ++ ' ' :: ("const config = ".toList ++ (w ++ [';', '\n'])) := by
    simp
  have hexport : ∀ rest, keyword? "export" ("export".toList ++ ' ' :: rest) = some (' ' :: rest) :=
    fun rest => keyword?_append (by decide) (stops_cons rfl)
  have hblanks : ∀ rest, (' ' :: ("const config = ".toList ++ rest)).dropWhile (· = ' ') =
      "const config = ".toList ++ rest := fun _ => rfl
  have hskip : ∀ rest, skipBlanks ("export".toList ++ rest) = "export".toList ++ rest :=
    (opens_of_valid (by decide)).skipBlanks
  have hstatement : statement ("export".toList ++
      ' ' :: ("const config = ".toList ++ (w ++ [';', '\n']))) = some (node .exportStatement
        ("export".toList ++ ' ' :: ("const config = ".toList ++ (w ++ [';', '\n']))) ['\n']
        [(.declaration, configDeclaration v ("const config = ".toList ++ (w ++ [';', '\n'])))],
      ['\n']) := by
    unfold statement
    rw [hexport]
    dsimp only
    rw [hblanks, declaration_config h]
    rfl
  have hend : skipBlanks ['\n'] = [] := rfl
  unfold file? configFile
  rw [hsplit, hskip]
  generalize hstart : "export".toList ++ ' ' :: ("const config = ".toList ++ (w ++ [';', '\n'])) =
    start at hstatement
  obtain ⟨n, hn⟩ := Nat.exists_eq_add_of_le' (show 1 ≤ start.length by
    rw [← hstart, List.length_append]
    exact Nat.le_add_right_of_le (by decide))
  have hstatements : statements start.length start = some [node .exportStatement start ['\n']
      [(.declaration, configDeclaration v ("const config = ".toList ++ (w ++ [';', '\n'])))]] := by
    rw [hn, statements, hstatement]
    dsimp only [Option.bind_eq_bind, Option.bind_some]
    rw [hend]
  dsimp only
  rw [hstatements, ← hstart]
  rfl

/-- The value of `config` is found in the tree of the module. -/
theorem initial?_configFile {v : Tree} (h : v.isPresent = true) (start : List Char) :
    (configFile v start).initial? Tree.configName = some v := by
  have hvalue : ∀ start, (configDeclaration v start).initialIn? Tree.configName = some v := by
    intro start
    have hfound : (configDeclaration v start).initialIn? Tree.configName =
        (some v).filter Tree.isPresent := rfl
    rw [hfound, Option.filter_some_pos h]
  have hchildren : (configFile v start).children = [(.part, node .exportStatement start ['\n']
      [(.declaration, configDeclaration v (start.drop 7))])] := rfl
  have hdeclaration : (node .exportStatement start ['\n']
      [(.declaration, configDeclaration v (start.drop 7))]).declaration? =
        some (configDeclaration v (start.drop 7)) := rfl
  unfold Tree.initial?
  rw [hchildren, List.findSome?_cons]
  dsimp only
  rw [hdeclaration, Option.bind_eq_bind, Option.bind_some, hvalue]

/-- An object literal has no wrapper. -/
theorem unwrapped_object (text : String) (children : List (Role × Tree)) :
    Tree.unwrapped ⟨.object, text, children, false, false⟩ =
      ⟨.object, text, children, false, false⟩ := by
  cases children with
  | nil => rw [Tree.unwrapped]
  | cons child rest =>
    obtain ⟨role, inner⟩ := child
    rw [Tree.unwrapped]
    exact if_neg Bool.false_ne_true

/-- The text of a module that exports an object literal as `config`. -/
theorem render_config (multiline : Bool) (ps : List (String × Expr)) :
    (Document.mk [.exportConst "config" (.object multiline ps)]).render.toList =
      "export const config = ".toList ++
        (((Expr.object multiline ps).render 0).toList ++ [';', '\n']) := by
  have hrender : (Document.mk [.exportConst "config" (.object multiline ps)]).render =
      "" ++ ("export const " ++ "config" ++ " = " ++ (Expr.object multiline ps).render 0 ++ ";"
        ++ "\n") := rfl
  rw [hrender]
  simp

/-- The token store of a printed `config` is the value of its first property of that name: a call of
it if it is a name, and otherwise the text that was printed for it. Without such a property there is
none. -/
theorem tokenStore?_of_printed (multiline : Bool) (ps : List (String × Expr))
    (h : (Expr.object multiline ps).Readable) :
    (Tree.ofText (Document.mk [.exportConst "config" (.object multiline ps)]).render).tokenStore? =
      (ps.lookup "tokenStore").map (Expr.construction (if multiline then 1 else 0)) := by
  cases h with
  | object hkeys hvalues =>
    obtain ⟨ts, hts, hleads⟩ := object_render 0 multiline ps
      fun q hq => ⟨hkeys q hq, readback (hvalues q hq) _⟩
    unfold Tree.ofText
    rw [render_config, file?_config hleads]
    dsimp only
    unfold Tree.tokenStore?
    rw [initial?_configFile rfl]
    dsimp only [Option.bind_eq_bind, Option.bind_some]
    rw [unwrapped_object, if_pos rfl]
    have hstore : Identifier.isValid Tree.tokenStoreName = true := by decide
    have hfound := find?_pairs hstore ((Expr.object multiline ps).render 0) hts
    rw [Option.map_eq_bind] at hfound
    exact hfound

/-- A config in which keys, strings and further properties look like the one that counts. -/
def lookalikes : List (String × Expr) :=
  [("token\\Store", .null), ("key \"tokenStore\"", .array [.string "tokenStore: \"x\"", .null]),
    ("tokenStore", .construct (.member (.ident "stores") "File")
      [.object false [("tokenStore", .call (.ident "other") [] [])]]),
    ("tokenStore", .ident "late")]

/-- Only the first property counts whose key is the name itself. -/
theorem tokenStore?_of_lookalikes :
    (Expr.object true lookalikes).Readable ∧
      (Tree.ofText
        (Document.mk [.exportConst "config" (.object true lookalikes)]).render).tokenStore? =
          some (.raw "new stores.File(\x7b tokenStore: other() \x7d)") := by
  have hother : (Expr.call (.ident "other") [] []).Readable :=
    .call (.ident (by decide) (by decide)) nofun
  have hinner : (Expr.object false [("tokenStore", .call (.ident "other") [] [])]).Readable :=
    .object (by decide) (List.forall_mem_singleton.mpr hother)
  have hstore : (Expr.construct (.member (.ident "stores") "File")
      [.object false [("tokenStore", .call (.ident "other") [] [])]]).Readable :=
    .construct rfl (.member (.ident (by decide) (by decide)) (by decide))
      (List.forall_mem_singleton.mpr hinner)
  have hlist : (Expr.array [.string "tokenStore: \"x\"", .null]).Readable :=
    .array (List.forall_mem_cons.mpr ⟨.string (by decide), List.forall_mem_singleton.mpr .null⟩)
  have hall : (Expr.object true lookalikes).Readable := by
    refine .object (by decide) ?_
    unfold lookalikes
    simp only [List.forall_mem_cons]
    exact ⟨.null, hlist, hstore, .ident (by decide) (by decide), nofun⟩
  refine ⟨hall, ?_⟩
  rw [tokenStore?_of_printed true lookalikes hall]
  rfl

end Plain

end TypedLayouts.TypeScript
