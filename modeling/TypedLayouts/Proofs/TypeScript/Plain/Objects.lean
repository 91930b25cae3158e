import TypedLayouts.Proofs.TypeScript.Plain.Values

/-!
# Object literals of plain files

The properties of an object literal stand on one line with commas between them, or on a line each
with a comma behind it. Either way each of them is read as a pair of its key and its value, in the
same order. With object literals, every expression is covered.
-/

namespace TypedLayouts.TypeScript.Plain

open ReadBack (Stops)

variable {depth : Nat}

/-- The tree of a property: it has the key and a tree of the value. -/
structure IsPair (depth : Nat) (p : String × Expr) (t : Tree) : Prop where
  /-- It is a pair. -/
  kind : t.kind = .pair
  /-- It has no mistake. -/
  sound : t.hasError = false
  /-- For a name, its key is read as the name exactly if it is the name. -/
  key : ∀ name, Identifier.isValid name = true →
    ((t.child? .key).bind Tree.keyName? = some name ↔ p.1 = name)
  /-- Its value is that of the property. -/
  value : ∃ v, t.child? .value = some v ∧ Shows depth p.2 v

theorem sound_of_isPair {ps : List (String × Expr)} {ts : List Tree}
    (h : List.Forall₂ (IsPair depth) ps ts) : ∀ t ∈ ts, t.hasError = false := by
  induction h with
  | nil => exact nofun
  | cons hp _ ih => exact List.forall_mem_cons.mpr ⟨hp.sound, ih⟩

theorem opens_key (k : String) : Opens (renderKey k).toList := by
  obtain ⟨c, cs, hk, hc⟩ := ReadBack.key_opens k
  exact ⟨c, cs, hk, hc.imp_right fun hstart => .inr (.inr hstart)⟩

theorem opens_property (p : String × Expr) :
    Opens (renderKey p.1 ++ ": " ++ p.2.render depth).toList := by
  rw [String.toList_append, String.toList_append, List.append_assoc]
  exact (opens_key p.1).append _

theorem opens_inline (p : String × Expr) (ps : List (String × Expr)) :
    Opens (", ".intercalate (Expr.renderInline depth (p :: ps))).toList := by
  have hfirst : Expr.renderInline depth (p :: ps) =
      (renderKey p.1 ++ ": " ++ p.2.render depth) :: Expr.renderInline depth ps := rfl
  rw [hfirst]
  exact opens_intercalate (opens_property p) ", " _

/-- One property of an object literal, up to a comma or the brace behind the last one. -/
theorem members_property {p : String × Expr} (hkey : '\x00' ∉ p.1.toList)
    (h : Readback depth p.2) :
    ∃ t, IsPair depth p t ∧ ∀ cs rest n,
      skipBlanks cs = (renderKey p.1 ++ ": " ++ p.2.render depth).toList ++ rest → Closes rest →
        4 * (renderKey p.1 ++ ": " ++ p.2.render depth).toList.length ≤ n →
          members (n + 1) cs =
            match mark? ',' rest with
            | some more => (members n more).bind fun (ts, stop) => some (t :: ts, stop)
            | none => (mark? '\x7d' rest).bind fun stop => some ([t], stop) := by
  obtain ⟨v, hleads, hshows⟩ := h
  obtain ⟨k, hk, hname, hread⟩ := key_render p.1 hkey
  refine ⟨⟨.pair, renderKey p.1 ++ ": " ++ p.2.render depth, [(.key, k), (.value, v)], false,
    false⟩, ⟨rfl, ?sound, hname, v, rfl, hshows⟩, fun cs rest n hcs hrest hn => ?_⟩
  case sound =>
    exact hasError_mk nofun
      (List.forall_mem_cons.mpr ⟨hk, List.forall_mem_singleton.mpr hshows.sound⟩)
  have hnode := node_of_text .pair (renderKey p.1 ++ ": " ++ p.2.render depth) rest
    [(.key, k), (.value, v)]
  have hsplit : (renderKey p.1 ++ ": " ++ p.2.render depth).toList ++ rest =
      (renderKey p.1).toList ++ (':' :: ' ' :: ((p.2.render depth).toList ++ rest)) := by
    simp
  have hcolon : mark? ':' (':' :: ' ' :: ((p.2.render depth).toList ++ rest)) =
      some (' ' :: ((p.2.render depth).toList ++ rest)) := rfl
  have hblank : skipBlanks (' ' :: ((p.2.render depth).toList ++ rest)) =
      (p.2.render depth).toList ++ rest :=
    (skipBlanks_blank (.inl rfl)).trans (hleads.opens.skipBlanks rest)
  rw [String.toList_append, String.toList_append, List.length_append, List.length_append] at hn
  have hspace : ": ".toList.length = 2 := rfl
  rw [hsplit] at hcs hnode
  have hbrace : mark? '\x7d' cs = none := (opens_key p.1).mark?_eq_none (by simp) hcs
  rw [← hnode, members, hbrace, hcs]
  dsimp only
  rw [hread _ (stops_cons rfl)]
  dsimp only [Option.bind_eq_bind, Option.bind_some]
  rw [hcolon]
  dsimp only [Option.bind_some]
  rw [hblank, hleads.reads.value rest n hrest (by omega)]
  rfl

/-- Properties on one line are read up to the brace behind them. -/
theorem members_inline (p : String × Expr) (ps : List (String × Expr))
    (h : ∀ q ∈ p :: ps, '\x00' ∉ q.1.toList ∧ Readback depth q.2) :
    ∃ ts, List.Forall₂ (IsPair depth) (p :: ps) ts ∧
      ∀ cs rest n, skipBlanks cs =
          (", ".intercalate (Expr.renderInline depth (p :: ps))).toList ++ ' ' :: '\x7d' :: rest →
        4 * (", ".intercalate (Expr.renderInline depth (p :: ps))).toList.length + 1 ≤ n →
          members n cs = some (ts, rest) := by
  have hclose : ∀ rest, Closes (' ' :: '\x7d' :: rest) :=
    fun rest => ⟨stops_cons rfl, '\x7d', rest, rfl, by decide, by decide⟩
  have hbrace : ∀ rest, mark? ',' (' ' :: '\x7d' :: rest) = none ∧
      mark? '\x7d' (' ' :: '\x7d' :: rest) = some rest := fun _ => ⟨rfl, rfl⟩
  have hcomma : ∀ more, mark? ',' (',' :: ' ' :: more) = some (' ' :: more) := fun _ => rfl
  have hblank : ∀ more, skipBlanks (' ' :: more) = skipBlanks more :=
    fun _ => skipBlanks_blank (.inl rfl)
  -- Only behind the last property is there no comma.
  induction ps generalizing p with
  | nil =>
    obtain ⟨t, ht, hread⟩ := members_property (h p List.mem_cons_self).1 (h p List.mem_cons_self).2
    refine ⟨[t], .cons ht .nil, fun cs rest n hcs hn => ?_⟩
    have hone : Expr.renderInline depth [p] = [renderKey p.1 ++ ": " ++ p.2.render depth] := rfl
    rw [hone, String.intercalate_singleton] at hcs hn
    obtain ⟨k, rfl⟩ := Nat.exists_eq_add_of_le' (show 1 ≤ n by omega)
    rw [hread cs _ k hcs (hclose rest) (by omega), (hbrace rest).1, (hbrace rest).2]
    rfl
  | cons p' ps ih =>
    obtain ⟨t, ht, hread⟩ := members_property (h p List.mem_cons_self).1 (h p List.mem_cons_self).2
    obtain ⟨ts, hts, hmore⟩ := ih p' fun q hq => h q (List.mem_cons_of_mem p hq)
    refine ⟨t :: ts, .cons ht hts, fun cs rest n hcs hn => ?_⟩
    have hfirst : Expr.renderInline depth (p :: p' :: ps) =
        (renderKey p.1 ++ ": " ++ p.2.render depth) :: Expr.renderInline depth (p' :: ps) := rfl
    have hnext : Expr.renderInline depth (p' :: ps) =
        (renderKey p'.1 ++ ": " ++ p'.2.render depth) :: Expr.renderInline depth ps := rfl
    have hmark : ", ".toList = [',', ' '] := rfl
    rw [hfirst, hnext, ReadBack.toList_intercalate_cons, ← hnext, hmark] at hcs hn
    rw [List.append_assoc, List.append_assoc] at hcs
    rw [List.length_append, List.length_append, List.length_cons, List.length_singleton] at hn
    obtain ⟨k, rfl⟩ := Nat.exists_eq_add_of_le' (show 1 ≤ n by omega)
    rw [hread cs _ k hcs (closes_mark (by simp) _) (by omega)]
    simp only [List.cons_append, List.nil_append, hcomma]
    rw [hmore _ rest k ((hblank _).trans ((opens_inline p' ps).skipBlanks _)) (by omega)]
    rfl

/-- Properties on a line each are read up to the brace behind them. -/
theorem members_lines (ps : List (String × Expr))
    (h : ∀ q ∈ ps, '\x00' ∉ q.1.toList ∧ Readback depth q.2) :
    ∃ ts, List.Forall₂ (IsPair depth) ps ts ∧
      ∀ cs indent rest n, skipBlanks cs = skipBlanks ((Expr.renderLines depth ps).toList ++
          ((indentation indent).toList ++ '\x7d' :: rest)) →
        4 * (Expr.renderLines depth ps).toList.length + 1 ≤ n → members n cs = some (ts, rest) := by
  induction ps with
  | nil =>
    refine ⟨[], .nil, fun cs indent rest n hcs hn => ?_⟩
    obtain ⟨k, rfl⟩ := Nat.exists_eq_add_of_le' (show 1 ≤ n by omega)
    have hnone : (Expr.renderLines depth []).toList = [] := rfl
    rw [hnone, List.nil_append, skipBlanks_indentation,
      skipBlanks_cons (by decide) (by decide)] at hcs
    rw [members, mark?_of_skipBlanks hcs]
  | cons p ps ih =>
    obtain ⟨t, ht, hread⟩ := members_property (h p List.mem_cons_self).1 (h p List.mem_cons_self).2
    obtain ⟨ts, hts, hmore⟩ := ih fun q hq => h q (List.mem_cons_of_mem p hq)
    refine ⟨t :: ts, .cons ht hts, fun cs indent rest n hcs hn => ?_⟩
    have hline : (Expr.renderLines depth (p :: ps)).toList =
        (indentation depth).toList ++ ((renderKey p.1 ++ ": " ++ p.2.render depth).toList ++
          (',' :: '\n' :: (Expr.renderLines depth ps).toList)) := by
      have hstep : Expr.renderLines depth (p :: ps) = indentation depth ++ renderKey p.1 ++ ": "
          ++ p.2.render depth ++ ",\n" ++ Expr.renderLines depth ps := rfl
      rw [hstep]
      simp
    have hcomma : ∀ more, mark? ',' (',' :: '\n' :: more) = some ('\n' :: more) := fun _ => rfl
    have hend : ∀ more, skipBlanks ('\n' :: more) = skipBlanks more :=
      fun _ => skipBlanks_blank (.inr rfl)
    rw [hline] at hcs hn
    simp only [List.length_append, List.length_cons] at hn
    simp only [List.append_assoc, List.cons_append] at hcs
    rw [skipBlanks_indentation, (opens_property p).skipBlanks] at hcs
    obtain ⟨k, rfl⟩ := Nat.exists_eq_add_of_le' (show 1 ≤ n by omega)
    rw [hread cs _ k hcs (closes_mark (by simp) _) (by omega), hcomma]
    dsimp only
    rw [hmore _ indent rest k (hend _) (by omega)]
    rfl

/-- The depth of the properties of an object literal. -/
def innerDepth (multiline : Bool) (depth : Nat) : Nat :=
  if multiline then depth + 1 else depth

/-- The text behind the first brace of an object literal is read to its end. -/
theorem members_object (multiline : Bool) (ps : List (String × Expr))
    (h : ∀ q ∈ ps, '\x00' ∉ q.1.toList ∧ Readback (innerDepth multiline depth) q.2) :
    ∃ inner ts, ((Expr.object multiline ps).render depth).toList = '\x7b' :: inner ∧
      List.Forall₂ (IsPair (innerDepth multiline depth)) ps ts ∧
        ∀ rest n, 4 * inner.length ≤ n → members n (inner ++ rest) = some (ts, rest) := by
  cases ps with
  | nil =>
    have hrender : (Expr.object multiline []).render depth = "\x7b\x7d" := by
      cases multiline <;> rfl
    refine ⟨['\x7d'], [], by rw [hrender]; rfl, .nil, fun rest n hn => ?_⟩
    obtain ⟨k, rfl⟩ := Nat.exists_eq_add_of_le' (show 1 ≤ n from le_trans (by decide) hn)
    have hbrace : mark? '\x7d' (['\x7d'] ++ rest) = some rest := rfl
    rw [members, hbrace]
  | cons p ps =>
    cases multiline with
    | true =>
      obtain ⟨ts, hts, hread⟩ := members_lines (p :: ps) h
      have hrender : ((Expr.object true (p :: ps)).render depth).toList =
          '\x7b' :: '\n' :: ((Expr.renderLines (depth + 1) (p :: ps)).toList ++
            ((indentation depth).toList ++ ['\x7d'])) := by
        have hstep : (Expr.object true (p :: ps)).render depth = "\x7b\n" ++
            Expr.renderLines (depth + 1) (p :: ps) ++ indentation depth ++ "\x7d" := rfl
        rw [hstep]
        simp
      refine ⟨_, ts, hrender, hts, fun rest n hn => hread _ depth rest n ?_ ?_⟩
      · rw [List.cons_append, skipBlanks_blank (.inr rfl)]
        simp [innerDepth]
      · simp only [List.length_cons, List.length_append] at hn
        unfold innerDepth
        rw [if_pos rfl]
        omega
    | false =>
      obtain ⟨ts, hts, hread⟩ := members_inline p ps h
      have hrender : ((Expr.object false (p :: ps)).render depth).toList =
          '\x7b' :: ' ' :: ((", ".intercalate (Expr.renderInline depth (p :: ps))).toList ++
            [' ', '\x7d']) := by
        have hstep : (Expr.object false (p :: ps)).render depth = "\x7b " ++
            ", ".intercalate (Expr.renderInline depth (p :: ps)) ++ " \x7d" := rfl
        rw [hstep]
        simp
      refine ⟨_, ts, hrender, hts, fun rest n hn => hread _ rest n ?_ ?_⟩
      · rw [List.cons_append, skipBlanks_blank (.inl rfl), List.append_assoc,
          (opens_inline p ps).skipBlanks]
        rfl
      · simp only [List.length_cons, List.length_append] at hn
        unfold innerDepth
        rw [if_neg Bool.false_ne_true]
        omega

/-- The text of an object literal leads to a tree with the trees of its properties. -/
theorem object_render (depth : Nat) (multiline : Bool) (ps : List (String × Expr))
    (h : ∀ q ∈ ps, '\x00' ∉ q.1.toList ∧ Readback (innerDepth multiline depth) q.2) :
    ∃ ts, List.Forall₂ (IsPair (innerDepth multiline depth)) ps ts ∧
      Leads ((Expr.object multiline ps).render depth).toList
        ⟨.object, (Expr.object multiline ps).render depth, parts ts, false, false⟩ := by
  obtain ⟨inner, ts, hrender, hts, hread⟩ := members_object multiline ps h
  refine ⟨ts, hts,
    leads_of_operand ⟨_, _, hrender, .inr (.inr (.inl rfl))⟩ fun rest n hrest hn => ?_⟩
  have hnode := node_of_text .object ((Expr.object multiline ps).render depth) rest (parts ts)
  rw [hrender, List.length_cons] at hn
  obtain ⟨k, rfl⟩ := Nat.exists_eq_add_of_le' (show 1 ≤ n by omega)
  rw [← hnode, hrender, List.cons_append, operand, hread rest k (by omega)]
  rfl

/-- The text of every expression that is plain leads to a tree of it. -/
theorem readback {e : Expr} (h : e.Readable) (depth : Nat) : Readback depth e := by
  induction h generalizing depth with
  | null => exact readback_null
  | string h => exact readback_string h
  | ident hvalid hfree => exact readback_ident hvalid fun hmem => hfree (keywords_subset hmem)
  | member _ hproperty ih => exact readback_member (ih depth) hproperty
  | call _ _ ih iha => exact readback_call (ih depth) fun a ha => iha a ha depth
  | construct hpath h _ _ iha => exact readback_construct hpath h fun a ha => iha a ha depth
  | array _ ih => exact readback_array fun e he => ih e he depth
  | object hkeys _ ih =>
    obtain ⟨ts, hts, hleads⟩ := object_render depth _ _ fun q hq => ⟨hkeys q hq, ih q hq _⟩
    exact ⟨_, hleads, .of_children nofun (by decide) (hasError_parts (sound_of_isPair hts))⟩

end TypedLayouts.TypeScript.Plain
