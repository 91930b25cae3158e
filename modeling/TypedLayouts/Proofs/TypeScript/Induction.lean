import TypedLayouts.TypeScript.Syntax

/-!
# Induction over types and expressions

Types and expressions hold lists of their like. These are the induction principles that give the
hypothesis for every member of such a list.
-/

namespace TypedLayouts.TypeScript

/-- Induction over types. -/
@[elab_as_elim]
theorem TypeExpr.memInduction {P : TypeExpr → Prop} (string : P .string) (number : P .number)
    (null : P .null) (any : P .any) (literal : ∀ value, P (.literal value))
    (union : ∀ members, (∀ t ∈ members, P t) → P (.union members))
    (array : ∀ item, P item → P (.array item))
    (reference : ∀ name arguments, (∀ t ∈ arguments, P t) → P (.reference name arguments))
    (typeOf : ∀ name, P (.typeOf name))
    (object : ∀ members : List (String × TypeExpr), (∀ m ∈ members, P m.2) → P (.object members))
    (t : TypeExpr) : P t :=
  @TypeExpr.rec P (fun ts => ∀ t ∈ ts, P t) (fun ms => ∀ m ∈ ms, P m.2) (fun m => P m.2)
    string number null any literal union array reference typeOf object
    (fun _ h => nomatch h)
    (fun _ _ hfirst hrest => List.forall_mem_cons.mpr ⟨hfirst, hrest⟩)
    (fun _ h => nomatch h)
    (fun _ _ hfirst hrest => List.forall_mem_cons.mpr ⟨hfirst, hrest⟩)
    (fun _ _ h => h) t

/-- Induction over expressions. -/
@[elab_as_elim]
theorem Expr.memInduction {P : Expr → Prop} (null : P .null) (string : ∀ value, P (.string value))
    (ident : ∀ name, P (.ident name))
    (member : ∀ target property, P target → P (.member target property))
    (call : ∀ callee types arguments, P callee → (∀ e ∈ arguments, P e) →
      P (.call callee types arguments))
    (construct : ∀ callee arguments, P callee → (∀ e ∈ arguments, P e) →
      P (.construct callee arguments))
    (not : ∀ operand, P operand → P (.not operand))
    (array : ∀ items, (∀ e ∈ items, P e) → P (.array items))
    (object : ∀ multiline properties, (∀ p ∈ (properties : List (String × Expr)), P p.2) →
      P (.object multiline properties))
    (raw : ∀ text, P (.raw text)) (e : Expr) : P e :=
  @Expr.rec P (fun es => ∀ e ∈ es, P e) (fun ps => ∀ p ∈ ps, P p.2) (fun p => P p.2)
    null string ident member call construct not array object raw
    (fun _ h => nomatch h)
    (fun _ _ hfirst hrest => List.forall_mem_cons.mpr ⟨hfirst, hrest⟩)
    (fun _ h => nomatch h)
    (fun _ _ hfirst hrest => List.forall_mem_cons.mpr ⟨hfirst, hrest⟩)
    (fun _ _ h => h) e

end TypedLayouts.TypeScript
