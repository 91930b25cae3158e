import TypedLayouts.TypeScript.Printer

/-!
# Dotted texts

The path of a dotted text is a name with properties below it. It is printed as the text that it was
cut from, whatever stands between the dots. Its last property is what stands behind the last dot.
-/

namespace TypedLayouts.TypeScript.Expr

/-- An expression with a property below it for each segment. -/
def properties (e : Expr) (segments : List (List Char)) : Expr :=
  segments.foldl (fun object segment => .member object (String.ofList segment)) e

theorem path_cons {dotted : String} {first : List Char} {rest : List (List Char)}
    (h : dotted.toList.splitOn '.' = first :: rest) :
    path dotted = (Expr.ident (String.ofList first)).properties rest := by
  unfold path
  rw [h]
  rfl

/-- A text without dots is a name. -/
theorem path_of_not_mem {name : String} (h : '.' ∉ name.toList) : path name = .ident name := by
  rw [path_cons (List.splitOn_eq_singleton h), String.ofList_toList]
  rfl

/-- A path goes on below each of its dots. -/
theorem path_append_dot (front behind : String) :
    path (front ++ "." ++ behind) = (path front).properties (behind.toList.splitOn '.') := by
  obtain ⟨first, rest, hfront⟩ := List.exists_cons_of_ne_nil
    (List.splitOn_ne_nil '.' front.toList)
  have hdot : (front ++ "." ++ behind).toList = front.toList ++ '.' :: behind.toList := by
    rw [String.toList_append, String.toList_append, List.append_assoc]
    rfl
  have hwhole : (front ++ "." ++ behind).toList.splitOn '.' =
      first :: (rest ++ behind.toList.splitOn '.') := by
    rw [hdot, List.splitOn_append_cons_self, hfront]
    rfl
  rw [path_cons hwhole, path_cons hfront]
  unfold properties
  rw [List.foldl_append]

theorem render_properties (depth : Nat) (segments : List (List Char)) (e : Expr) :
    ((e.properties segments).render depth).toList =
      ['.'].intercalate ((e.render depth).toList :: segments) := by
  induction segments generalizing e with
  | nil => simp [properties]
  | cons segment segments ih =>
    have hrender : ((Expr.member e (String.ofList segment)).render depth).toList =
        (e.render depth).toList ++ ['.'] ++ segment := by
      simp [render]
    have hrest := ih (.member e (String.ofList segment))
    rw [hrender] at hrest
    refine hrest.trans ?_
    cases segments with
    | nil => simp [List.intercalate_cons_cons]
    | cons next segments => simp only [List.intercalate_cons_cons, List.append_assoc]

/-- A path is printed as the text that it was cut from. -/
theorem render_path (depth : Nat) (dotted : String) : (path dotted).render depth = dotted := by
  obtain ⟨first, rest, hsplit⟩ := List.exists_cons_of_ne_nil
    (List.splitOn_ne_nil '.' dotted.toList)
  have hname : ((Expr.ident (String.ofList first)).render depth).toList = first := by
    simp [render]
  rw [path_cons hsplit, ← String.toList_inj, render_properties, hname, ← hsplit,
    List.intercalate_splitOn]

/-- A path is printed as it was written. A text without dots is a name alone, and one more dot makes
the text behind it a property of the path in front, also if this text is empty. -/
theorem path_as_written :
    (∀ depth dotted, (path dotted).render depth = dotted) ∧
    ∀ name : String, '.' ∉ name.toList →
      path name = .ident name ∧
      ∀ front, path (front ++ "." ++ name) = .member (path front) name := by
  refine ⟨render_path, fun name hname => ⟨path_of_not_mem hname, fun front => ?_⟩⟩
  rw [path_append_dot, List.splitOn_eq_singleton hname]
  simp only [properties, List.foldl_cons, List.foldl_nil, String.ofList_toList]

/-- Dots at the ends and in a row stand around empty names. -/
theorem path_of_outer_dots :
    '.' ∉ "".toList ∧
      path "..env." = .member (.member (.member (.ident "") "") "env") "" ∧
      (path "..env.").render 0 = "..env." := by
  have hempty : '.' ∉ "".toList := by decide
  have henv : '.' ∉ "env".toList := by decide
  have hpath : path ((("" ++ "." ++ "") ++ "." ++ "env") ++ "." ++ "") =
      .member (.member (.member (.ident "") "") "env") "" := by
    rw [(path_as_written.2 "" hempty).2, (path_as_written.2 "env" henv).2,
      (path_as_written.2 "" hempty).2, (path_as_written.2 "" hempty).1]
  exact ⟨hempty, hpath, path_as_written.1 0 "..env."⟩

end TypedLayouts.TypeScript.Expr
