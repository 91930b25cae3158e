import TypedLayouts.Proofs.Module.Guards

/-!
# Token stores in client modules

A token store that is taken over verbatim stands in the text of a standard client module as it is,
however many lines it has: nothing in front of it and nothing behind it depends on it.
-/

namespace TypedLayouts

namespace TypeScript

theorem Expr.renderLines_append (depth : Nat) (front rest : List (String × Expr)) :
    renderLines depth (front ++ rest) = renderLines depth front ++ renderLines depth rest := by
  induction front with
  | nil => simp [renderLines]
  | cons property front ih =>
    obtain ⟨key, e⟩ := property
    simp only [List.cons_append, renderLines, ih, String.append_assoc]

/-- In an object literal of several lines, the value of the last property stands between two texts
that do not depend on it. -/
theorem Expr.render_object_concat (depth : Nat) (properties : List (String × Expr)) (key : String)
    (e : Expr) :
    (Expr.object true (properties ++ [(key, e)])).render depth =
      "\x7b\n" ++ renderLines (depth + 1) properties ++ indentation (depth + 1) ++ renderKey key
        ++ ": " ++ e.render (depth + 1) ++ (",\n" ++ indentation depth ++ "\x7d") := by
  simp [render, renderLines_append, renderLines, String.append_assoc]

end TypeScript

namespace Module

open TypeScript

namespace Blueprint

/-- The blueprint with a standard client that has a token store. -/
def withTokenStore (b : Blueprint) (store : Expr) : Blueprint :=
  { b with target := .standard (some store) }

/-- The options of a client in front of its token store. -/
def ownOptions (b : Blueprint) : List (String × Expr) :=
  [("auth", .object false b.envNames.credentials.options),
    ("db", envVariable b.envNames.database), ("server", envVariable b.envNames.server),
    ("layout", .string b.layout)]

theorem clientOptions_withTokenStore (b : Blueprint) (store : Expr) :
    (b.withTokenStore store).clientOptions = b.ownOptions ++ [("tokenStore", store)] :=
  rfl

/-- The call that constructs a client has the token store between two texts. -/
theorem render_constructClient_raw (b : Blueprint) :
    ∃ front back, ∀ text,
      (b.withTokenStore (.raw text)).constructClient.render 0 = front ++ text ++ back := by
  let front := "\x7b\n" ++ Expr.renderLines 1 b.ownOptions ++ indentation 1
    ++ renderKey "tokenStore" ++ ": "
  let back := ",\n" ++ indentation 0 ++ "\x7d"
  have hoptions : ∀ text,
      (Expr.object true (b.withTokenStore (.raw text)).clientOptions).render 0 =
        front ++ text ++ back := by
    intro text
    rw [clientOptions_withTokenStore, Expr.render_object_concat]
    rfl
  let callee := "DataApi" ++ TypeExpr.renderArguments 0 b.clientTypes ++ "("
  by_cases hv : b.backend = .validator
  · refine ⟨callee ++ front,
      back ++ ", " ++ (Expr.object true b.clientValidators).render 0 ++ ")", fun text => ?_⟩
    have hcall : (b.withTokenStore (.raw text)).constructClient.render 0 =
        callee ++ ((Expr.object true (b.withTokenStore (.raw text)).clientOptions).render 0 ++ ", "
          ++ (Expr.object true b.clientValidators).render 0) ++ ")" := by
      unfold constructClient
      rw [if_pos (show (b.withTokenStore (.raw text)).backend = .validator from hv)]
      rfl
    rw [hcall, hoptions]
    simp only [String.append_assoc]
  · refine ⟨callee ++ front, back ++ ")", fun text => ?_⟩
    have hcall : (b.withTokenStore (.raw text)).constructClient.render 0 =
        callee ++ (Expr.object true (b.withTokenStore (.raw text)).clientOptions).render 0
          ++ ")" := by
      unfold constructClient
      rw [if_neg (show (b.withTokenStore (.raw text)).backend ≠ .validator from hv)]
      rfl
    rw [hcall, hoptions]
    simp only [String.append_assoc]

/-- The text of a client module has the token store between two texts. -/
theorem renderFile_clientModule_raw (b : Blueprint) :
    ∃ front back, ∀ text,
      (b.withTokenStore (.raw text)).clientModule.renderFile = front ++ text ++ back := by
  obtain ⟨front, back, hclient⟩ := b.render_constructClient_raw
  refine ⟨Document.banner ++ (Document.mk (b.withTokenStore .null).front).render
      ++ "export const client = " ++ front, back ++ ";" ++ "\n", fun text => ?_⟩
  have hbody : (b.withTokenStore (.raw text)).clientModule =
      ⟨(b.withTokenStore .null).front
        ++ [.exportConst "client" (b.withTokenStore (.raw text)).constructClient]⟩ :=
    congrArg Document.mk (clientModule_standard rfl)
  have hstatement : (Document.mk [.exportConst "client"
      (b.withTokenStore (.raw text)).constructClient]).render =
        "export const client = " ++ (front ++ text ++ back) ++ ";" ++ "\n" := by
    have hnil : (Document.mk []).render = "" := rfl
    rw [← hclient, Document.render_cons, hnil, String.append_empty]
    rfl
  rw [hbody, Document.renderFile, Document.render_append, hstatement]
  simp only [String.append_assoc]

end Blueprint

end Module

end TypedLayouts
