import TypedLayouts.Module.ClientModule
import TypedLayouts.Module.Index
import TypedLayouts.Module.SchemaModule
import TypedLayouts.TypeScript.Printer

/-!
# How generated modules open

Schema modules open with a type or the import of one library, client modules with the import of
another, and the index, where it exports anything, with an export list. So modules of two of these
kinds never have the same text.
-/

namespace TypedLayouts

open TypedLayouts.Module (Blueprint NameSet indexModule)

namespace TypeScript

/-- Texts that open differently are different. -/
theorem append_ne_append {a b : String} (h : ¬ a.toList <+: b.toList) (h' : ¬ b.toList <+: a.toList)
    (r r' : String) : a ++ r ≠ b ++ r' := by
  intro he
  have hlist := congrArg String.toList he
  rw [String.toList_append, String.toList_append] at hlist
  have ha : a.toList <+: b.toList ++ r'.toList := hlist ▸ List.prefix_append _ _
  exact (List.prefix_or_prefix_of_prefix ha (List.prefix_append _ _)).elim h h'

namespace Document

/-- Files are the same when their modules print alike. -/
theorem render_eq_of_renderFile_eq {doc doc' : Document} (h : doc.renderFile = doc'.renderFile) :
    doc.render = doc'.render :=
  (String.append_right_inj banner).mp h

/-- The text of a module opens with a given text. -/
def Opens (doc : Document) (opening : String) : Prop :=
  ∃ rest, doc.render = opening ++ rest

/-- A module opens as its first statement does. -/
theorem opens_cons {s : Statement} {opening : String} (h : ∃ more, s.render = opening ++ more)
    (rest : List Statement) : (Document.mk (s :: rest)).Opens opening := by
  obtain ⟨more, h⟩ := h
  refine ⟨more ++ ("\n" ++ (Document.mk rest).render), ?_⟩
  rw [render_cons, h, String.append_assoc]

theorem opens_import (names : List String) (source : String) (rest : List Statement) :
    (Document.mk (.importNames names source :: rest)).Opens "import \x7b " := by
  refine opens_cons ⟨String.intercalate ", " names ++ (" \x7d from " ++ (quote source ++ ";")), ?_⟩
    rest
  unfold Statement.render
  rw [String.append_assoc, String.append_assoc, String.append_assoc]

theorem opens_importName (name source : String) (rest : List Statement) :
    (Document.mk (.importNames [name] source :: rest)).Opens
      ("import \x7b " ++ name ++ " \x7d from ") := by
  refine opens_cons ⟨quote source ++ ";", ?_⟩ rest
  have hname : String.intercalate ", " [name] = name := by simp
  unfold Statement.render
  rw [hname, String.append_assoc]

theorem opens_exportType (name : String) (type : TypeExpr) (rest : List Statement) :
    (Document.mk (.exportType name type :: rest)).Opens "export type " := by
  refine opens_cons ⟨name ++ (" = " ++ (type.render 0 ++ ";")), ?_⟩ rest
  unfold Statement.render
  rw [String.append_assoc, String.append_assoc, String.append_assoc]

theorem opens_exportFrom (specifiers : List ExportSpecifier) (source : String)
    (rest : List Statement) :
    (Document.mk (.exportFrom specifiers source :: rest)).Opens "export \x7b " := by
  refine opens_cons ⟨String.intercalate ", " (specifiers.map ExportSpecifier.render)
    ++ (" \x7d from " ++ (quote source ++ ";")), ?_⟩ rest
  unfold Statement.render
  rw [String.append_assoc, String.append_assoc, String.append_assoc]

/-- Modules that open differently have different texts. -/
theorem renderFile_ne_of_opens {doc doc' : Document} {opening opening' : String}
    (h : doc.Opens opening) (h' : doc'.Opens opening') (hne : ¬ opening.toList <+: opening'.toList)
    (hne' : ¬ opening'.toList <+: opening.toList) : doc.renderFile ≠ doc'.renderFile := by
  intro he
  have hrender := render_eq_of_renderFile_eq he
  obtain ⟨rest, hrest⟩ := h
  obtain ⟨rest', hrest'⟩ := h'
  rw [hrest, hrest'] at hrender
  exact append_ne_append hne hne' rest rest' hrender

end Document

end TypeScript

namespace Module

open TypeScript (Document)

/-- An index is empty or opens with an export list. -/
theorem indexModule_opens (names : NameSet) :
    (indexModule names).render = "" ∨ (indexModule names).Opens "export \x7b " := by
  unfold indexModule
  cases names.keys with
  | nil => exact .inl rfl
  | cons name rest => exact .inr (Document.opens_exportFrom _ _ _)

/-- A module that opens like no index has another text than every index. -/
theorem renderFile_ne_index {doc : Document} {opening : String} (h : doc.Opens opening)
    (hne : opening ≠ "") (h₁ : ¬ opening.toList <+: "export \x7b ".toList)
    (h₂ : ¬ "export \x7b ".toList <+: opening.toList) (names : NameSet) :
    doc.renderFile ≠ (indexModule names).renderFile := by
  rcases indexModule_opens names with hempty | hindex
  · intro he
    have hrender := Document.render_eq_of_renderFile_eq he
    obtain ⟨rest, hrest⟩ := h
    rw [hrest, hempty] at hrender
    exact hne (String.append_eq_empty_iff.mp hrender).1
  · exact Document.renderFile_ne_of_opens h hindex h₁ h₂

namespace Blueprint

variable (b : Blueprint)

/-- No schema module has the text of an index. -/
theorem schemaModule_ne_index (names : NameSet) :
    b.schemaModule.renderFile ≠ (indexModule names).renderFile := by
  unfold schemaModule
  cases b.backend with
  | validator =>
    exact renderFile_ne_index (Document.opens_import _ _ _) (by decide) (by decide) (by decide)
      names
  | typesOnly =>
    exact renderFile_ne_index (Document.opens_exportType _ _ _) (by decide) (by decide)
      (by decide) names

/-- No client module has the text of an index. -/
theorem clientModule_ne_index (names : NameSet) :
    b.clientModule.renderFile ≠ (indexModule names).renderFile :=
  renderFile_ne_index (Document.opens_import _ _ _) (by decide) (by decide) (by decide) names

/-- No schema module has the text of a client module, of whatever layout. -/
theorem schemaModule_ne_clientModule (b' : Blueprint) :
    b.schemaModule.renderFile ≠ b'.clientModule.renderFile := by
  have hclient : b'.clientModule.Opens ("import \x7b " ++ "DataApi" ++ " \x7d from ") :=
    Document.opens_importName _ _ _
  unfold schemaModule
  cases b.backend with
  | validator =>
    have hschema : b.validatorModule.Opens ("import \x7b " ++ "z" ++ " \x7d from ") :=
      Document.opens_importName _ _ _
    exact Document.renderFile_ne_of_opens hschema hclient (by decide) (by decide)
  | typesOnly =>
    have hschema : b.typesModule.Opens "export type " := Document.opens_exportType _ _ _
    exact Document.renderFile_ne_of_opens hschema hclient (by decide) (by decide)

end Blueprint

end Module

end TypedLayouts
