import TypedLayouts.Module.ClientModule
import TypedLayouts.Proofs.Module.Exports
import TypedLayouts.Proofs.Module.SchemaScope

/-!
# References in generated modules

The schema module and the client module of a blueprint are built by different functions, which
decide each for itself when there is a validator and when there is a table of portals. They fit:
the schema module is closed, the client module uses nothing that it does not import, and what it
imports from the schema module is exported there.
-/

namespace TypedLayouts.Module

open TypeScript Layout

namespace Blueprint

variable (b : Blueprint)

/-! ## The client module imports what it uses -/

/-- The key of the property that holds the token store. -/
def tokenStoreKey : String := "tokenStore"

/-- The names that every program knows and that client modules use. -/
def globals : List String := ["process", "Error"]

/-- The name of the client constructor is imported. -/
theorem constructor_mem_imports : "DataApi" ∈ b.clientModule.imports :=
  List.mem_append_left _ (List.mem_cons_self)

/-- What is imported from the schema module is imported. -/
theorem schemaImports_subset_imports : b.schemaImports ⊆ b.clientModule.imports :=
  fun _ h => List.mem_append_right _ (List.mem_append_left _ h)

/-- Reading an environment variable uses a global name. -/
theorem names_envVariable (name : String) (hidden : List String) :
    (envVariable name).names hidden = ["process"] := by
  have htext : "process.env." ++ name = "process" ++ "." ++ ("env." ++ name) := by
    rw [← String.append_assoc]
    rfl
  unfold envVariable
  rw [htext]
  exact Expr.names_path hidden (by decide)

/-- Whatever reading an environment variable uses is a global name. -/
theorem mem_names_envVariable {name : String} {hidden : List String} {n : String}
    (h : n ∈ (envVariable name).names hidden) : n ∈ globals := by
  rw [names_envVariable] at h
  rw [List.mem_singleton.mp h]
  exact List.mem_cons_self

/-- The check of an environment variable uses global names. -/
theorem uses_guardVariable {name : String} {hidden : List String} {n : String}
    (h : n ∈ (guardVariable name).uses hidden) : n ∈ globals := by
  have huses : (guardVariable name).uses hidden =
      (envVariable name).names hidden ++ [firstSegment "Error"] := rfl
  rw [huses, names_envVariable, firstSegment_eq_self (by decide)] at h
  exact h

/-- The credentials of a client use global names. -/
theorem names_credentials (credentials : CredentialNames) {hidden : List String} {n : String}
    (h : n ∈ Expr.namesProperties hidden credentials.options) : n ∈ globals := by
  obtain ⟨p, hp, _, hn⟩ := mem_namesProperties h
  have hread : ∃ name, p.2 = envVariable name := by
    cases credentials with
    | apiKey name =>
      rw [List.mem_singleton.mp hp]
      exact ⟨name, rfl⟩
    | account username password =>
      rcases List.mem_cons.mp hp with rfl | hp
      · exact ⟨username, rfl⟩
      · rw [List.mem_singleton.mp hp]
        exact ⟨password, rfl⟩
  obtain ⟨name, hname⟩ := hread
  rw [hname] at hn
  exact mem_names_envVariable hn

/-- The options of a client use global names, and the token store whatever it uses. -/
theorem names_clientOptions {n : String}
    (h : n ∈ Expr.namesProperties [tokenStoreKey] b.clientOptions) : n ∈ globals := by
  obtain ⟨p, hp, hkey, hn⟩ := mem_namesProperties h
  unfold clientOptions at hp
  cases htarget : b.target with
  | webViewer script =>
    rw [htarget] at hp
    rcases List.mem_cons.mp hp with rfl | hp
    · exact absurd hn List.not_mem_nil
    · rw [List.mem_singleton.mp hp] at hn
      exact absurd hn List.not_mem_nil
  | standard tokenStore =>
    rw [htarget] at hp
    rcases List.mem_append.mp hp with hp | hp
    · simp only [List.mem_cons, List.not_mem_nil, or_false] at hp
      rcases hp with rfl | rfl | rfl | rfl
      · exact names_credentials b.envNames.credentials hn
      · exact mem_names_envVariable hn
      · exact mem_names_envVariable hn
      · exact absurd hn List.not_mem_nil
    · cases tokenStore with
      | none => exact absurd hp List.not_mem_nil
      | some store =>
        rw [List.mem_singleton.mp hp] at hkey
        exact absurd List.mem_cons_self hkey

/-- The types of a client are imported. -/
theorem names_clientTypes {n : String} (h : n ∈ TypeExpr.namesAll b.clientTypes) :
    n ∈ b.schemaImports := by
  unfold clientTypes at h
  unfold schemaImports
  cases hp : b.hasPortals with
  | true =>
    rw [hp] at h
    have hnames : n ∈ [firstSegment (typeName b.name), firstSegment (portalsTypeName b.name)] := h
    rw [firstSegment_eq_self (dot_not_mem_typeName b.name),
      firstSegment_eq_self (dot_not_mem_portalsTypeName b.name)] at hnames
    exact List.mem_append_left _ hnames
  | false =>
    rw [hp] at h
    have hnames : n ∈ [firstSegment (typeName b.name)] := h
    rw [firstSegment_eq_self (dot_not_mem_typeName b.name)] at hnames
    exact List.mem_append_left _ hnames

/-- The validators of a client are imported where there are validators. -/
theorem names_clientValidators (hv : b.backend = .validator) {hidden : List String} {n : String}
    (h : n ∈ Expr.namesProperties hidden b.clientValidators) : n ∈ b.schemaImports := by
  obtain ⟨p, hmem, _, hn⟩ := mem_namesProperties h
  unfold clientValidators at hmem
  unfold schemaImports
  rw [if_pos hv]
  rcases List.mem_cons.mp hmem with rfl | hmem
  · have hname : n ∈ [firstSegment (validatorName b.name)] := hn
    rw [firstSegment_eq_self (dot_not_mem_validatorName b.name)] at hname
    rw [List.mem_singleton.mp hname]
    exact List.mem_append_right _ List.mem_cons_self
  · cases hp : b.hasPortals with
    | false =>
      rw [hp] at hmem
      exact absurd hmem List.not_mem_nil
    | true =>
      rw [hp] at hmem
      rw [List.mem_singleton.mp hmem] at hn
      have hname : n ∈ [firstSegment (portalsValidatorName b.name)] := hn
      rw [firstSegment_eq_self (dot_not_mem_portalsValidatorName b.name)] at hname
      rw [List.mem_singleton.mp hname]
      exact List.mem_append_right _ (List.mem_cons_of_mem _ List.mem_cons_self)

/-- The construction of the client uses imported and global names, but for the token store. -/
theorem names_constructClient {n : String} (h : n ∈ b.constructClient.names [tokenStoreKey]) :
    n ∈ globals ∨ n ∈ b.clientModule.imports := by
  unfold constructClient at h
  rw [Expr.names, Expr.names, firstSegment_eq_self (by decide), Expr.namesAll, Expr.names] at h
  rcases List.mem_append.mp h with h | h
  · rcases List.mem_cons.mp h with rfl | h
    · exact .inr b.constructor_mem_imports
    · exact .inr (b.schemaImports_subset_imports (b.names_clientTypes h))
  · rcases List.mem_append.mp h with h | h
    · exact .inl (b.names_clientOptions h)
    · split at h
      · rename_i hv
        rw [Expr.namesAll, Expr.names, Expr.namesAll, List.append_nil] at h
        exact .inr (b.schemaImports_subset_imports (b.names_clientValidators hv h))
      · exact absurd h List.not_mem_nil

/-- A client module uses imported and global names, but for the token store. -/
theorem uses_clientModule {s : Statement} (hs : s ∈ b.clientModule.body) {n : String}
    (h : n ∈ s.uses [tokenStoreKey]) : n ∈ globals ∨ n ∈ b.clientModule.imports := by
  unfold clientModule at hs
  rcases List.mem_append.mp hs with hs | hs
  · rcases List.mem_append.mp hs with hs | hs
    · simp only [List.mem_cons, List.not_mem_nil, or_false] at hs
      rcases hs with rfl | rfl
      · exact absurd h List.not_mem_nil
      · exact absurd h List.not_mem_nil
    · have hguard : ∃ name, s = guardVariable name := by
        unfold guards at hs
        split at hs
        · obtain ⟨name, _, rfl⟩ := List.mem_map.mp hs
          exact ⟨name, rfl⟩
        · exact absurd hs List.not_mem_nil
      obtain ⟨name, rfl⟩ := hguard
      exact .inl (uses_guardVariable h)
  · rw [List.mem_singleton.mp hs] at h
    exact b.names_constructClient h

/-! ## What the client module imports is exported -/

/-- Whatever the client module imports from the schema module is exported there. -/
theorem schemaImports_subset_exports : b.schemaImports ⊆ b.schemaModule.exports := by
  intro n hn
  unfold schemaImports at hn
  rcases List.mem_append.mp hn with hn | hn
  · rcases List.mem_append.mp hn with hn | hn
    · rw [List.mem_singleton.mp hn]
      exact b.name_mem_exports b.recordDeclaration_mem
    · split at hn
      · rename_i hp
        rw [List.mem_singleton.mp hn]
        exact b.name_mem_exports (b.portalsDeclaration_mem hp)
      · exact absurd hn List.not_mem_nil
  · split at hn
    · rename_i hv
      rcases List.mem_cons.mp hn with rfl | hn
      · exact b.constant_mem_exports hv b.recordDeclaration_mem
      · split at hn
        · rename_i hp
          rw [List.mem_singleton.mp hn]
          exact b.constant_mem_exports hv (b.portalsDeclaration_mem hp)
        · exact absurd hn List.not_mem_nil
    · exact absurd hn List.not_mem_nil

/-- No package is called like a schema module. -/
theorem package_ne_schemaModule (target : ClientTarget) (name : String) :
    target.package ≠ "../" ++ name := by
  intro h
  have hpackage : target.package.toList.head? = some '@' := by
    cases target with
    | standard tokenStore =>
      show clientPackage.toList.head? = some '@'
      decide
    | webViewer script =>
      show webViewerPackage.toList.head? = some '@'
      decide
  have hmodule : ("../" ++ name).toList.head? = some '.' := by
    rw [String.toList_append]
    rfl
  rw [h, hmodule] at hpackage
  exact absurd hpackage (by decide)

/-- The names that the client module imports from the schema module. -/
theorem imports_from_schemaModule {names : List String}
    (h : .importNames names ("../" ++ b.name) ∈ b.clientModule.body) : names = b.schemaImports := by
  unfold clientModule at h
  rcases List.mem_append.mp h with h | h
  · rcases List.mem_append.mp h with h | h
    · simp only [List.mem_cons, List.not_mem_nil, or_false] at h
      rcases h with h | h
      · injection h with _ hsource
        exact absurd hsource.symm (package_ne_schemaModule b.target b.name)
      · injection h
    · unfold guards at h
      split at h
      · obtain ⟨name, _, hname⟩ := List.mem_map.mp h
        cases hname
      · exact absurd h List.not_mem_nil
  · cases List.mem_singleton.mp h

/-- The references in generated modules resolve. In the schema module every name is imported or
exported in front of its use; the client module uses nothing that it does not import but global
names and what the token store uses; and everything that it imports from the schema module is
exported there. -/
theorem references_resolve :
    b.schemaModule.Closed ∧
      (∀ s ∈ b.clientModule.body, ∀ name ∈ s.uses ["tokenStore"],
        name = "process" ∨ name = "Error" ∨ name ∈ b.clientModule.imports) ∧
      ∀ names, .importNames names ("../" ++ b.name) ∈ b.clientModule.body →
        ∀ name ∈ names, name ∈ b.schemaModule.exports := by
  refine ⟨b.schemaModule_closed, ?_, ?_⟩
  · intro s hs name hn
    rcases b.uses_clientModule hs hn with hg | hi
    · simp only [globals, List.mem_cons, List.not_mem_nil, or_false] at hg
      rcases hg with hg | hg
      · exact .inl hg
      · exact .inr (.inl hg)
    · exact .inr (.inr hi)
  · intro names himport name hn
    rw [b.imports_from_schemaModule himport] at hn
    exact b.schemaImports_subset_exports hn

end Blueprint

end TypedLayouts.Module
