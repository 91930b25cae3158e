import TypedLayouts.Module.ClientModule
import TypedLayouts.Proofs.TypeScript.Paths

/-!
# Guarded reads of the environment

A standard client module tests every variable of its environment before it makes the client, and the
settings of the client read nothing of the environment that was not tested. A name may hold dots, so
that a variable is read through several properties; such a read counts as a whole.
-/

namespace TypedLayouts

namespace TypeScript

namespace Expr

/-- The expression is `process.env` or something below it. -/
def underEnvironment : Expr → Bool
  | .member (.ident "process") "env" => true
  | .member target _ => target.underEnvironment
  | _ => false

mutual

/-- What an expression reads of the environment. Of nested reads the outermost one counts. Verbatim
text reads nothing here. -/
def environmentReads : Expr → List Expr
  | .member target property =>
    if (Expr.member target property).underEnvironment then [.member target property]
    else environmentReads target
  | .call callee _ arguments => environmentReads callee ++ environmentReadsAll arguments
  | .construct callee arguments => environmentReads callee ++ environmentReadsAll arguments
  | .not operand => environmentReads operand
  | .array items => environmentReadsAll items
  | .object _ properties => environmentReadsProperties properties
  | .null | .string _ | .ident _ | .raw _ => []

/-- What several expressions read of the environment. -/
def environmentReadsAll : List Expr → List Expr
  | [] => []
  | e :: es => environmentReads e ++ environmentReadsAll es

/-- What the properties of an object literal read of the environment. -/
def environmentReadsProperties : List (String × Expr) → List Expr
  | [] => []
  | (_, e) :: rest => environmentReads e ++ environmentReadsProperties rest

end

variable {e : Expr}

theorem underEnvironment_member (property : String) (h : e.underEnvironment = true) :
    (Expr.member e property).underEnvironment = true := by
  unfold underEnvironment
  split
  · rfl
  · rename_i target _ _ he
    obtain ⟨rfl, -⟩ := Expr.member.inj he
    exact h
  · rename_i _ hother
    exact absurd rfl (hother e property)

theorem underEnvironment_properties (segments : List (List Char))
    (h : e.underEnvironment = true) : (e.properties segments).underEnvironment = true := by
  induction segments generalizing e with
  | nil => exact h
  | cons segment segments ih => exact ih (underEnvironment_member (String.ofList segment) h)

/-- Something below `process.env` is one read. -/
theorem environmentReads_of_under (h : e.underEnvironment = true) : e.environmentReads = [e] := by
  cases e with
  | member target property =>
    unfold environmentReads
    rw [if_pos h]
  | _ => cases h

end Expr

/-- What a statement tests before it goes on. -/
def Statement.test? : Statement → Option Expr
  | .when test _ => some test
  | _ => none

end TypeScript

namespace Module

open TypeScript

/-- The settings of a client that say where it connects and as whom. -/
def connectionSettings : List String :=
  ["auth", "db", "server"]

/-- A module tests the variables, in this order, and throws if one is not set. Its last statement
makes the client, with connection settings that read nothing of the environment but what was tested.
-/
def Guarded (doc : Document) (required : List String) : Prop :=
  ∃ front types options more,
    doc.body =
      front ++ [.exportConst "client"
        (.call (.ident "DataApi") types (.object true options :: more))] ∧
    front.filterMap Statement.test? = required.map (fun name => .not (envVariable name)) ∧
    (front.filterMap Statement.test?).map (Expr.render 0) =
      required.map (fun name => "!process.env." ++ name) ∧
    (∀ test consequent, .when test consequent ∈ front → ∃ value, consequent = .throw value) ∧
    (∀ setting ∈ connectionSettings, ∃ value, (setting, value) ∈ options) ∧
    ∀ setting ∈ connectionSettings, ∀ value, (setting, value) ∈ options →
      ∀ read ∈ value.environmentReads, .not read ∈ front.filterMap Statement.test?

@[simp] theorem render_envVariable (depth : Nat) (name : String) :
    (envVariable name).render depth = "process.env." ++ name :=
  Expr.render_path depth _

/-- A variable is one read, also if its name has dots. -/
@[simp] theorem environmentReads_envVariable (name : String) :
    (envVariable name).environmentReads = [envVariable name] := by
  have hbelow : envVariable name =
      (Expr.member (.ident "process") "env").properties (name.toList.splitOn '.') := by
    have hdot : "process.env." ++ name = "process.env" ++ "." ++ name := rfl
    unfold envVariable
    rw [hdot, Expr.path_append_dot]
    rfl
  have hunder := Expr.underEnvironment_properties (name.toList.splitOn '.')
    (show (Expr.member (.ident "process") "env").underEnvironment = true from rfl)
  rw [← hbelow] at hunder
  exact Expr.environmentReads_of_under hunder

theorem environmentReads_credentials (credentials : CredentialNames) :
    (Expr.object false credentials.options).environmentReads =
      credentials.names.map envVariable := by
  cases credentials with
  | apiKey name =>
    simp [CredentialNames.options, CredentialNames.names, Expr.environmentReads,
      Expr.environmentReadsProperties]
  | account username password =>
    simp [CredentialNames.options, CredentialNames.names, Expr.environmentReads,
      Expr.environmentReadsProperties]

namespace Blueprint

variable {b : Blueprint} {tokenStore : Option Expr}

/-- What stands in front of a standard client in its module. -/
def front (b : Blueprint) : List Statement :=
  [.importNames ["DataApi"] b.target.package, .importNames b.schemaImports ("../" ++ b.name)]
    ++ b.envNames.required.map guardVariable

theorem clientModule_standard (h : b.target = .standard tokenStore) :
    b.clientModule.body = b.front ++ [.exportConst "client" b.constructClient] := by
  unfold clientModule guards front
  rw [h]

theorem front_tests (b : Blueprint) :
    b.front.filterMap Statement.test? =
      b.envNames.required.map fun name => .not (envVariable name) := by
  have htest : Statement.test? ∘ guardVariable = some ∘ fun name => .not (envVariable name) := rfl
  unfold front
  rw [List.filterMap_append, List.filterMap_map, htest, List.filterMap_eq_map]
  rfl

theorem render_front_tests (b : Blueprint) :
    (b.front.filterMap Statement.test?).map (Expr.render 0) =
      b.envNames.required.map fun name => "!process.env." ++ name := by
  have hrender : ∀ name, (Expr.not (envVariable name)).render 0 = "!process.env." ++ name := by
    intro name
    rw [Expr.render, render_envVariable, ← String.append_assoc]
    rfl
  rw [front_tests, List.map_map]
  exact List.map_congr_left fun name _ => hrender name

/-- A test in front of a client that fails ends the module. -/
theorem front_throws {test : Expr} {consequent : Statement} (h : .when test consequent ∈ b.front) :
    ∃ value, consequent = .throw value := by
  rcases List.mem_append.mp h with h | h
  · simp at h
  · obtain ⟨name, -, hname⟩ := List.mem_map.mp h
    obtain ⟨-, rfl⟩ := Statement.when.inj hname
    exact ⟨_, rfl⟩

theorem connectionSetting_value (h : b.target = .standard tokenStore) {setting : String}
    {value : Expr} (hs : setting ∈ connectionSettings) (hv : (setting, value) ∈ b.clientOptions) :
    value = .object false b.envNames.credentials.options ∨
      value = envVariable b.envNames.database ∨ value = envVariable b.envNames.server := by
  unfold clientOptions at hv
  rw [h] at hv
  rcases List.mem_append.mp hv with hv | hv
  · simp only [List.mem_cons, List.not_mem_nil, or_false, Prod.mk.injEq] at hv
    rcases hv with ⟨-, hv⟩ | ⟨-, hv⟩ | ⟨-, hv⟩ | ⟨hlayout, -⟩
    · exact .inl hv
    · exact .inr (.inl hv)
    · exact .inr (.inr hv)
    · exact absurd (hlayout ▸ hs) (by decide)
  · cases tokenStore with
    | none => exact absurd hv List.not_mem_nil
    | some store =>
      have hstore : setting = "tokenStore" := (Prod.mk.inj (List.mem_singleton.mp hv)).1
      exact absurd (hstore ▸ hs) (by decide)

/-- The connection settings of a standard client read variables that it requires. -/
theorem reads_required (h : b.target = .standard tokenStore) {setting : String} {value read : Expr}
    (hs : setting ∈ connectionSettings) (hv : (setting, value) ∈ b.clientOptions)
    (hr : read ∈ value.environmentReads) :
    ∃ name ∈ b.envNames.required, envVariable name = read := by
  unfold EnvNames.required
  rcases connectionSetting_value h hs hv with rfl | rfl | rfl
  · rw [environmentReads_credentials] at hr
    obtain ⟨name, hname, rfl⟩ := List.mem_map.mp hr
    exact ⟨name, List.mem_cons_of_mem _ (List.mem_cons_of_mem _ hname), rfl⟩
  · rw [environmentReads_envVariable] at hr
    exact ⟨_, List.mem_cons_self, (List.mem_singleton.mp hr).symm⟩
  · rw [environmentReads_envVariable] at hr
    exact ⟨_, List.mem_cons_of_mem _ List.mem_cons_self, (List.mem_singleton.mp hr).symm⟩

theorem connectionSettings_set (h : b.target = .standard tokenStore) :
    ∀ setting ∈ connectionSettings, ∃ value, (setting, value) ∈ b.clientOptions := by
  intro setting hs
  unfold clientOptions
  rw [h]
  simp only [connectionSettings, List.mem_cons, List.not_mem_nil, or_false] at hs
  rcases hs with rfl | rfl | rfl
  · exact ⟨.object false b.envNames.credentials.options, by simp⟩
  · exact ⟨envVariable b.envNames.database, by simp⟩
  · exact ⟨envVariable b.envNames.server, by simp⟩

/-- A standard client module is guarded by the variables that it requires. -/
theorem guarded (h : b.target = .standard tokenStore) :
    Guarded b.clientModule b.envNames.required := by
  refine ⟨b.front, b.clientTypes, b.clientOptions, _, clientModule_standard h, b.front_tests,
    b.render_front_tests, fun _ _ => front_throws, connectionSettings_set h, ?_⟩
  intro setting hs value hv read hr
  obtain ⟨name, hname, rfl⟩ := reads_required h hs hv hr
  rw [front_tests]
  exact List.mem_map_of_mem hname

end Blueprint

end Module

end TypedLayouts
