import TypedLayouts.Config.Check
import TypedLayouts.Proofs.Module.Guards
import TypedLayouts.Proofs.TypeScript.Accesses

/-!
# Variables that generated clients read

A standard client tests each variable that it requires and passes it on as an option. Both texts put
the name of the variable behind `process.env` and a point. They read the variable exactly if its
name is a name of the language; a name with other characters, such as a hyphen or a point, comes out
as an expression that reads something else, and an empty name as none at all.
-/

namespace TypedLayouts.Module

open TypeScript

/-- Read as an expression, the text is an access to the one property of `process.env` with this
name. -/
def ReadsVariable (chars : NameCharacters) (text name : String) : Prop :=
  chars.Access text.toList ["process".toList, "env".toList, name.toList]

/-- The statement that complains about a variable that is not set. -/
def complaint (name : String) : Statement :=
  .throw (.construct (.ident "Error") [.string ("Missing env var: " ++ name)])

/-- The variables of credentials, with the keys that lead to them in the options of a client. -/
def CredentialNames.places : CredentialNames → List (String × List String)
  | .apiKey name => [(name, ["auth", "apiKey"])]
  | .account username password =>
    [(username, ["auth", "username"]), (password, ["auth", "password"])]

/-- The variables that a client requires, with the keys that lead to them in its options. -/
def EnvNames.places (env : EnvNames) : List (String × List String) :=
  (env.database, ["db"]) :: (env.server, ["server"]) :: env.credentials.places

/-- The value in an object literal at the end of some keys. -/
def valueAt? : List String → Expr → Option Expr
  | [], e => some e
  | key :: keys, .object _ properties => (properties.lookup key).bind (valueAt? keys)
  | _ :: _, _ => none

variable {chars : NameCharacters}

/-! ## Names behind `process.env` -/

/-- The text of a variable reads it exactly if its name is a name of the language. -/
theorem readsVariable_iff (depth : Nat) (name : String) :
    ReadsVariable chars ((envVariable name).render depth) name ↔
      chars.IsName name.toList := by
  have htext : ("process.env." ++ name).toList =
      "process".toList ++ '.' :: "env".toList ++ '.' :: name.toList := by
    rw [String.toList_append]
    rfl
  unfold ReadsVariable
  rw [render_envVariable, htext]
  constructor
  · intro h
    refine h.isName ?_ _ (by simp)
    simp [NameCharacters.span]
    omega
  · intro h
    have hprocess : chars.IsName "process".toList :=
      NameCharacters.isName_of_isValid (by decide)
    have henv : chars.IsName "env".toList :=
      NameCharacters.isName_of_isValid (by decide)
    exact ((NameCharacters.access_name hprocess).behind_point henv).behind_point h

namespace Blueprint

variable {b : Blueprint} {tokenStore : Option Expr}

theorem map_places (env : EnvNames) : env.places.map Prod.fst = env.required := by
  unfold EnvNames.places EnvNames.required
  cases env.credentials with
  | apiKey => rfl
  | account => rfl

theorem guard_mem_clientModule (h : b.target = .standard tokenStore) {name : String}
    (hmem : name ∈ b.envNames.required) :
    .when (.not (envVariable name)) (complaint name) ∈ b.clientModule.body := by
  rw [clientModule_standard h]
  exact List.mem_append_left _ (List.mem_append_right _ (List.mem_map_of_mem hmem))

theorem valueAt?_clientOptions (h : b.target = .standard tokenStore) {name : String}
    {place : List String} (hmem : (name, place) ∈ b.envNames.places) :
    valueAt? place (.object true b.clientOptions) = some (envVariable name) := by
  unfold clientOptions
  rw [h]
  unfold EnvNames.places at hmem
  rcases List.mem_cons.mp hmem with he | hmem
  · cases he
    rfl
  rcases List.mem_cons.mp hmem with he | hmem
  · cases he
    rfl
  cases hcredentials : b.envNames.credentials with
  | apiKey name =>
    rw [hcredentials] at hmem
    cases List.mem_singleton.mp hmem
    rfl
  | account username password =>
    rw [hcredentials] at hmem
    rcases List.mem_cons.mp hmem with he | hmem
    · cases he
      rfl
    · cases List.mem_singleton.mp hmem
      rfl

/-- A standard client tests each variable that it requires and passes it on. Read as expressions,
what is tested and what is passed on are accesses to the one property of `process.env` with the name
of the variable exactly if this is a name of the language. -/
theorem variables_read_iff (chars : NameCharacters) (h : b.target = .standard tokenStore) :
    b.envNames.places.map Prod.fst = b.envNames.required ∧
    ∀ name place, (name, place) ∈ b.envNames.places →
      ∃ tested passed,
        .when (.not tested) (complaint name) ∈ b.clientModule.body ∧
        valueAt? place (.object true b.clientOptions) = some passed ∧
        (∀ depth, ReadsVariable chars (tested.render depth) name ↔
          chars.IsName name.toList) ∧
        ∀ depth, ReadsVariable chars (passed.render depth) name ↔
          chars.IsName name.toList := by
  refine ⟨map_places b.envNames, fun name place hmem => ?_⟩
  have hrequired : name ∈ b.envNames.required :=
    map_places b.envNames ▸ List.mem_map_of_mem hmem
  exact ⟨envVariable name, envVariable name, guard_mem_clientModule h hrequired,
    valueAt?_clientOptions h hmem, fun depth => readsVariable_iff depth name,
    fun depth => readsVariable_iff depth name⟩

/-- A client for an account, with variables whose names are no names of the language. -/
def oddlyNamed : Blueprint where
  name := "Orders"
  layout := "API_Orders"
  schemas := { schema := [⟨"Id", .text⟩] }
  backend := .typesOnly
  strictNumbers := false
  envNames := ⟨"FM-SERVER", "FM.DATABASE", .account "_user2" "2nd PASSWORD"⟩
  target := .standard none

/-- The user name of such a client is read both where it is tested and where it is passed on, and
its database, which seems to be two properties, is not. -/
theorem account_reads_user :
    oddlyNamed.target = .standard none ∧
    (∃ tested passed,
      .when (.not tested) (complaint "_user2") ∈ oddlyNamed.clientModule.body ∧
      valueAt? ["auth", "username"] (.object true oddlyNamed.clientOptions) = some passed ∧
      ReadsVariable .ascii (tested.render 0) "_user2" ∧
      ReadsVariable .ascii (passed.render 1) "_user2") ∧
    ∃ tested passed,
      .when (.not tested) (complaint "FM.DATABASE") ∈ oddlyNamed.clientModule.body ∧
      valueAt? ["db"] (.object true oddlyNamed.clientOptions) = some passed ∧
      ¬ ReadsVariable .ascii (tested.render 0) "FM.DATABASE" ∧
      ¬ ReadsVariable .ascii (passed.render 1) "FM.DATABASE" := by
  have hreads := (variables_read_iff .ascii (b := oddlyNamed) rfl).2
  have huser : NameCharacters.ascii.IsName "_user2".toList :=
    NameCharacters.isName_of_isValid (by decide)
  have hdatabase : ¬ NameCharacters.ascii.IsName "FM.DATABASE".toList :=
    NameCharacters.not_isName_of_mem (c := '.') (by decide) (by decide) (by decide)
  refine ⟨rfl, ?_, ?_⟩
  · obtain ⟨tested, passed, hguard, hoption, htested, hpassed⟩ :=
      hreads "_user2" ["auth", "username"] (by simp [oddlyNamed, EnvNames.places,
        CredentialNames.places])
    exact ⟨tested, passed, hguard, hoption, (htested 0).mpr huser, (hpassed 1).mpr huser⟩
  · obtain ⟨tested, passed, hguard, hoption, htested, hpassed⟩ :=
      hreads "FM.DATABASE" ["db"] (by simp [oddlyNamed, EnvNames.places])
    exact ⟨tested, passed, hguard, hoption, fun h => hdatabase ((htested 0).mp h),
      fun h => hdatabase ((hpassed 1).mp h)⟩

/-- A config may name a variable with a hyphen. It is required of the client, whose text for it is
then no access to it, whatever the characters of names are. -/
theorem hyphenated_variable_not_read :
    ({ environment := { server := "FM-SERVER" } } : Config).check = .ok () ∧
    oddlyNamed.envNames.server = "FM-SERVER" ∧
    "FM-SERVER" ∈ oddlyNamed.envNames.required ∧
    .when (.not (envVariable "FM-SERVER")) (complaint "FM-SERVER") ∈
      oddlyNamed.clientModule.body ∧
    valueAt? ["server"] (.object true oddlyNamed.clientOptions) = some (envVariable "FM-SERVER") ∧
    (envVariable "FM-SERVER").render 0 = "process.env.FM-SERVER" ∧
    ∀ chars : NameCharacters, ¬ ReadsVariable chars "process.env.FM-SERVER" "FM-SERVER" := by
  have hmem : "FM-SERVER" ∈ oddlyNamed.envNames.required := by decide
  have htext : (envVariable "FM-SERVER").render 0 = "process.env.FM-SERVER" :=
    render_envVariable 0 "FM-SERVER"
  refine ⟨rfl, rfl, hmem, guard_mem_clientModule rfl hmem, rfl, htext, fun chars h => ?_⟩
  rw [← htext, readsVariable_iff] at h
  exact NameCharacters.not_isName_of_mem (c := '-') (by decide) (by decide) (by decide) h

end Blueprint

end TypedLayouts.Module
