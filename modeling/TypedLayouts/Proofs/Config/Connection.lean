import TypedLayouts.Environment
import TypedLayouts.Proofs.Module.Guards

/-!
# Connection settings and the clients that need them

An environment gives connection settings if it sets the server, the database and complete
credentials. What it gives is what generated clients find there again: they read the variables that
the settings name, and each of them is set.
-/

namespace TypedLayouts

open TypedLayouts.Module (Blueprint CredentialNames EnvNames Guarded)
open Server (Credentials)

namespace Environment

variable (env : Environment) (names : VariableNames)

/-- The variable is set, and not to nothing. -/
def IsSet (name : String) : Prop :=
  ∃ value, env name = some value ∧ value ≠ ""

/-- An API key is set, or an account with its password. -/
def HasCredentials : Prop :=
  env.IsSet names.apiKey ∨ env.IsSet names.username ∧ env.IsSet names.password

/-- The variables hold the credentials. -/
def Holds : CredentialNames → Credentials → Prop
  | .apiKey name, .apiKey key _ => env name = some key
  | .account user secret, .account username password =>
    env user = some username ∧ env secret = some password
  | .apiKey _, .account _ _ => False
  | .account _ _, .apiKey _ _ => False

/-! ## Single variables -/

section Variables

variable {env : Environment} {name value : String}

theorem value?_eq_some_iff : env.value? name = some value ↔ env name = some value ∧ value ≠ "" := by
  unfold value?
  rw [Option.filter_eq_some_iff]
  simp

theorem value?_eq_none_iff : env.value? name = none ↔ ¬ env.IsSet name := by
  unfold IsSet
  rw [Option.eq_none_iff_forall_ne_some]
  simp [value?_eq_some_iff]

theorem isSet_of_value? (h : env.value? name = some value) : env.IsSet name :=
  ⟨value, value?_eq_some_iff.mp h⟩

theorem isSet_iff : env.IsSet name ↔ (env.value? name).isSome = true := by
  unfold IsSet
  rw [Option.isSome_iff_exists]
  simp only [value?_eq_some_iff]

theorem isNone_value?_iff : (env.value? name).isNone = true ↔ ¬ env.IsSet name :=
  Option.isNone_iff_eq_none.trans value?_eq_none_iff

end Variables

instance (name : String) : Decidable (env.IsSet name) :=
  decidable_of_iff _ isSet_iff.symm

instance : Decidable (env.HasCredentials names) :=
  inferInstanceAs (Decidable (_ ∨ _ ∧ _))

/-- The variables that credentials are read from: the one of the API key if it is set. -/
def chosenNames : CredentialNames :=
  if env.IsSet names.apiKey then .apiKey names.apiKey else .account names.username names.password

/-! ## Credentials -/

section Chosen

variable {env : Environment} {names : VariableNames}

theorem credentials?_eq_none_iff : env.credentials? names = none ↔ ¬ env.HasCredentials names := by
  unfold credentials? HasCredentials
  simp only [isSet_iff]
  cases env.value? names.apiKey <;> cases env.value? names.username <;>
    cases env.value? names.password <;> simp

theorem isNone_credentials?_iff :
    (env.credentials? names).isNone = true ↔ ¬ env.HasCredentials names :=
  Option.isNone_iff_eq_none.trans credentials?_eq_none_iff

/-- The credentials are those that the chosen variables hold, and all of these are set. -/
theorem credentials?_eq_some {credentials : Credentials} {chosen : CredentialNames}
    (h : env.credentials? names = some (credentials, chosen)) :
    chosen = env.chosenNames names ∧ env.Holds chosen credentials ∧
      ∀ name ∈ chosen.names, env.IsSet name := by
  unfold credentials? at h
  unfold chosenNames
  cases hkey : env.value? names.apiKey with
  | some key =>
    simp only [hkey] at h
    cases h
    have hset := isSet_of_value? hkey
    refine ⟨(if_pos hset).symm, (value?_eq_some_iff.mp hkey).1, ?_⟩
    simpa [CredentialNames.names] using hset
  | none =>
    rw [if_neg (value?_eq_none_iff.mp hkey)]
    cases husername : env.value? names.username with
    | none => simp [hkey, husername] at h
    | some username =>
      cases hpassword : env.value? names.password with
      | none => simp [hkey, husername, hpassword] at h
      | some password =>
        simp only [hkey, husername, hpassword] at h
        cases h
        refine ⟨rfl, ⟨(value?_eq_some_iff.mp husername).1, (value?_eq_some_iff.mp hpassword).1⟩, ?_⟩
        have husernameSet := isSet_of_value? husername
        have hpasswordSet := isSet_of_value? hpassword
        simp [CredentialNames.names, husernameSet, hpasswordSet]

end Chosen

/-! ## All settings -/

/-- The settings are those of the named variables, and these are what clients are to read. -/
def Gives (c : Connection) : Prop :=
  c.envNames = ⟨names.server, names.database, env.chosenNames names⟩ ∧
    env c.envNames.server = some c.server ∧ env c.envNames.database = some c.database ∧
    env.Holds c.envNames.credentials c.credentials

/-- The names that are reported if something is not set. -/
def missingNames : List String :=
  (if env.IsSet names.server then [] else [names.server]) ++
    (if env.IsSet names.database then [] else [names.database]) ++
    (if env.HasCredentials names then [] else [credentialHint names])

section Connections

variable {env : Environment} {names : VariableNames}

theorem connection_of_complete
    (h : env.IsSet names.server ∧ env.IsSet names.database ∧ env.HasCredentials names) :
    ∃ c, env.connection names = .ok c ∧ env.Gives names c ∧
      ∀ name ∈ c.envNames.required, env.IsSet name := by
  obtain ⟨hserver, hdatabase, hcredentials⟩ := h
  obtain ⟨server, hs⟩ := Option.isSome_iff_exists.mp (isSet_iff.mp hserver)
  obtain ⟨database, hd⟩ := Option.isSome_iff_exists.mp (isSet_iff.mp hdatabase)
  obtain ⟨⟨credentials, chosen⟩, hc⟩ :=
    Option.ne_none_iff_exists'.mp (mt credentials?_eq_none_iff.mp (not_not_intro hcredentials))
  obtain ⟨hchosen, hholds, hset⟩ := credentials?_eq_some hc
  refine ⟨⟨server, database, credentials, ⟨names.server, names.database, chosen⟩⟩, ?_, ?_, ?_⟩
  · unfold connection
    rw [hs, hd, hc]
  · exact ⟨by rw [hchosen], (value?_eq_some_iff.mp hs).1, (value?_eq_some_iff.mp hd).1, hholds⟩
  · intro name hname
    rcases List.mem_cons.mp hname with rfl | hname
    · exact hdatabase
    · rcases List.mem_cons.mp hname with rfl | hname
      · exact hserver
      · exact hset name hname

theorem connection_of_incomplete
    (h : ¬ (env.IsSet names.server ∧ env.IsSet names.database ∧ env.HasCredentials names)) :
    env.connection names = .error ⟨env.missingNames names⟩ := by
  unfold connection missingNames
  -- Only the first branch gives settings, and what it reads is complete.
  split
  · rename_i server database credentials chosen hserver hdatabase hcredentials
    have hcomplete : env.HasCredentials names := by
      refine Decidable.of_not_not fun hnone => ?_
      rw [credentials?_eq_none_iff.mpr hnone] at hcredentials
      cases hcredentials
    exact absurd ⟨isSet_of_value? hserver, isSet_of_value? hdatabase, hcomplete⟩ h
  · simp only [isNone_value?_iff, isNone_credentials?_iff, ite_not]

end Connections

/-- Connection settings come of an environment exactly if the server, the database and complete
credentials are set. They are what the variables hold, an API key before an account, and every
standard client that reads these variables is guarded by them, all of which are set. If something is
not set, the names of what is not set are reported, in a fixed order. -/
theorem connection_outcome :
    ((∃ c, env.connection names = .ok c) ↔
      env.IsSet names.server ∧ env.IsSet names.database ∧ env.HasCredentials names) ∧
    (∀ c, env.connection names = .ok c →
      env.Gives names c ∧ (∀ name ∈ c.envNames.required, env.IsSet name) ∧
        ∀ (b : Blueprint) tokenStore, b.envNames = c.envNames → b.target = .standard tokenStore →
          Guarded b.clientModule c.envNames.required) ∧
    ∀ e, env.connection names = .error e → e.names = env.missingNames names := by
  by_cases hcomplete :
    env.IsSet names.server ∧ env.IsSet names.database ∧ env.HasCredentials names
  · obtain ⟨c, hc, hgives, hset⟩ := connection_of_complete hcomplete
    refine ⟨⟨fun _ => hcomplete, fun _ => ⟨c, hc⟩⟩, fun c' hc' => ?_, fun e he => ?_⟩
    · obtain rfl := Except.ok.inj (hc.symm.trans hc')
      refine ⟨hgives, hset, fun b tokenStore hnames htarget => ?_⟩
      rw [← hnames]
      exact Blueprint.guarded htarget
    · cases hc.symm.trans he
  · have herror := connection_of_incomplete hcomplete
    refine ⟨⟨fun ⟨c, hc⟩ => ?_, fun h => (hcomplete h).elim⟩, fun c hc => ?_, fun e he => ?_⟩
    · cases herror.symm.trans hc
    · cases herror.symm.trans hc
    · obtain rfl := Except.error.inj (herror.symm.trans he)
      rfl

end Environment

end TypedLayouts
