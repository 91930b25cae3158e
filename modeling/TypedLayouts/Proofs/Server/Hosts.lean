import TypedLayouts.Proofs.Server.Origin

/-!
# The host of a server text

Whatever is written around it, a server text names one host: what is left without white space at
its ends, slashes behind it and `https://` in front of it. Only that host decides whether the text
is accepted and where the database is found.
-/

namespace TypedLayouts.Server

variable {server database : String} {credentials : Credentials} {host : List Char}

/-- A server text without white space around it and slashes at its end. -/
def trimmed (server : String) : List Char :=
  Text.dropTrailing (· == '/') (Text.trimBlanks server.toList)

/-- The host in a server text. -/
def bareHost (server : String) : List Char :=
  ((trimmed server).dropPrefix? "https://".toList).getD (trimmed server)

/-- A host is there and has no slash. -/
def IsHost (host : List Char) : Prop :=
  host ≠ [] ∧ '/' ∉ host

instance (host : List Char) : Decidable (IsHost host) :=
  inferInstanceAs (Decidable (_ ∧ _))

theorem bareHost_of_https (h : trimmed server = "https://".toList ++ host) :
    bareHost server = host := by
  unfold bareHost
  rw [h, List.dropPrefix?_append_of_beq host (beq_self_eq_true _)]
  rfl

theorem bareHost_of_other (h : ¬ "https://".toList <+: trimmed server) :
    bareHost server = trimmed server := by
  have hnone : (trimmed server).dropPrefix? "https://".toList = none := by
    refine Option.eq_none_iff_forall_ne_some.mpr fun rest hrest => h ⟨rest, ?_⟩
    obtain ⟨start, hparts, hstart⟩ := List.dropPrefix?_eq_some_iff.mp hrest
    rw [hparts, eq_of_beq hstart]
  unfold bareHost
  rw [hnone]
  rfl

/-- The host alone decides. -/
theorem origin_eq (server : String) : origin server = originAt server (bareHost server) := by
  have htrimmed : Text.dropTrailing (· == '/') (Text.trimBlanks server.toList) = trimmed server :=
    rfl
  unfold origin
  rw [htrimmed]
  dsimp only
  cases hcut : Text.cutAt "://".toList (trimmed server) with
  | none =>
    have hinfix := (Text.cutAt_eq_none_iff separator_ne_nil).mp hcut
    have hprefix : ¬ "https://".toList <+: trimmed server := by
      rintro ⟨rest, hrest⟩
      exact hinfix ⟨"https".toList, rest, hrest⟩
    rw [bareHost_of_other hprefix]
  | some parts =>
    obtain ⟨scheme, host⟩ := parts
    have hparts := ((Text.cutAt_eq_some_iff separator_ne_nil).mp hcut).parts
    dsimp only
    by_cases hscheme : scheme = "https".toList
    · subst hscheme
      rw [if_pos rfl, bareHost_of_https hparts]
    · have hprefix : ¬ "https://".toList <+: trimmed server := by
        rintro ⟨rest, hrest⟩
        rw [← hrest] at hcut
        exact hscheme (congrArg Prod.fst (Option.some.inj hcut)).symm
      have hslash : '/' ∈ trimmed server := by
        rw [hparts]
        simp
      rw [if_neg hscheme, bareHost_of_other hprefix, originAt_of_mem hslash]

theorem origin_of_isHost (h : IsHost (bareHost server)) :
    origin server = .ok ("https://" ++ String.ofList (bareHost server)) := by
  rw [origin_eq, originAt_of_not_mem h.1 h.2]

theorem isHost_of_origin_ok {o : String} (h : origin server = .ok o) :
    IsHost (bareHost server) := by
  rw [origin_eq] at h
  unfold originAt at h
  split_ifs at h with hrefused
  simpa [IsHost] using hrefused

/-- A database that is found is found at the host of the server text. -/
theorem route_of_baseUrl_ok {base : String} (h : baseUrl server database credentials = .ok base) :
    IsHost (bareHost server) ∧
      route ("https://" ++ String.ofList (bareHost server)) database credentials = .ok base := by
  cases horigin : origin server with
  | error e =>
    rw [baseUrl_of_origin_error horigin] at h
    cases h
  | ok o =>
    have hhost := isHost_of_origin_ok horigin
    have ho := horigin.symm.trans (origin_of_isHost hhost)
    cases ho
    rw [baseUrl_of_origin_ok horigin] at h
    exact ⟨hhost, h⟩

end TypedLayouts.Server
