import TypedLayouts.Proofs.Text.Cuts
import TypedLayouts.Server.Address

/-!
# Servers written as URLs

A server may be given with a scheme: `https`, then `://`, then a host. White space around the text
and slashes at its end are dropped first, and what is left is cut at the first `://`. As long as
there is something behind that separator but slashes, trimming stops there and the scheme is
checked. When nothing is, trimming eats the slashes of the separator itself: no separator is left,
and the scheme with its colon is taken for the host.
-/

namespace TypedLayouts.Server

variable {server database : String} {credentials : Credentials} {scheme host slashes : List Char}

theorem originAt_of_mem (h : '/' ∈ host) :
    originAt server host = .error (.invalidServer server) := by
  unfold originAt
  rw [List.contains_iff_mem.mpr h, Bool.or_true, if_pos rfl]

theorem originAt_of_not_mem (hne : host ≠ []) (h : '/' ∉ host) :
    originAt server host = .ok ("https://" ++ String.ofList host) := by
  unfold originAt
  simp [hne, h]

/-! ## Texts with a scheme -/

/-- A server text as a URL: the scheme in front of the first `://`, the host, and the slashes behind
it. -/
structure WrittenAs (server : String) (scheme host slashes : List Char) : Prop where
  cut : Text.CutsAt "://".toList scheme (host ++ slashes) (Text.trimBlanks server.toList)
  slash : ∀ c ∈ slashes, c = '/'
  last : host.getLast? ≠ some '/'

theorem separator_ne_nil : "://".toList ≠ [] := by decide

theorem exists_writtenAs (h : "://".toList <:+: Text.trimBlanks server.toList) :
    ∃ scheme host slashes, WrittenAs server scheme host slashes := by
  cases hcut : Text.cutAt "://".toList (Text.trimBlanks server.toList) with
  | none => exact absurd h ((Text.cutAt_eq_none_iff separator_ne_nil).mp hcut)
  | some parts =>
    obtain ⟨scheme, behind⟩ := parts
    obtain ⟨slashes, hbehind, hslash, hlast⟩ := Text.exists_dropTrailing (· == '/') behind
    refine ⟨scheme, Text.dropTrailing (· == '/') behind, slashes, ?_, ?_, ?_⟩
    · rw [← hbehind]
      exact (Text.cutAt_eq_some_iff separator_ne_nil).mp hcut
    · intro c hc
      exact beq_iff_eq.mp (hslash c hc)
    · intro h
      exact hlast '/' h rfl

/-- Slashes at the end are dropped up to the host, or up to the colon where there is no host. -/
theorem WrittenAs.trimmed (h : WrittenAs server scheme host slashes) :
    Text.dropTrailing (· == '/') (Text.trimBlanks server.toList) =
      if host = [] then scheme ++ [':'] else scheme ++ "://".toList ++ host := by
  have hseparator :
      Text.dropTrailing (· == '/') (scheme ++ "://".toList) = scheme ++ [':'] := by
    rw [Text.dropTrailing_append]
    rfl
  have hhost : Text.dropTrailing (· == '/') (host ++ slashes) = host := by
    refine Text.dropTrailing_append_eq_left (fun c hc hslash => h.last ?_) fun c hc => ?_
    · rw [← beq_iff_eq.mp hslash]
      exact hc
    · exact beq_iff_eq.mpr (h.slash c hc)
  rw [h.cut.parts, Text.dropTrailing_append, hhost, hseparator]

/-- With something behind the separator but slashes, the scheme is checked, and then the host. -/
theorem WrittenAs.origin_of_ne_nil (h : WrittenAs server scheme host slashes) (hhost : host ≠ []) :
    origin server =
      if scheme = "https".toList then originAt server host
      else .error (.invalidServer server) := by
  have hcut : Text.cutAt "://".toList (scheme ++ "://".toList ++ host) = some (scheme, host) :=
    (Text.cutAt_eq_some_iff separator_ne_nil).mpr h.cut.of_append
  unfold origin
  rw [h.trimmed, if_neg hhost]
  dsimp only
  rw [hcut]

/-- With nothing behind it but slashes, no separator is left. -/
theorem WrittenAs.origin_of_nil (h : WrittenAs server scheme [] slashes) :
    origin server = originAt server (scheme ++ [':']) := by
  have hcut : Text.cutAt "://".toList (scheme ++ [':']) = none := by
    refine (Text.cutAt_eq_none_iff separator_ne_nil).mpr ?_
    rintro ⟨before, behind, hparts⟩
    -- an occurrence of `://` here would start in front of the first one in the whole text
    have htext : Text.trimBlanks server.toList =
        before ++ "://".toList ++ (behind ++ "//".toList ++ slashes) := by
      rw [h.cut.parts]
      have hrest := congrArg (· ++ ("//".toList ++ slashes)) hparts
      simpa using hrest.symm
    have hfirst := h.cut.first before _ htext
    have hlength := congrArg List.length hparts
    simp at hlength
    omega
  unfold origin
  rw [h.trimmed, if_pos rfl]
  dsimp only
  rw [hcut]

/-! ## What is accepted -/

/-- The scheme is `https`, and there is a host without a slash. -/
def NamesHost (scheme host : List Char) : Prop :=
  scheme = "https".toList ∧ host ≠ [] ∧ '/' ∉ host

instance (scheme host : List Char) : Decidable (NamesHost scheme host) :=
  inferInstanceAs (Decidable (_ ∧ _))

theorem WrittenAs.origin_of_namesHost (h : WrittenAs server scheme host slashes)
    (hnames : NamesHost scheme host) :
    origin server = .ok ("https://" ++ String.ofList host) := by
  obtain ⟨hscheme, hne, hslash⟩ := hnames
  rw [h.origin_of_ne_nil hne, if_pos hscheme, originAt_of_not_mem hne hslash]

theorem WrittenAs.origin_of_scheme_alone (h : WrittenAs server scheme [] slashes)
    (hscheme : '/' ∉ scheme) :
    origin server = .ok ("https://" ++ String.ofList (scheme ++ [':'])) := by
  have hslash : '/' ∉ scheme ++ [':'] := by simp [hscheme]
  rw [h.origin_of_nil, originAt_of_not_mem (by simp) hslash]

theorem WrittenAs.origin_of_not_namesHost (h : WrittenAs server scheme host slashes)
    (hnames : ¬ NamesHost scheme host) (hhost : host = [] → '/' ∈ scheme) :
    origin server = .error (.invalidServer server) := by
  by_cases hne : host = []
  · subst hne
    rw [h.origin_of_nil]
    exact originAt_of_mem (List.mem_append_left _ (hhost rfl))
  · rw [h.origin_of_ne_nil hne]
    by_cases hscheme : scheme = "https".toList
    · rw [if_pos hscheme]
      refine originAt_of_mem ?_
      by_contra hslash
      exact hnames ⟨hscheme, hne, hslash⟩
    · rw [if_neg hscheme]

theorem route_ne_invalidServer (origin database : String) (credentials : Credentials) :
    route origin database credentials ≠ .error (.invalidServer server) := by
  unfold route
  cases credentials with
  | account username password => simp
  | apiKey key port =>
    dsimp only
    split_ifs <;> simp

theorem baseUrl_of_origin_ok {o : String} (h : origin server = .ok o) :
    baseUrl server database credentials = route o database credentials := by
  unfold baseUrl
  rw [h]
  rfl

theorem baseUrl_of_origin_error {e : ApiError} (h : origin server = .error e) :
    baseUrl server database credentials = .error e := by
  unfold baseUrl
  rw [h]
  rfl

/-- A database is found on the server only if its text names a host, and any other text is refused.
-/
def FoundOnlyAtHost (server database : String) (credentials : Credentials)
    (scheme host : List Char) : Prop :=
  (∀ url, baseUrl server database credentials = .ok url → NamesHost scheme host) ∧
    (¬ NamesHost scheme host →
      baseUrl server database credentials = .error (.invalidServer server))

theorem WrittenAs.foundOnlyAtHost (h : WrittenAs server scheme host slashes)
    (hhost : host = [] → '/' ∈ scheme) :
    FoundOnlyAtHost server database credentials scheme host := by
  have hrefused : ¬ NamesHost scheme host →
      baseUrl server database credentials = .error (.invalidServer server) :=
    fun hnames => baseUrl_of_origin_error (h.origin_of_not_namesHost hnames hhost)
  refine ⟨fun url hurl => ?_, hrefused⟩
  by_contra hnames
  rw [hrefused hnames] at hurl
  cases hurl

theorem WrittenAs.not_foundOnlyAtHost (h : WrittenAs server scheme [] slashes)
    (hscheme : '/' ∉ scheme) :
    ¬ FoundOnlyAtHost server database credentials scheme [] := by
  rintro ⟨-, hrefused⟩
  have herror := hrefused fun hnames => hnames.2.1 rfl
  rw [baseUrl_of_origin_ok (h.origin_of_scheme_alone hscheme)] at herror
  exact route_ne_invalidServer _ _ _ herror

/-- A server text in which `://` stands is a scheme, a host and slashes. A database is found only if
the scheme is `https` and the host is there and has no slash, and every other text is refused,
exactly when there is a host or the scheme has a slash. A text that names a host leads to that host;
a scheme alone leads to a host that is the scheme with its colon. -/
theorem baseUrl_of_separator (hseparator : "://".toList <:+: Text.trimBlanks server.toList) :
    (∃ scheme host slashes, WrittenAs server scheme host slashes) ∧
      ∀ scheme host slashes, WrittenAs server scheme host slashes → ∀ database credentials,
        (FoundOnlyAtHost server database credentials scheme host ↔
          (host = [] → '/' ∈ scheme)) ∧
        (NamesHost scheme host → baseUrl server database credentials =
          route ("https://" ++ String.ofList host) database credentials) ∧
        (host = [] → '/' ∉ scheme → baseUrl server database credentials =
          route ("https://" ++ String.ofList (scheme ++ [':'])) database credentials) := by
  refine ⟨exists_writtenAs hseparator, fun scheme host slashes h database credentials =>
    ⟨⟨?_, h.foundOnlyAtHost⟩, ?_, ?_⟩⟩
  · rintro hfound rfl
    by_contra hscheme
    exact h.not_foundOnlyAtHost hscheme hfound
  · intro hnames
    exact baseUrl_of_origin_ok (h.origin_of_namesHost hnames)
  · rintro rfl hscheme
    exact baseUrl_of_origin_ok (h.origin_of_scheme_alone hscheme)

theorem baseUrl_of_other_scheme :
    "://".toList <:+: Text.trimBlanks " ftp://fm.example.com/ ".toList ∧
      baseUrl " ftp://fm.example.com/ " "Sales" (.apiKey "dk_1" none) =
        .error (.invalidServer " ftp://fm.example.com/ ") := by
  have hseparator : "://".toList <:+: Text.trimBlanks " ftp://fm.example.com/ ".toList :=
    ⟨"ftp".toList, "fm.example.com/".toList, by decide⟩
  have hcut : Text.CutsAt "://".toList "ftp".toList ("fm.example.com".toList ++ ['/'])
      (Text.trimBlanks " ftp://fm.example.com/ ".toList) :=
    (Text.cutAt_eq_some_iff separator_ne_nil).mp (by decide)
  have hchecked := ((baseUrl_of_separator hseparator).2 "ftp".toList "fm.example.com".toList ['/']
    ⟨hcut, by simp, by decide⟩ "Sales" (.apiKey "dk_1" none)).1
  exact ⟨hseparator, (hchecked.mpr (by decide)).2 (by decide)⟩

/-- A scheme without a host is not refused. -/
theorem scheme_alone_found :
    ¬ ∀ server scheme host slashes, WrittenAs server scheme host slashes →
      ∀ database credentials, FoundOnlyAtHost server database credentials scheme host := by
  intro hfound
  have hcut : Text.CutsAt "://".toList "https".toList ([] ++ [])
      (Text.trimBlanks "https://".toList) :=
    (Text.cutAt_eq_some_iff separator_ne_nil).mp (by decide)
  have hwritten : WrittenAs "https://" "https".toList [] [] := ⟨hcut, by simp, by decide⟩
  exact hwritten.not_foundOnlyAtHost (by decide)
    (hfound _ _ _ _ hwritten "Sales" (.account "admin" "secret"))

end TypedLayouts.Server
