import TypedLayouts.Proofs.Server.ProxyPort
import TypedLayouts.Proofs.Text.Percent

/-!
# The URLs of requests

The URL of a layout is a row of segments: the host, the way that the credentials take, the database
and the layout. No part of it holds a slash, so the segments tell the parts again, and different
layouts have different URLs. Where these have `layouts`, the URLs of sessions have `sessions`. What
is written around the host of a server text leaves no trace in a URL.
-/

namespace TypedLayouts.Server

/-! ## Segments -/

/-- The segments of a URL. -/
def urlSegments (url : String) : List (List Char) :=
  url.toList.splitOn '/'

theorem urlSegments_append (s t : String) :
    urlSegments (s ++ "/" ++ t) = urlSegments s ++ urlSegments t := by
  have hparts : (s ++ "/" ++ t).toList = s.toList ++ '/' :: t.toList := by simp
  have hsplit := List.splitOnP_append_cons (p := (· == '/')) s.toList t.toList
    (beq_self_eq_true '/')
  unfold urlSegments
  rw [hparts]
  exact hsplit

theorem urlSegments_of_not_mem {s : String} (h : '/' ∉ s.toList) : urlSegments s = [s.toList] :=
  List.splitOn_eq_singleton h

/-- The segments behind `https://` in the URL of a database. -/
def entrance (credentials : Credentials) (host : List Char) : List (List Char) :=
  match credentials with
  | .account _ _ => [host]
  | .apiKey key port =>
    if "dk_".toList.isPrefixOf key.toList then [host, "otto".toList]
    else [host ++ ':' :: proxyPort port]

theorem entrance_injective {credentials : Credentials} {host host' : List Char}
    (h : entrance credentials host = entrance credentials host') : host = host' := by
  cases credentials with
  | account username password => exact List.singleton_inj.mp h
  | apiKey key port =>
    unfold entrance at h
    dsimp only at h
    split_ifs at h
    · exact (List.cons_eq_cons.mp h).1
    · exact List.append_cancel_right (List.singleton_inj.mp h)

/-- Credentials of one kind enter with the host alone, the others with a segment behind it. -/
theorem entrance_cases (credentials : Credentials) (host : List Char) :
    (∃ first, entrance credentials host = [first]) ∨
      entrance credentials host = [host, "otto".toList] := by
  cases credentials with
  | account username password => exact .inl ⟨host, rfl⟩
  | apiKey key port =>
    unfold entrance
    dsimp only
    split_ifs
    · exact .inr rfl
    · exact .inl ⟨_, rfl⟩

/-- The segments of the URL of a database. -/
def databaseSegments (credentials : Credentials) (host : List Char) (database : String) :
    List (List Char) :=
  ["https:".toList, []] ++ entrance credentials host ++
    ["fmi".toList, "data".toList, "vLatest".toList, "databases".toList,
      (Text.percentEncode database).toList]

section Segments

variable {server database layout base : String} {credentials : Credentials} {host : List Char}

theorem slash_not_mem_entrance (h : '/' ∉ host) :
    ∀ segment ∈ entrance credentials host, '/' ∉ segment := by
  cases credentials with
  | account username password => simpa [entrance] using h
  | apiKey key port =>
    have hport := slash_not_mem_proxyPort port
    unfold entrance
    dsimp only
    split_ifs
    · simpa using h
    · simpa [h] using hport

theorem slash_not_mem_databaseSegments (h : '/' ∉ host) :
    ∀ segment ∈ databaseSegments credentials host database, '/' ∉ segment := by
  intro segment hmem
  unfold databaseSegments at hmem
  rcases List.mem_append.mp hmem with hmem | hmem
  · rcases List.mem_append.mp hmem with hmem | hmem
    · have hfixed : ∀ segment ∈ ["https:".toList, []], '/' ∉ segment := by decide
      exact hfixed segment hmem
    · exact slash_not_mem_entrance h segment hmem
  · have hdatabase := Text.slash_not_mem_percentEncode database
    simp only [List.mem_cons, List.not_mem_nil, or_false] at hmem
    rcases hmem with rfl | rfl | rfl | rfl | rfl
    · decide
    · decide
    · decide
    · decide
    · exact hdatabase

theorem toList_of_route
    (h : route ("https://" ++ String.ofList host) database credentials = .ok base) :
    base.toList = ['/'].intercalate (databaseSegments credentials host database) := by
  unfold route at h
  cases credentials with
  | account username password =>
    cases h
    simp [databaseSegments, entrance, List.intercalate]
  | apiKey key port =>
    dsimp only at h
    split_ifs at h with hdk hkey
    · have hentrance : entrance (.apiKey key port) host = [host, "otto".toList] := if_pos hdk
      cases h
      unfold databaseSegments
      rw [hentrance]
      simp [List.intercalate]
    · have hentrance : entrance (.apiKey key port) host = [host ++ ':' :: proxyPort port] :=
        if_neg hdk
      cases h
      unfold databaseSegments
      rw [hentrance]
      simp [List.intercalate, proxyPort]

theorem urlSegments_base (h : baseUrl server database credentials = .ok base) :
    urlSegments base = databaseSegments credentials (bareHost server) database := by
  obtain ⟨⟨-, hslash⟩, hroute⟩ := route_of_baseUrl_ok h
  have hne : databaseSegments credentials (bareHost server) database ≠ [] := by
    simp [databaseSegments]
  unfold urlSegments
  rw [toList_of_route hroute,
    List.splitOn_intercalate '/' (slash_not_mem_databaseSegments hslash) hne]

theorem urlSegments_layoutUrl (base layout : String) :
    urlSegments (layoutUrl base layout) =
      urlSegments base ++ ["layouts".toList, (Text.percentEncode layout).toList] := by
  have hurl : layoutUrl base layout =
      base ++ "/" ++ ("layouts" ++ "/" ++ Text.percentEncode layout) := by
    refine String.toList_inj.mp ?_
    simp [layoutUrl]
  rw [hurl, urlSegments_append, urlSegments_append,
    urlSegments_of_not_mem (Text.slash_not_mem_percentEncode layout)]
  rfl

theorem urlSegments_sessionsUrl (base : String) :
    urlSegments (sessionsUrl base) = urlSegments base ++ ["sessions".toList] := by
  have hurl : sessionsUrl base = base ++ "/" ++ "sessions" := by
    refine String.toList_inj.mp ?_
    simp [sessionsUrl]
  rw [hurl, urlSegments_append]
  rfl

theorem urlSegments_sessionUrl (base token : String) :
    urlSegments (sessionUrl base token) =
      urlSegments base ++ "sessions".toList :: urlSegments token := by
  unfold sessionUrl
  rw [urlSegments_append, urlSegments_sessionsUrl, List.append_assoc, List.singleton_append]

end Segments

/-! ## Layouts and sessions -/

/-- The database and the layout in the URL of a layout. -/
def namesIn (url : String) : Option (String × String) :=
  match (urlSegments url).reverse with
  | layout :: _ :: database :: _ => do
    let database ← Text.percentDecode database
    let layout ← Text.percentDecode layout
    some (database, layout)
  | _ => none

/-- A layout of a database on a server that is accepted with the credentials. -/
structure Target (credentials : Credentials) where
  /-- The server text. -/
  server : String
  /-- The database. -/
  database : String
  /-- The layout. -/
  layout : String
  /-- The URL of the database. -/
  base : String
  /-- The database is found there. -/
  found : baseUrl server database credentials = .ok base

namespace Target

variable {credentials credentials' : Credentials}

/-- The URL of the layout. -/
def url (t : Target credentials) : String :=
  layoutUrl t.base t.layout

theorem urlSegments_url (t : Target credentials) :
    urlSegments t.url = databaseSegments credentials (bareHost t.server) t.database ++
      ["layouts".toList, (Text.percentEncode t.layout).toList] := by
  unfold url
  rw [urlSegments_layoutUrl, urlSegments_base t.found]

theorem namesIn_url (t : Target credentials) : namesIn t.url = some (t.database, t.layout) := by
  unfold namesIn
  rw [t.urlSegments_url]
  unfold databaseSegments
  simp [Text.percentDecode_percentEncode]

theorem origin_found (t : Target credentials) :
    origin t.server = .ok ("https://" ++ String.ofList (bareHost t.server)) :=
  origin_of_isHost (route_of_baseUrl_ok t.found).1

theorem origin_eq_of_url_eq {t t' : Target credentials} (h : t.url = t'.url) :
    origin t.server = origin t'.server := by
  have hsegments : urlSegments t.url = urlSegments t'.url := congrArg urlSegments h
  rw [t.urlSegments_url, t'.urlSegments_url] at hsegments
  have hdatabases := (List.append_inj' hsegments (by simp)).1
  unfold databaseSegments at hdatabases
  have hentrances := (List.append_inj' hdatabases (by simp)).1
  have hhost := entrance_injective (List.append_cancel_left hentrances)
  rw [t.origin_found, t'.origin_found, hhost]

/-- The URLs of layouts and those of sessions part where one has `layouts` and the other `sessions`,
or before. -/
theorem urlSegments_ne_sessions (t : Target credentials) (t' : Target credentials')
    (rest : List (List Char)) :
    urlSegments t.url ≠ urlSegments t'.base ++ "sessions".toList :: rest := by
  intro h
  rw [t.urlSegments_url, urlSegments_base t'.found] at h
  unfold databaseSegments at h
  rcases entrance_cases credentials (bareHost t.server) with ⟨first, he⟩ | he
  · rcases entrance_cases credentials' (bareHost t'.server) with ⟨first', he'⟩ | he'
    · simp [he, he'] at h
    · simp [he, he'] at h
  · rcases entrance_cases credentials' (bareHost t'.server) with ⟨first', he'⟩ | he'
    · simp [he, he'] at h
    · simp [he, he'] at h

theorem url_ne_sessionUrl (t : Target credentials) (t' : Target credentials') (token : String) :
    t.url ≠ sessionUrl t'.base token := by
  intro h
  refine t.urlSegments_ne_sessions t' (urlSegments token) ?_
  rw [h, urlSegments_sessionUrl]

theorem url_ne_sessionsUrl (t : Target credentials) (t' : Target credentials') :
    t.url ≠ sessionsUrl t'.base := by
  intro h
  refine t.urlSegments_ne_sessions t' [] ?_
  rw [h, urlSegments_sessionsUrl]

end Target

/-! ## Ways to write a host -/

/-- A host without slashes, and without white space at its ends. -/
structure IsPlainHost (host : List Char) : Prop where
  isHost : IsHost host
  head : ∀ c ∈ host.head?, ¬ Text.isBlank c = true
  last : ∀ c ∈ host.getLast?, ¬ Text.isBlank c = true

/-- A server text with a host in it: perhaps `https://` in front, slashes behind, and white space
around. -/
inductive WritesHost (host : List Char) (server : String) : Prop where
  | mk {before scheme slashes behind : List Char} (hbefore : ∀ c ∈ before, Text.isBlank c = true)
      (hscheme : scheme = [] ∨ scheme = "https://".toList) (hslashes : ∀ c ∈ slashes, c = '/')
      (hbehind : ∀ c ∈ behind, Text.isBlank c = true)
      (hserver : server.toList = before ++ (scheme ++ host ++ slashes) ++ behind) :
      WritesHost host server

section Written

variable {server : String} {host scheme slashes : List Char}

theorem head?_written (hhost : IsPlainHost host)
    (hscheme : scheme = [] ∨ scheme = "https://".toList) :
    ∀ c ∈ (scheme ++ host ++ slashes).head?, ¬ Text.isBlank c = true := by
  obtain ⟨first, rest, rfl⟩ := List.exists_cons_of_ne_nil hhost.isHost.1
  rcases hscheme with rfl | rfl
  · exact hhost.head
  · rintro c ⟨⟩
    decide

theorem getLast?_written (hhost : IsPlainHost host) (hslashes : ∀ c ∈ slashes, c = '/') :
    ∀ c ∈ (scheme ++ host ++ slashes).getLast?, ¬ Text.isBlank c = true := by
  intro c hc
  rw [List.getLast?_append] at hc
  cases hslash : slashes.getLast? with
  | none =>
    rw [hslash, Option.none_or, List.getLast?_append_of_ne_nil _ hhost.isHost.1] at hc
    exact hhost.last c hc
  | some d =>
    rw [hslash, Option.some_or] at hc
    cases hc
    rw [hslashes c (List.mem_of_getLast? hslash)]
    decide

theorem trimmed_written (hhost : IsHost host) (hslashes : ∀ c ∈ slashes, c = '/') :
    Text.dropTrailing (· == '/') (scheme ++ host ++ slashes) = scheme ++ host := by
  refine Text.dropTrailing_append_eq_left (fun c hc hslash => ?_) fun c hc => ?_
  · rw [List.getLast?_append_of_ne_nil _ hhost.1] at hc
    rw [beq_iff_eq.mp hslash] at hc
    exact hhost.2 (List.mem_of_getLast? hc)
  · exact beq_iff_eq.mpr (hslashes c hc)

/-- The host is found in every text that writes it. -/
theorem WritesHost.bareHost_eq (h : WritesHost host server) (hhost : IsPlainHost host) :
    bareHost server = host := by
  cases h with
  | @mk before scheme slashes behind hbefore hscheme hslashes hbehind hserver =>
    have hne : scheme ++ host ++ slashes ≠ [] := by simp [hhost.isHost.1]
    have htrimmed : trimmed server = scheme ++ host := by
      unfold trimmed
      rw [hserver, Text.trimBlanks_append hbefore hne (head?_written hhost hscheme)
        (getLast?_written hhost hslashes) hbehind, trimmed_written hhost.isHost hslashes]
    rcases hscheme with rfl | rfl
    · have hother : ¬ "https://".toList <+: trimmed server := by
        rintro ⟨rest, hrest⟩
        rw [htrimmed, List.nil_append] at hrest
        refine hhost.isHost.2 ?_
        rw [← hrest]
        simp
      rw [bareHost_of_other hother, htrimmed, List.nil_append]
    · exact bareHost_of_https htrimmed

theorem WritesHost.baseUrl_eq (h : WritesHost host server) (hhost : IsPlainHost host)
    (database : String) (credentials : Credentials) :
    baseUrl server database credentials =
      route ("https://" ++ String.ofList host) database credentials := by
  have hfound : IsHost (bareHost server) := by
    rw [h.bareHost_eq hhost]
    exact hhost.isHost
  rw [baseUrl_of_origin_ok (origin_of_isHost hfound), h.bareHost_eq hhost]

end Written

/-- With given credentials, layouts with one URL are one layout of one database at one origin, and
the URL tells the database and the layout again. It is never the URL for opening or closing a
session, of any server and database. All ways to write a host lead to one URL. -/
theorem urls_apart (credentials : Credentials) :
    (∀ t t' : Target credentials, t.url = t'.url →
      origin t.server = origin t'.server ∧ t.database = t'.database ∧ t.layout = t'.layout) ∧
    (∀ t : Target credentials, namesIn t.url = some (t.database, t.layout)) ∧
    (∀ (t : Target credentials) (credentials' : Credentials) (t' : Target credentials')
      (token : String), t.url ≠ sessionUrl t'.base token ∧ t.url ≠ sessionsUrl t'.base) ∧
    ∀ host, IsPlainHost host → ∀ server, WritesHost host server → ∀ database,
      baseUrl server database credentials =
        route ("https://" ++ String.ofList host) database credentials := by
  refine ⟨fun t t' h => ⟨Target.origin_eq_of_url_eq h, ?_⟩, Target.namesIn_url,
    fun t credentials' t' token => ⟨t.url_ne_sessionUrl t' token, t.url_ne_sessionsUrl t'⟩,
    fun host hhost server h database => h.baseUrl_eq hhost database credentials⟩
  have hnames : some (t.database, t.layout) = some (t'.database, t'.layout) := by
    rw [← t.namesIn_url, ← t'.namesIn_url, h]
  exact Prod.mk.inj (Option.some.inj hnames)

theorem urls_apart_of_spellings :
    let t : Target (.account "admin" "secret") :=
      ⟨"fm.example.com", "My/Contacts", "API %\u00e4",
        "https://fm.example.com/fmi/data/vLatest/databases/My%2FContacts", rfl⟩
    let t' : Target (.account "admin" "secret") :=
      ⟨" https://fm.example.com//\n", "My/Contacts", "API %\u00e4",
        "https://fm.example.com/fmi/data/vLatest/databases/My%2FContacts", rfl⟩
    (t.url = t'.url ∧ origin t.server = origin t'.server ∧ t.database = t'.database ∧
      t.layout = t'.layout) ∧
    IsPlainHost "fm.example.com".toList ∧ WritesHost "fm.example.com".toList t'.server ∧
      baseUrl t'.server "Sales" (.account "admin" "secret") =
        route "https://fm.example.com" "Sales" (.account "admin" "secret") := by
  intro t t'
  have hhost : IsPlainHost "fm.example.com".toList :=
    ⟨by decide, by simp [Text.isBlank], by simp [Text.isBlank]⟩
  have hwrites : WritesHost "fm.example.com".toList t'.server :=
    @WritesHost.mk _ _ [' '] _ ['/', '/'] ['\n'] (List.forall_mem_singleton.mpr (by decide))
      (.inr rfl) (by simp) (List.forall_mem_singleton.mpr (by decide)) (by decide)
  obtain ⟨hapart, -, -, hspelled⟩ := urls_apart (.account "admin" "secret")
  exact ⟨⟨rfl, hapart t t' rfl⟩, hhost, hwrites, hspelled _ hhost _ hwrites "Sales"⟩

end TypedLayouts.Server
