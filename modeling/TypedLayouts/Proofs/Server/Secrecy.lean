import TypedLayouts.Proofs.Server.History

/-!
# Where credentials go

A password or an API key is for the server alone: it stands in the header with which a request
identifies its sender, and nowhere else. So two sessions that differ in nothing but such a secret
cannot be told apart by what they answer, nor by what they send, once that header is concealed. An
account shows its secret when it logs in, a key with each request about a layout.

What carries the proof is that the sessions stay alike: they have the same token, since that is what
the server gave, and it gives the same to both as long as it does not look at the secret.
-/

namespace TypedLayouts.Server

open Layout (FetchError Metadata)

/-! ## What is secret -/

/-- Two keys are for the same proxy, or for none. -/
def SameRoute (key key' : String) : Prop :=
  ("dk_".toList.isPrefixOf key.toList = "dk_".toList.isPrefixOf key'.toList) ∧
    ("KEY_".toList.isPrefixOf key.toList = "KEY_".toList.isPrefixOf key'.toList)

instance (key key' : String) : Decidable (SameRoute key key') :=
  inferInstanceAs (Decidable (_ ∧ _))

/-- Credentials that differ in what is secret: two accounts, or two keys of one kind and port. -/
def Credentials.Alike : Credentials → Credentials → Prop
  | .account _ _, .account _ _ => True
  | .apiKey key port, .apiKey key' port' => SameRoute key key' ∧ port = port'
  | _, _ => False

/-- The method of the requests that show the secret. -/
def Credentials.shownBy : Credentials → Method
  | .account _ _ => .post
  | .apiKey _ _ => .get

/-- A header without the value that identifies the sender. -/
def concealHeader (header : String × String) : String × String :=
  if header.1 = "Authorization" then (header.1, "") else header

/-- A request without the secret, which only requests of one method show. -/
def Request.concealed (method : Method) (r : Request) : Request :=
  if r.method = method then { r with headers := r.headers.map concealHeader } else r

/-- An exchange without the secret. -/
def Exchange.concealed (method : Method) (e : Exchange) : Exchange :=
  ⟨e.request.concealed method, e.reply⟩

/-- A history without the secret. -/
def History.concealed (method : Method) (history : History) : History :=
  history.map (Exchange.concealed method)

/-- A server that replies alike to what differs in nothing but the secret. -/
def Replies.Blind (method : Method) (replies : Replies) : Prop :=
  ∀ history history' request request',
    History.concealed method history = History.concealed method history' →
    Request.concealed method request = Request.concealed method request' →
    replies history request = replies history' request'

/-- A server that gives prepared replies, one for each request, whatever is asked. -/
def Replies.script (prepared : List Reply) : Replies := fun history _ =>
  prepared.getD history.length (.unreachable "no reply is left")

theorem Replies.script_blind (method : Method) (prepared : List Reply) :
    (script prepared).Blind method := by
  intro history history' request request' h _
  have hlength := congrArg List.length h
  unfold History.concealed at hlength
  rw [List.length_map, List.length_map] at hlength
  unfold script
  rw [hlength]

/-! ## What a session answers -/

/-- The answer to an operation. -/
inductive Operation.Answer where
  /-- What the server says about a layout. -/
  | layout (answer : Except ApiError LayoutResponse)
  /-- The metadata of a layout. -/
  | fetch (answer : Except (FetchError ApiError) Metadata)
  /-- How the end of the session went. -/
  | logout (answer : Except ApiError Unit)

/-- What an answer has to say when it reports a problem, with refused answers described in some way.
-/
def Operation.Answer.texts (describe : Refused → String) : Operation.Answer → List String
  | .layout (.error e) => e.causes describe
  | .fetch (.error e) => e.causes (ApiError.causes describe)
  | .logout (.error e) => e.causes describe
  | _ => []

namespace Operation

section Answers

variable {m : Type → Type} [Monad m]

/-- Perform an operation and keep its answer. -/
def ask (send : Send m) (op : Operation) (s : Session) : m (Answer × Session) := do
  match op with
  | .layout name =>
    let (answer, s) ← s.layoutResponse send name
    return (.layout answer, s)
  | .fetch name =>
    let (answer, s) ← s.fetchMetadata send name
    return (.fetch answer, s)
  | .logout =>
    let (answer, s) ← s.logout send
    return (.logout answer, s)

/-- Perform several operations in order and keep their answers. -/
def askAll (send : Send m) : List Operation → Session → m (List Answer × Session)
  | [], s => return ([], s)
  | op :: ops, s => do
    let (answer, s) ← op.ask send s
    let (answers, s) ← askAll send ops s
    return (answer :: answers, s)

end Answers

end Operation

/-- The answers to the operations in the life of a session. -/
def Session.answers (replies : Replies) (ops : List Operation) (s : Session) :
    List Operation.Answer :=
  ((Operation.askAll (recording replies) ops s).run []).1.1

namespace Operation

variable {replies : Replies} {history : History} {s : Session}

/-- Asking is performing, with the answer kept. -/
theorem perform_eq_ask (op : Operation) :
    (op.perform (recording replies) s).run history =
      (let r := (op.ask (recording replies) s).run history
      (r.1.2, r.2)) := by
  cases op with
  | layout name => rfl
  | fetch name => rfl
  | logout => rfl

theorem askAll_cons (op : Operation) (ops : List Operation) :
    (askAll (recording replies) (op :: ops) s).run history =
      (let r := (op.ask (recording replies) s).run history
      let r' := (askAll (recording replies) ops r.1.2).run r.2
      ((r.1.1 :: r'.1.1, r'.1.2), r'.2)) :=
  rfl

theorem performAll_eq_askAll (ops : List Operation) :
    (performAll (recording replies) ops s).run history =
      (let r := (askAll (recording replies) ops s).run history
      (r.1.2, r.2)) := by
  induction ops generalizing s history with
  | nil => rfl
  | cons op ops ih =>
    unfold performAll
    rw [StateT.run_bind, perform_eq_ask, askAll_cons]
    exact ih

end Operation

/-! ## What is the same for both -/

section Concealed

variable {method : Method} {request request' : Request} {e e' : Exchange}
  {history history' : History}

theorem Request.url_of_concealed (h : request.concealed method = request'.concealed method) :
    request.url = request'.url := by
  have hurl : ∀ r : Request, (r.concealed method).url = r.url := by
    intro r
    unfold concealed
    split
    · rfl
    · rfl
  rw [← hurl request, h, hurl]

theorem Exchange.url_of_concealed (h : e.concealed method = e'.concealed method) :
    e.request.url = e'.request.url :=
  Request.url_of_concealed (Exchange.mk.inj h).1

theorem Exchange.reply_of_concealed (h : e.concealed method = e'.concealed method) :
    e.reply = e'.reply :=
  (Exchange.mk.inj h).2

/-- Exchanges that differ in the secret alone mean the same: their meaning is in the URL and the
reply. -/
theorem Exchange.meaning_of_concealed (h : e.concealed method = e'.concealed method) :
    e.login = e'.login ∧ e.layoutResponse = e'.layoutResponse ∧ e.logout = e'.logout := by
  unfold login layoutResponse logout
  rw [url_of_concealed h, reply_of_concealed h]
  exact ⟨rfl, rfl, rfl⟩

theorem answered_concealed {replies : Replies} (hr : replies.Blind method)
    (hh : history.concealed method = history'.concealed method)
    (hq : request.concealed method = request'.concealed method) :
    (answered replies history request).concealed method =
      (answered replies history' request').concealed method := by
  unfold answered Exchange.concealed
  rw [hq, hr history history' request request' hh hq]

theorem History.concealed_append (h : history.concealed method = history'.concealed method)
    (he : e.concealed method = e'.concealed method) :
    History.concealed method (history ++ [e]) = History.concealed method (history' ++ [e']) := by
  unfold concealed at h ⊢
  rw [List.map_append, List.map_append, h, List.map_singleton, List.map_singleton, he]

end Concealed

/-- Sessions that differ in nothing but the secret. -/
structure Session.Alike (s s' : Session) : Prop where
  /-- They are with one database. -/
  base : s.base = s'.base
  /-- Their credentials differ in the secret alone. -/
  credentials : s.credentials.Alike s'.credentials
  /-- They hold the same token. -/
  token : s.token = s'.token

/-- Two runs that cannot be told apart: they give one answer, leave alike sessions behind, and have
histories that differ in the secret alone. -/
structure Indistinct {α : Type} (method : Method) (r r' : (α × Session) × History) : Prop where
  /-- The answers are the same. -/
  answer : r.1.1 = r'.1.1
  /-- The sessions are alike. -/
  session : r.1.2.Alike r'.1.2
  /-- The credentials show the secret in requests of this method. -/
  shown : r.1.2.credentials.shownBy = method
  /-- The histories are the same but for the secret. -/
  history : History.concealed method r.2 = History.concealed method r'.2

/-! ## One operation of two sessions -/

namespace Session

variable {method : Method} {replies : Replies} {s s' : Session} {history history' : History}

section Requests

/-- With bearer tokens in hand that only concealed headers show, the layout is asked about alike. -/
theorem asked_indistinct {t t' : Session} {sent sent' : History} {token token' layout : String}
    (hr : replies.Blind method)
    (hb : (bearer (recording replies) s).run history = ((.ok token, t), sent))
    (hb' : (bearer (recording replies) s').run history' = ((.ok token', t'), sent'))
    (hs : t.Alike t') (hm : t.credentials.shownBy = method)
    (hh : sent.concealed method = sent'.concealed method)
    (hq : (layoutRequest t.base token layout).concealed method =
      (layoutRequest t'.base token' layout).concealed method) :
    Indistinct method ((s.layoutResponse (recording replies) layout).run history)
      ((s'.layoutResponse (recording replies) layout).run history') := by
  rw [layoutResponse_asked hb, layoutResponse_asked hb']
  have he := answered_concealed hr hh hq
  exact ⟨(Exchange.meaning_of_concealed he).2.1, hs, hm, History.concealed_append hh he⟩

/-- The logins of two accounts with one database differ in the secret alone. -/
theorem loginRequest_concealed (base username password username' password' : String) :
    (loginRequest base username password).concealed .post =
      (loginRequest base username' password').concealed .post := by
  unfold Request.concealed loginRequest concealHeader
  simp

/-- The requests about a layout with two keys differ in the secret alone. -/
theorem layoutRequest_concealed (base key key' layout : String) :
    (layoutRequest base key layout).concealed .get =
      (layoutRequest base key' layout).concealed .get := by
  unfold Request.concealed layoutRequest concealHeader
  simp

end Requests

theorem layoutResponse_indistinct (hr : replies.Blind method) (hs : s.Alike s')
    (hm : s.credentials.shownBy = method)
    (hh : history.concealed method = history'.concealed method) (layout : String) :
    Indistinct method ((s.layoutResponse (recording replies) layout).run history)
      ((s'.layoutResponse (recording replies) layout).run history') := by
  obtain ⟨base, credentials, token⟩ := s
  obtain ⟨base', credentials', token'⟩ := s'
  obtain ⟨rfl, halike, rfl⟩ := hs
  cases credentials with
  | apiKey key port =>
    cases credentials' with
    | account username password => cases halike
    | apiKey key' port' =>
      cases hm
      exact asked_indistinct hr (bearer_apiKey rfl) (bearer_apiKey rfl) ⟨rfl, halike, rfl⟩ rfl hh
        (layoutRequest_concealed base key key' layout)
  | account username password =>
    cases credentials' with
    | apiKey key port => cases halike
    | account username' password' =>
      cases hm
      cases token with
      | some token =>
        exact asked_indistinct hr (bearer_held rfl rfl) (bearer_held rfl rfl) ⟨rfl, halike, rfl⟩ rfl
          hh rfl
      | none =>
        have hrun := login_run replies history ⟨base, .account username password, none⟩
          username password
        have hrun' := login_run replies history' ⟨base, .account username' password', none⟩
          username' password'
        rw [← bearer_login rfl rfl] at hrun hrun'
        have he := answered_concealed hr hh
          (loginRequest_concealed base username password username' password')
        have hsent := History.concealed_append hh he
        have hlogin := (Exchange.meaning_of_concealed he).1
        dsimp only at hrun hrun'
        rw [← hlogin] at hrun'
        -- Both logins fail alike, or give both sessions the same token.
        cases hl : (answered replies history (loginRequest base username password)).login with
        | error cause =>
          rw [hl] at hrun hrun'
          rw [layoutResponse_refused hrun, layoutResponse_refused hrun']
          exact ⟨rfl, ⟨rfl, halike, rfl⟩, rfl, hsent⟩
        | ok token =>
          rw [hl] at hrun hrun'
          exact asked_indistinct hr hrun hrun' ⟨rfl, halike, rfl⟩ rfl hsent rfl

theorem fetchMetadata_indistinct (hr : replies.Blind method) (hs : s.Alike s')
    (hm : s.credentials.shownBy = method)
    (hh : history.concealed method = history'.concealed method) (layout : String) :
    Indistinct method ((s.fetchMetadata (recording replies) layout).run history)
      ((s'.fetchMetadata (recording replies) layout).run history') := by
  obtain ⟨ha, hs, hm, hh⟩ := layoutResponse_indistinct hr hs hm hh layout
  rw [fetchMetadata_run, fetchMetadata_run]
  refine ⟨?_, hs, hm, hh⟩
  dsimp only
  rw [ha]

theorem logout_indistinct (hr : replies.Blind method) (hs : s.Alike s')
    (hm : s.credentials.shownBy = method)
    (hh : history.concealed method = history'.concealed method) :
    Indistinct method ((s.logout (recording replies)).run history)
      ((s'.logout (recording replies)).run history') := by
  obtain ⟨hbase, halike, htoken⟩ := hs
  cases ht : s.token with
  | none =>
    rw [logout_none ht, logout_none (htoken ▸ ht)]
    exact ⟨rfl, ⟨hbase, halike, htoken⟩, hm, hh⟩
  | some token =>
    rw [logout_some ht, logout_some (htoken ▸ ht)]
    have he := answered_concealed hr hh
      (congrArg (Request.concealed method) (congrArg (logoutRequest · token) hbase))
    exact ⟨(Exchange.meaning_of_concealed he).2.2, ⟨hbase, halike, rfl⟩, hm,
      History.concealed_append hh he⟩

end Session

/-! ## The lives of two sessions -/

namespace Operation

variable {method : Method} {replies : Replies} {s s' : Session} {history history' : History}

theorem ask_indistinct (op : Operation) (hr : replies.Blind method) (hs : s.Alike s')
    (hm : s.credentials.shownBy = method)
    (hh : history.concealed method = history'.concealed method) :
    Indistinct method ((op.ask (recording replies) s).run history)
      ((op.ask (recording replies) s').run history') := by
  cases op with
  | layout name =>
    obtain ⟨ha, hs, hm, hh⟩ := Session.layoutResponse_indistinct hr hs hm hh name
    exact ⟨congrArg Answer.layout ha, hs, hm, hh⟩
  | fetch name =>
    obtain ⟨ha, hs, hm, hh⟩ := Session.fetchMetadata_indistinct hr hs hm hh name
    exact ⟨congrArg Answer.fetch ha, hs, hm, hh⟩
  | logout =>
    obtain ⟨ha, hs, hm, hh⟩ := Session.logout_indistinct hr hs hm hh
    exact ⟨congrArg Answer.logout ha, hs, hm, hh⟩

theorem askAll_indistinct (ops : List Operation) (hr : replies.Blind method) (hs : s.Alike s')
    (hm : s.credentials.shownBy = method)
    (hh : history.concealed method = history'.concealed method) :
    Indistinct method ((askAll (recording replies) ops s).run history)
      ((askAll (recording replies) ops s').run history') := by
  induction ops generalizing s s' history history' with
  | nil => exact ⟨rfl, hs, hm, hh⟩
  | cons op ops ih =>
    obtain ⟨ha, hs, hm, hh⟩ := op.ask_indistinct hr hs hm hh
    obtain ⟨hrest, hs, hm, hh⟩ := ih hs hm hh
    rw [askAll_cons, askAll_cons]
    refine ⟨?_, hs, hm, hh⟩
    dsimp only
    rw [ha, hrest]

end Operation

namespace Session

variable {method : Method} {replies : Replies} {s s' : Session}

theorem history_eq_askAll (ops : List Operation) :
    s.history replies ops =
      (let r := (Operation.askAll (recording replies) ops s).run []
      ((r.1.2.logout (recording replies)).run r.2).2) :=
  history_eq_logout (Operation.performAll_eq_askAll ops)

theorem life_indistinct (ops : List Operation) (hr : replies.Blind method) (hs : s.Alike s')
    (hm : s.credentials.shownBy = method) :
    s.answers replies ops = s'.answers replies ops ∧
      (s.history replies ops).concealed method = (s'.history replies ops).concealed method := by
  have hempty : History.concealed method [] = History.concealed method [] := rfl
  obtain ⟨ha, hs, hm, hh⟩ := Operation.askAll_indistinct ops hr hs hm hempty
  refine ⟨ha, ?_⟩
  rw [history_eq_askAll, history_eq_askAll]
  exact (logout_indistinct hr hs hm hh).history

end Session

/-! ## Secrets and databases -/

/-- Where a database is found does not depend on the secret, nor does the reason why it is not. -/
theorem baseUrl_alike (server database : String) {credentials credentials' : Credentials}
    (h : credentials.Alike credentials') :
    baseUrl server database credentials = baseUrl server database credentials' := by
  cases credentials with
  | account username password =>
    cases credentials' with
    | account username' password' => rfl
    | apiKey key port => cases h
  | apiKey key port =>
    cases credentials' with
    | account username password => cases h
    | apiKey key' port' =>
      obtain ⟨⟨hdirect, hproxied⟩, rfl⟩ := h
      unfold baseUrl route
      dsimp only
      rw [hdirect, hproxied]

/-- Credentials flow into the headers that identify the sender, and nowhere else. Where two sessions
are to be had with one database, and their credentials differ in nothing but a secret, either
neither can be had, for the same reason, or both can; and then, whatever is asked of them, they give
the same answers and send the same requests but for the header that shows the secret, if the server
does not look at it. The same holds for the texts of all problems, however a refused answer is
described. The credentials that logs show do not depend on the secret. -/
theorem Session.secrecy (server database : String) {credentials credentials' : Credentials}
    (h : credentials.Alike credentials') (replies : Replies)
    (hr : replies.Blind credentials.shownBy) (ops : List Operation) :
    (match start server database credentials, start server database credentials' with
      | .ok s, .ok s' => s.base = s'.base ∧ s.answers replies ops = s'.answers replies ops ∧
          (∀ describe, (s.answers replies ops).map (Operation.Answer.texts describe) =
            (s'.answers replies ops).map (Operation.Answer.texts describe)) ∧
          (s.history replies ops).concealed credentials.shownBy =
            (s'.history replies ops).concealed credentials.shownBy
      | .error e, .error e' => e = e' ∧ ∀ describe, e.causes describe = e'.causes describe
      | _, _ => False) ∧
      (∀ username password password', (Credentials.account username password).redacted =
        (Credentials.account username password').redacted) ∧
      ∀ key key' port,
        (Credentials.apiKey key port).redacted = (Credentials.apiKey key' port).redacted := by
  refine ⟨?_, fun _ _ _ => rfl, fun _ _ _ => rfl⟩
  unfold start
  rw [baseUrl_alike server database h]
  cases baseUrl server database credentials' with
  | error e => exact ⟨rfl, fun _ => rfl⟩
  | ok base =>
    have halike : Alike ⟨base, credentials, none⟩ ⟨base, credentials', none⟩ := ⟨rfl, h, rfl⟩
    obtain ⟨hanswers, hhistory⟩ := life_indistinct ops hr halike rfl
    exact ⟨rfl, hanswers, fun describe => by rw [hanswers], hhistory⟩

/-- Two accounts at a server that opens a session for either, then cannot be reached, and then says
nothing to the purpose. -/
theorem Session.secrecy_of_prepared_replies :
    let credentials : Credentials := .account "admin" "secret"
    let credentials' : Credentials := .account "root" "hunter2"
    let replies := Replies.script
      [.answer 200 "\x7b\"response\": \x7b\"token\": \"t\"\x7d, \"messages\": []\x7d",
        .unreachable "connection reset", .answer 200 "Bad Gateway"]
    let ops : List Operation := [.fetch "A", .layout "B", .logout]
    credentials.Alike credentials' ∧ replies.Blind credentials.shownBy ∧
      ∃ s s', start "fm.example.com" "Sales" credentials = .ok s ∧
        start "fm.example.com" "Sales" credentials' = .ok s' ∧
        s.answers replies ops = s'.answers replies ops ∧
        (∀ describe, (s.answers replies ops).map (Operation.Answer.texts describe) =
          (s'.answers replies ops).map (Operation.Answer.texts describe)) ∧
        (s.history replies ops).concealed .post = (s'.history replies ops).concealed .post := by
  intro credentials credentials' replies ops
  have halike : credentials.Alike credentials' := trivial
  have hblind : replies.Blind credentials.shownBy := Replies.script_blind _ _
  have hlife := (secrecy "fm.example.com" "Sales" halike replies hblind ops).1
  exact ⟨halike, hblind, _, _, rfl, rfl, hlife.2⟩

end TypedLayouts.Server
