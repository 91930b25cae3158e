import TypedLayouts.Server.Session

/-!
# Histories of a session

What a server sees of a session is the list of requests that it sends. A history keeps each of them
with the reply that came back. The server is arbitrary: its reply may depend on the request and on
everything that was exchanged before, so a list of replies prepared in advance is a special case.

The operations of a session are stated over any way of sending. For one that records what it sends,
each has an equation here that gives its result, the session it leaves and the longer history.
-/

namespace TypedLayouts.Server

/-- A request with what came back for it. -/
structure Exchange where
  /-- The request. -/
  request : Request
  /-- What came back. -/
  reply : Reply
  deriving DecidableEq, Repr

/-- Everything exchanged so far, in order. -/
abbrev History := List Exchange

/-- The replies of a server to a request, after what was exchanged before it. -/
abbrev Replies := History → Request → Reply

/-- A request with the reply of a server that has seen a history. -/
def answered (replies : Replies) (history : History) (request : Request) : Exchange :=
  ⟨request, replies history request⟩

/-- The way of sending that keeps the history. -/
def recording (replies : Replies) : Send (StateM History) := fun request history =>
  ((answered replies history request).reply, history ++ [answered replies history request])

namespace Exchange

/-- The token that a login delivers, or why there is none. -/
def login (e : Exchange) : Except ApiError String := do
  match Session.tokenOf (← e.reply.response e.request.url) with
  | some token => .ok token
  | none => .error (.missingToken e.request.url)

/-- The token of the session that a login opens. -/
def opened (e : Exchange) : Option String :=
  e.login.toOption

/-- What the server says about a layout, or why it says nothing. -/
def layoutResponse (e : Exchange) : Except ApiError LayoutResponse := do
  decodeResponse LayoutResponse.decoder e.request.url (← e.reply.response e.request.url)

/-- Whether a session was closed, or why not. -/
def logout (e : Exchange) : Except ApiError Unit :=
  (e.reply.response e.request.url).map fun _ => ()

end Exchange

/-- What the user of a session may ask of it. -/
inductive Operation where
  /-- The server's answer about a layout. -/
  | layout (name : String)
  /-- The metadata of a layout. -/
  | fetch (name : String)
  /-- The end of the open session. -/
  | logout
  deriving DecidableEq, Repr

namespace Operation

variable {m : Type → Type} [Monad m]

/-- Perform an operation; what counts here is the session that it leaves. -/
def perform (send : Send m) (op : Operation) (s : Session) : m Session :=
  match op with
  | .layout name => return (← s.layoutResponse send name).2
  | .fetch name => return (← s.fetchMetadata send name).2
  | .logout => return (← s.logout send).2

/-- Perform several operations in order. -/
def performAll (send : Send m) : List Operation → Session → m Session
  | [], s => return s
  | op :: ops, s => do performAll send ops (← op.perform send s)

end Operation

namespace Session

/-- The whole life of a session: some operations, and then its end. -/
def live {m : Type → Type} [Monad m] (send : Send m) (ops : List Operation) (s : Session) :
    m Unit := do
  close send (← Operation.performAll send ops s)

/-- The history of the whole life of a session. -/
def history (replies : Replies) (ops : List Operation) (s : Session) : History :=
  ((live (recording replies) ops s).run []).2

/-! ## One equation for each operation -/

section Equations

variable {replies : Replies} {history : History} {s : Session}

/-- Sending adds one exchange to the history and goes on with its reply. -/
theorem recording_bind {α : Type} (request : Request) (f : Reply → StateM History α) :
    (recording replies request >>= f).run history =
      (f (answered replies history request).reply).run
        (history ++ [answered replies history request]) :=
  rfl

/-- A login is one exchange; its token is kept, and without a token the session stays as it was. -/
theorem login_run (replies : Replies) (history : History) (s : Session)
    (username password : String) :
    (login (recording replies) username password s).run history =
      (let e := answered replies history (loginRequest s.base username password)
      match e.login with
      | .ok token => ((.ok token, { s with token := some token }), history ++ [e])
      | .error cause => ((.error cause, s), history ++ [e])) := by
  unfold login Exchange.login
  simp only [recording_bind]
  have hurl : (answered replies history (loginRequest s.base username password)).request.url =
      (loginRequest s.base username password).url := rfl
  rw [hurl]
  cases (answered replies history (loginRequest s.base username password)).reply.response
      (loginRequest s.base username password).url with
  | error cause => rfl
  | ok response =>
    simp only [bind, Except.bind]
    cases tokenOf response with
    | none => rfl
    | some token => rfl

/-- A key is its own bearer token, and nothing is sent for it. -/
theorem bearer_apiKey {key : String} {port : Option UInt16} (h : s.credentials = .apiKey key port) :
    (bearer (recording replies) s).run history = ((.ok key, s), history) := by
  unfold bearer
  rw [h]
  rfl

/-- A token that is held is used again, and nothing is sent for it. -/
theorem bearer_held {username password token : String}
    (h : s.credentials = .account username password) (ht : s.token = some token) :
    (bearer (recording replies) s).run history = ((.ok token, s), history) := by
  unfold bearer
  rw [h, ht]
  rfl

/-- An account without a token logs in. -/
theorem bearer_login {username password : String}
    (h : s.credentials = .account username password) (ht : s.token = none) :
    bearer (recording replies) s = login (recording replies) username password s := by
  unfold bearer
  rw [h, ht]

/-- Without a bearer token nothing is asked about a layout. -/
theorem layoutResponse_refused {layout : String} {cause : ApiError} {s' : Session}
    {history' : History}
    (h : (bearer (recording replies) s).run history = ((.error cause, s'), history')) :
    (layoutResponse (recording replies) layout s).run history =
      ((.error cause, s'), history') := by
  unfold layoutResponse
  rw [StateT.run_bind, h]
  rfl

/-- With a bearer token there is one exchange about the layout. -/
theorem layoutResponse_asked {layout token : String} {s' : Session} {history' : History}
    (h : (bearer (recording replies) s).run history = ((.ok token, s'), history')) :
    (layoutResponse (recording replies) layout s).run history =
      (let e := answered replies history' (layoutRequest s'.base token layout)
      ((e.layoutResponse, s'), history' ++ [e])) := by
  unfold layoutResponse
  rw [StateT.run_bind, h]
  rfl

/-- Fetching metadata exchanges what asking about the layout does. -/
theorem fetchMetadata_run (layout : String) :
    (fetchMetadata (recording replies) layout s).run history =
      (let r := (layoutResponse (recording replies) layout s).run history
      ((match r.1.1 with
        | .ok response => .ok response.metadata
        | .error e => .error (if e.isLayoutMissing then .notFound layout else .failed layout e),
        r.1.2), r.2)) := by
  unfold fetchMetadata
  rw [StateT.run_bind]
  rcases (layoutResponse (recording replies) layout s).run history with ⟨⟨answer, s'⟩, history'⟩
  cases answer with
  | ok response => rfl
  | error e => rfl

/-- Without a token there is nothing to close. -/
theorem logout_none (h : s.token = none) :
    (logout (recording replies) s).run history = ((.ok (), s), history) := by
  unfold logout
  rw [h]
  rfl

/-- A token that is held is given up with one exchange. -/
theorem logout_some {token : String} (h : s.token = some token) :
    (logout (recording replies) s).run history =
      (let e := answered replies history (logoutRequest s.base token)
      ((e.logout, { s with token := none }), history ++ [e])) := by
  unfold logout
  rw [h]
  rfl

end Equations

/-- The history of a whole life is that of its operations and then of closing. -/
theorem history_eq_logout {replies : Replies} {ops : List Operation} {s s' : Session}
    {history' : History}
    (h : (Operation.performAll (recording replies) ops s).run [] = (s', history')) :
    s.history replies ops = ((s'.logout (recording replies)).run history').2 := by
  unfold history live
  rw [StateT.run_bind, h]
  rfl

end Session

namespace Operation

variable {replies : Replies} {history : History} {s : Session} {op : Operation}

end Operation

end TypedLayouts.Server
