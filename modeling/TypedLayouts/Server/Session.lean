import TypedLayouts.Layout.FetchError
import TypedLayouts.Server.Address
import TypedLayouts.Server.Envelope
import TypedLayouts.Server.LayoutResponse
import TypedLayouts.Text.Base64

/-!
# Sessions

A `Session` is the client's side of a conversation with a server. With an account it holds at most
one token: the first request for a layout logs in, later ones use the same token, and logging out
gives the token up before the server is told, so that it is never used or closed twice. With a key
every request carries the key and there is nothing to open or close.

The operations are stated over any way of sending a request, a monad `m` with `send`; what is sent
and in which order is all that the outside can see of them.
-/

namespace TypedLayouts.Server

/-- The method of a request. -/
inductive Method where
  /-- Ask for something. -/
  | get
  /-- Create something. -/
  | post
  /-- Remove something. -/
  | delete
  deriving DecidableEq, Repr

/-- The name of a method. -/
def Method.name : Method → String
  | .get => "GET"
  | .post => "POST"
  | .delete => "DELETE"

/-- A request as it is sent. -/
structure Request where
  /-- The method. -/
  method : Method
  /-- The URL. -/
  url : String
  /-- The headers in the order in which they are set. -/
  headers : List (String × String) := []
  /-- The body. -/
  body : Option String := none
  deriving DecidableEq, Repr

/-- What comes back for a request. -/
inductive Reply where
  /-- An answer with a status and a body. -/
  | answer (status : Nat) (body : String)
  /-- No answer. -/
  | unreachable (cause : String)
  /-- An answer whose body cannot be read. -/
  | unreadable (cause : String)
  deriving DecidableEq, Repr

/-- The response that a reply to a request to `url` delivers. -/
def Reply.response (url : String) : Reply → Except ApiError Json
  | .answer status body => Server.response url status body
  | .unreachable cause => .error (.transport url cause)
  | .unreadable cause => .error (.unreadable url cause)

/-- A way of sending requests. -/
abbrev Send (m : Type → Type) := Request → m Reply

/-- The client's side of a conversation with a server. -/
structure Session where
  /-- The URL of the database. -/
  base : String
  /-- How to authenticate. -/
  credentials : Credentials
  /-- The token of the open session. -/
  token : Option String := none
  deriving DecidableEq, Repr

namespace Session

/-- The session to be had with a server; nothing is sent yet. -/
def start (server database : String) (credentials : Credentials) : Except ApiError Session := do
  return { base := ← baseUrl server database credentials, credentials }

/-- The request that opens a session for an account. -/
def loginRequest (base username password : String) : Request where
  method := .post
  url := sessionsUrl base
  headers :=
    [("Authorization", "Basic " ++ Text.base64OfString (username ++ ":" ++ password)),
      ("Content-Type", "application/json")]
  body := some "\x7b\x7d"

/-- The request for the metadata of a layout. -/
def layoutRequest (base bearer layout : String) : Request where
  method := .get
  url := layoutUrl base layout
  headers := [("Authorization", "Bearer " ++ bearer)]

/-- The request that closes a session. -/
def logoutRequest (base token : String) : Request where
  method := .delete
  url := sessionUrl base token

/-- The token in the response to a login; there must be one, and not an empty one. -/
def tokenOf (response : Json) : Option String :=
  let decoder : Json.Decoder (Option String) :=
    Json.Decoder.record [⟨"token", fun r _ => return some (← Json.Decoder.string r)⟩] none
  match decoder response.toReading with
  | .ok (some token) => if token.isEmpty then none else some token
  | _ => none

variable {m : Type → Type} [Monad m]

/-- An operation of a session: it may fail, and the session it leaves counts all the same. -/
abbrev Op (m : Type → Type) (α : Type) := Session → m (Except ApiError α × Session)

/-- Log in and keep the token. -/
def login (send : Send m) (username password : String) : Op m String := fun s => do
  let request := loginRequest s.base username password
  let reply ← send request
  match reply.response request.url with
  | .error e => return (.error e, s)
  | .ok response =>
    match tokenOf response with
    | none => return (.error (.missingToken request.url), s)
    | some token => return (.ok token, { s with token := some token })

/-- The bearer token for a request: the key, the token that is held, or that of a new login. -/
def bearer (send : Send m) : Op m String := fun s =>
  match s.credentials, s.token with
  | .apiKey key _, _ => return (.ok key, s)
  | .account _ _, some token => return (.ok token, s)
  | .account username password, none => login send username password s

/-- What the server answers about a layout. -/
def layoutResponse (send : Send m) (layout : String) : Op m LayoutResponse := fun s => do
  match ← bearer send s with
  | (.error e, s) => return (.error e, s)
  | (.ok bearer, s) =>
    let request := layoutRequest s.base bearer layout
    let reply ← send request
    let answer := do
      decodeResponse LayoutResponse.decoder request.url (← reply.response request.url)
    return (answer, s)

/-- Close the open session, if there is one. -/
def logout (send : Send m) : Op m Unit := fun s =>
  match s.token with
  | none => return (.ok (), s)
  | some token => do
    let request := logoutRequest s.base token
    let reply ← send request
    return ((reply.response request.url).map fun _ => (), { s with token := none })

/-- End the conversation: an open session is closed, and a failure of that is of no interest. -/
def close (send : Send m) (s : Session) : m Unit := do
  let _ ← logout send s

/-- The metadata of a layout. Only the server's report that the layout is missing counts as not
found. -/
def fetchMetadata (send : Send m) (layout : String) (s : Session) :
    m (Except (Layout.FetchError ApiError) Layout.Metadata × Session) := do
  match ← layoutResponse send layout s with
  | (.ok response, s) => return (.ok response.metadata, s)
  | (.error e, s) =>
    return (.error (if e.isLayoutMissing then .notFound layout else .failed layout e), s)

end Session

end TypedLayouts.Server
