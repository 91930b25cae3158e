import TypedLayouts.Server.ApiError
import TypedLayouts.Text.Blank
import TypedLayouts.Text.Percent
import TypedLayouts.Text.Separator

/-!
# Addresses

Where the data of a database is found. A server is given as a host name or as an `https` URL without
a path; surrounding white space and trailing slashes do not matter. The kind of credentials decides
the route: accounts talk to the server itself, a key that starts with `KEY_` to the proxy on a port
of its own, and a key that starts with `dk_` to the proxy under a path of its own.
-/

namespace TypedLayouts.Server

/-- How to authenticate. -/
inductive Credentials where
  /-- An account; a session is opened when it is first needed. -/
  | account (username password : String)
  /-- A key of the proxy, and the port of the proxy if it is not the usual one. -/
  | apiKey (key : String) (port : Option UInt16)
  deriving DecidableEq, Repr

/-- The credentials as logs may show them: without the password or key. -/
def Credentials.redacted : Credentials → String
  | .account username _ =>
    "UserPassword \x7b username: " ++ Text.shown username ++ ", .. \x7d"
  | .apiKey _ port =>
    let shown :=
      match port with
      | none => "None"
      | some port => "Some(" ++ toString port.toNat ++ ")"
    "ApiKey \x7b otto_port: " ++ shown ++ ", .. \x7d"

/-- The port of the proxy when none is given. -/
def defaultProxyPort : UInt16 := 3030

/-- The origin with a host, for a server that was given as `server`. -/
def originAt (server : String) (host : List Char) : Except ApiError String :=
  if host.isEmpty || host.contains '/' then .error (.invalidServer server)
  else .ok ("https://" ++ String.ofList host)

/-- The origin of a server: `https://` and the host. -/
def origin (server : String) : Except ApiError String :=
  let trimmed := Text.dropTrailing (· == '/') (Text.trimBlanks server.toList)
  match Text.cutAt "://".toList trimmed with
  | none => originAt server trimmed
  | some (scheme, host) =>
    if scheme = "https".toList then originAt server host else .error (.invalidServer server)

/-- The URL of a database at an origin. -/
def route (origin database : String) (credentials : Credentials) : Except ApiError String :=
  let path := "/fmi/data/vLatest/databases/" ++ Text.percentEncode database
  match credentials with
  | .account _ _ => .ok (origin ++ path)
  | .apiKey key port =>
    if "dk_".toList.isPrefixOf key.toList then .ok (origin ++ "/otto" ++ path)
    else if "KEY_".toList.isPrefixOf key.toList then
      .ok (origin ++ ":" ++ toString (port.getD defaultProxyPort).toNat ++ path)
    else .error .invalidApiKey

/-- The URL of a database, to which the paths of requests are added. -/
def baseUrl (server database : String) (credentials : Credentials) : Except ApiError String := do
  route (← origin server) database credentials

/-- The URL of a layout of the database. -/
def layoutUrl (base layout : String) : String :=
  base ++ "/layouts/" ++ Text.percentEncode layout

/-- The URL at which sessions are opened. -/
def sessionsUrl (base : String) : String :=
  base ++ "/sessions"

/-- The URL of an open session. -/
def sessionUrl (base token : String) : String :=
  sessionsUrl base ++ "/" ++ token

end TypedLayouts.Server
