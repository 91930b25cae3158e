import TypedLayouts.Json.Decoder
import TypedLayouts.Text.Shown

/-!
# What can go wrong with a server

Each cause carries what its message mentions. `ApiError.message` is the wording, and `causes` lists
the message together with that of the underlying problem, where there is one.

What a decoder has to say about JSON that it refuses is its own. A problem with such an answer keeps
what was refused, and how that is described is an argument of its wording.
-/

namespace TypedLayouts.Server

/-- What a decoder refused. -/
inductive Refused where
  /-- A body, which is no envelope. -/
  | body (text : String)
  /-- The response in an envelope, which is not of the expected form. -/
  | response (value : Json)
  deriving Repr

/-- Why a request to a server failed, or why none was made. -/
inductive ApiError where
  /-- The server reported a problem with a code of its own. -/
  | api (code message : String)
  /-- The status says failure and the answer says nothing more. -/
  | http (status : Nat) (url : String)
  /-- No answer came. -/
  | transport (url cause : String)
  /-- The answer could not be read to its end. -/
  | unreadable (url cause : String)
  /-- The answer is not of the expected form. -/
  | unexpected (url : String) (refused : Refused) (category : Json.Category)
  /-- The login succeeded without giving a session token. -/
  | missingToken (url : String)
  /-- The text names no server. -/
  | invalidServer (server : String)
  /-- The key is of no known kind. -/
  | invalidApiKey
  deriving Repr

namespace ApiError

/-- The code with which the server reports that a layout does not exist. -/
def layoutMissingCode : String := "105"

/-- The server's own code for the problem. -/
def code? : ApiError → Option String
  | .api code _ => some code
  | _ => none

/-- The server knows no such layout. -/
def isLayoutMissing (e : ApiError) : Bool :=
  e.code? = some layoutMissingCode

/-- The wording of a problem. -/
def message (describe : Refused → String) : ApiError → String
  | .api code message => "FileMaker error " ++ code ++ ": " ++ message
  | .http status url => "HTTP " ++ toString status ++ " from " ++ url
  | .transport url cause => "request to " ++ url ++ " failed: " ++ cause
  | .unreadable url cause => "failed to read response from " ++ url ++ ": " ++ cause
  | .unexpected url refused _ => "unexpected response from " ++ url ++ ": " ++ describe refused
  | .missingToken url => "login to " ++ url ++ " returned no session token"
  | .invalidServer server =>
    "invalid server " ++ Text.shown server ++ ": expected a host name or https:// URL"
  | .invalidApiKey =>
    "unrecognized API key: expected a key starting with \"KEY_\" or \"dk_\""

/-- The wording of a problem and of what lies beneath it. -/
def causes (describe : Refused → String) (e : ApiError) : List String :=
  match e with
  | .transport _ cause => [e.message describe, cause]
  | .unreadable _ cause => [e.message describe, cause]
  | .unexpected _ refused _ => [e.message describe, describe refused]
  | _ => [e.message describe]

end ApiError

end TypedLayouts.Server
