import TypedLayouts.Json.Decoder
import TypedLayouts.Server.ApiError

/-!
# Envelopes

Every answer of a server comes in an envelope: a response and messages, each with a code. A code
other than `0` means failure whatever the HTTP status is, and the first such code is the one
reported. Servers send codes as strings and some proxies as numbers; any value counts as its compact
text.
-/

namespace TypedLayouts.Server

open Json (Decoder)
open Json.Decoder (string list nullable record require)

/-- One message of an envelope. -/
structure Message where
  /-- The code; `0` means success. -/
  code : String
  /-- The wording. -/
  text : String := ""
  deriving DecidableEq, Repr

/-- The envelope around every answer. -/
structure Envelope where
  /-- The answer itself. -/
  response : Option Json := none
  /-- The messages in order. -/
  messages : List Message := []

/-- The code that a value stands for. -/
def Message.codeOf : Json → String
  | .string s => s
  | v => v.render

/-- A message under construction. -/
structure Message.Draft where
  /-- The code, once it is read. -/
  code : Option String := none
  /-- The wording. -/
  text : String := ""

/-- One message. Its code stands inside the envelope, the list of messages and the message. -/
def Message.decoder : Decoder Message := fun r => do
  let draft ← record
    [⟨"code", fun r d => return { d with code := some (codeOf (← Decoder.value 3 r)) }⟩,
      ⟨"message", fun r d => return { d with text := ← string r }⟩]
    ({} : Draft) r
  return ⟨← require draft.code, draft.text⟩

/-- An envelope. -/
def Envelope.decoder : Decoder Envelope :=
  record
    [⟨"response", fun r e => return { e with response := ← nullable (Decoder.value 1) r }⟩,
      ⟨"messages", fun r e => return { e with messages := ← list Message.decoder r }⟩]
    {}

/-- The statuses that say failure. -/
def isFailure (status : Nat) : Bool :=
  400 ≤ status

/-- The response that an answer from `url` delivers. -/
def response (url : String) (status : Nat) (body : String) : Except ApiError Json :=
  match Decoder.ofText Envelope.decoder body with
  | .error e =>
    if isFailure status then .error (.http status url)
    else .error (.unexpected url (.body body) e.inText)
  | .ok envelope =>
    match envelope.messages.find? (·.code ≠ "0") with
    | some message => .error (.api message.code message.text)
    | none =>
      if isFailure status then .error (.http status url)
      else .ok (envelope.response.getD .null)

/-- Decode a response from `url` that was delivered. -/
def decodeResponse {α : Type} (decoder : Decoder α) (url : String) (response : Json) :
    Except ApiError α :=
  match decoder response.toReading with
  | .ok a => .ok a
  | .error e => .error (.unexpected url (.response response) e.inValue)

end TypedLayouts.Server
