import SpriteStage.Service.Request
import SpriteStage.Json.Printer
import SpriteStage.Text.Blank

/-!
# Calls of a client

A client asks a service for something by a `Call`.  A call is sent as one message, and what comes
back is either the value that was asked for or an error of the client.  Arguments are values of any
kind: it is the service that refuses what it cannot use.

## Main definitions

* `Call.message` is what is sent for a call
* `ServiceReply.fields` reads what comes back
* `Call.value` picks the value of a call from it
-/

namespace SpriteStage

/-- What a client asks a service for. -/
inductive Call where
  | listTools
  | callTool (name arguments : Value)
  | getState
  | listSamples
  /-- Runs a text or a program; what is `null` is left out. -/
  | runProgram (source instructions : Value)
  | loadSample (title : Value)
  | reset

/-- Why a call has no value. -/
inductive ClientError where
  /-- The name of a tool must be a text that is not empty. -/
  | toolName
  /-- The arguments cannot be written. -/
  | unwritable (error : Json.WriteError)
  /-- The service answered with a status that means failure. -/
  | refused (status : Nat) (detail : String)
  /-- The service answered with bytes that are no text. -/
  | encoding (error : Text.Utf8Error)
  /-- The service answered with a text that is not JSON. -/
  | json (error : Json.ReadError)
  /-- What the service says about a failure has no text. -/
  | operation (error : OperationError)
  deriving DecidableEq

/-- The wording of an error. -/
def ClientError.message : ClientError → String
  | .toolName => "Tool name must be a non-empty string."
  | .unwritable e => e.message
  | .refused status detail => s!"HTTP {status}: {detail}"
  | .encoding e => e.message
  | .json e => e.message
  | .operation e => e.message

/-- A message to a service. -/
structure Message where
  method : Method
  path : String
  /-- The text of the payload, if there is one. -/
  body : Option String
  deriving DecidableEq, Repr

namespace Message

/-- The type that a client accepts and sends. -/
def mediaType : String := "application/json"

/-- The type of the body, if there is one. -/
def contentType (m : Message) : Option String := m.body.map fun _ => mediaType

/-- The address of a message to a service: its path after the base without closing slashes. -/
def url (m : Message) (base : String) : String :=
  String.ofList (base.toList.reverse.dropWhile (· == '/')).reverse ++ m.path

/-- A message with a payload. -/
def post (path : String) (payload : Value) : Except ClientError Message :=
  match Json.print { names := true } payload with
  | .ok body => .ok ⟨.post, path, some body⟩
  | .error e => .error (.unwritable e)

end Message

namespace Call

/-- A field that is left out if its value is `null`. -/
def field (key : String) : Value → List (String × Value)
  | .null => []
  | v => [(key, v)]

/-- The message that calls a tool. -/
def toolMessage (name arguments : Value) : Except ClientError Message :=
  match name with
  | .text s =>
    if s.isEmpty then .error .toolName
    else Message.post "/tools/call" (.object [("name", name),
      ("arguments", if arguments.isTruthy then arguments else .object [])])
  | _ => .error .toolName

/-- What is sent for a call. -/
def message : Call → Except ClientError Message
  | .listTools => .ok ⟨.get, "/tools", none⟩
  | .getState => .ok ⟨.get, "/state", none⟩
  | .listSamples => .ok ⟨.get, "/samples", none⟩
  | .callTool name arguments => toolMessage name arguments
  | .loadSample title => toolMessage (.text Tool.loadSample.name) (.object [("title", title)])
  | .runProgram source instructions =>
    Message.post "/run" (.object (field "source" source ++ field "instructions" instructions))
  | .reset => Message.post "/reset" (.object [])

end Call

/-- What comes back from a service. -/
structure ServiceReply where
  status : Nat
  reason : String
  body : List UInt8
  deriving Repr

namespace ServiceReply

/-- The fields of the object in a body; a blank body and a value of another kind have none. -/
def decode (body : List UInt8) : Except ClientError (List (String × Value)) := do
  let text ← (Text.decodeUtf8 body).mapError .encoding
  if (Text.strip text).isEmpty then return []
  match ← (Json.read text).mapError .json with
  | .object fields => return fields
  | _ => return []

/-- Whether a status means success. -/
def isSuccess (r : ServiceReply) : Bool := 200 ≤ r.status && r.status < 300

/-- What a reply says about a failure: the text of its field `error`, if that counts as true, or the
    reason that goes with the status. -/
def detail (r : ServiceReply) (fields : List (String × Value)) : Except ClientError String :=
  let error := (Value.field? "error" fields).getD .null
  if error.isTruthy then error.plain.mapError .operation else .ok r.reason

/-- The fields of a successful reply. -/
def fields (r : ServiceReply) : Except ClientError (List (String × Value)) := do
  let fields ← decode r.body
  if r.isSuccess then return fields
  throw (.refused r.status (← r.detail fields))

end ServiceReply

namespace Call

/-- The list in a field, or no items. -/
def listOf (key : String) (fields : List (String × Value)) : List Value :=
  match Value.field? key fields with
  | some (.list items) => items
  | _ => []

/-- The tools that fields list: those that are objects. -/
def toolsOf (fields : List (String × Value)) : List Value :=
  (listOf "tools" fields).filter (·.kind = .object)

/-- What the fields of a successful reply give as the value of a call. -/
def value (call : Call) (fields : List (String × Value)) : Value :=
  match call with
  | .listTools => .list (toolsOf fields)
  | .listSamples => .list (listOf "samples" fields)
  | _ => .object fields

/-- The value of a call from what comes back. -/
def result (call : Call) (reply : ServiceReply) : Except ClientError Value :=
  reply.fields.map call.value

end Call

end SpriteStage
