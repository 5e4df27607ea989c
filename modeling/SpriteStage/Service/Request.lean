import SpriteStage.Playground.Basic
import SpriteStage.Program.Payload
import SpriteStage.Service.Tool
import SpriteStage.Json.Reader
import SpriteStage.Text.DecimalDigit
import SpriteStage.Text.Quoted
import SpriteStage.Text.Utf8

/-!
# Requests

A request is read to an `Action` before the playground is looked at: an action is what the request
asks for, or the reason why it is refused whatever the state of the playground.

## Main definitions

* `Request.fields` reads the JSON object in the body of a request
* `Action.ofRun` and `Action.ofTool` read the fields of the two kinds of calls
* `Request.action` reads a whole request
-/

namespace SpriteStage

/-- The two ways to send a request. -/
inductive Method where
  | get
  | post
  deriving DecidableEq, Repr

/-- The name of a way to send a request. -/
def Method.name : Method → String
  | .get => "GET"
  | .post => "POST"

/-- A request as it is sent. -/
structure Request where
  method : Method
  path : String
  /-- How many bytes of the body count, if it is said. -/
  contentLength : Option String := none
  body : List UInt8 := []
  deriving Repr

/-- Why the body of a request cannot be read. -/
inductive BodyError where
  /-- The length is no integer. -/
  | length (text : String)
  /-- The length has too many digits. -/
  | lengthDigits (digits : Nat)
  /-- The length is past the range of lengths. -/
  | lengthRange
  /-- The length is below that which stands for all bytes. -/
  | negativeLength
  | encoding (error : Text.Utf8Error)
  | json (error : Json.ReadError)
  | notObject
  deriving DecidableEq, Repr

/-- The wording of a fault in a body. -/
def BodyError.message : BodyError → String
  | .length text =>
    "invalid literal for int() with base 10: " ++ String.ofList ((Text.quote text).toList.take 200)
  | .lengthDigits n => (OperationError.digitCount n).message
  | .lengthRange => OperationError.indexRange.message
  | .negativeLength => "read length must be non-negative or -1"
  | .encoding e => e.message
  | .json e => e.message
  | .notObject => "expected a JSON object"

/-- Why a request is refused. -/
inductive Refusal where
  | notFound
  | badBody (error : BodyError)
  | badSource
  | badProgram (error : PayloadError)
  | badArguments
  /-- No tool has this name, which is shown by its plain text. -/
  | unknownTool (shown : String)
  | playground (error : PlaygroundError)
  deriving DecidableEq, Repr

namespace Refusal

/-- The wording of a refusal. -/
def message : Refusal → String
  | .notFound => "not found"
  | .badBody e => s!"Invalid JSON body: {e.message}"
  | .badSource => "'source' must be a string."
  | .badProgram e => e.message
  | .badArguments => "Tool arguments must be a JSON object."
  | .unknownTool shown => s!"Unknown tool '{shown}'."
  | .playground e => e.message

/-- The status of the answer to a refused request. -/
def status : Refusal → Nat
  | .notFound | .unknownTool _ | .playground (.unknownSample _) => 404
  | .playground (.busy _) => 409
  | .badBody _ | .badSource | .badProgram _ | .badArguments => 400

end Refusal

/-- What a request asks for. -/
inductive Action where
  | showState
  | showSamples
  | showTools
  /-- Runs a program, or the current text. -/
  | run (program : Option RunSource)
  | reset
  | loadSample (title : String)
  | refuse (refusal : Refusal)
  /-- The request holds a value that cannot be dealt with. -/
  | fail (error : OperationError)

namespace Action

/-- Runs the program that a payload writes. -/
def ofInstructions (payload : Value) : Action :=
  match Payload.toProgram payload with
  | .ok program => .run (some (.program program))
  | .error (.operation e) => .fail e
  | .error e => .refuse (.badProgram e)

/-- Runs what the fields call for: the program of `instructions`, else the text of `source`, else
    the current text. -/
def ofRun (fields : List (String × Value)) : Action :=
  match Value.field? "instructions" fields with
  | some payload => ofInstructions payload
  | none =>
    match (Value.field? "source" fields).getD .null with
    | .null => .run none
    | .text source => .run (some (.text source))
    | _ => .refuse .badSource

/-- Loads the sample whose title is the plain text of the field `title`. -/
def ofTitle (fields : List (String × Value)) : Action :=
  match ((Value.field? "title" fields).getD (.text "")).plain with
  | .ok title => .loadSample title
  | .error e => .fail e

/-- Calls a tool with the fields of its arguments. -/
def ofCall (tool : Tool) (fields : List (String × Value)) : Action :=
  match tool with
  | .runProgram => ofRun fields
  | .resetStage => .reset
  | .loadSample => ofTitle fields
  | .getState => .showState

/-- Refuses a name that no tool has. -/
def ofUnknownName (name : Value) : Action :=
  match name.plain with
  | .ok shown => .refuse (.unknownTool shown)
  | .error e => .fail e

/-- Calls the tool with a name, which may be any value, with arguments of any kind. -/
def ofTool (name arguments : Value) : Action :=
  match arguments with
  | .object fields =>
    match name with
    | .text s =>
      match Tool.ofName? s with
      | some tool => ofCall tool fields
      | none => ofUnknownName name
    | _ => ofUnknownName name
  | _ => .refuse .badArguments

end Action

namespace Request

/-- How many bytes of the body count; all of them if the length is minus one. -/
def length (r : Request) : Except BodyError Int :=
  let text := r.contentLength.getD "0"
  match Text.integer? text with
  | none => .error (.length text)
  | some n =>
    let digits := ((Text.numeralOf text).filter Char.isDigit).length
    -- Too many digits are at fault whatever the range is.
    if digits > digitLimit then .error (.lengthDigits digits)
    else if Int64.minValue.toInt ≤ n ∧ n ≤ Int64.maxValue.toInt then
      if n < -1 then .error .negativeLength else .ok n
    else .error .lengthRange

/-- The bytes of the body that count. -/
def bytes (r : Request) : Except BodyError (List UInt8) :=
  r.length.map fun n => if n < 0 then r.body else r.body.take n.toNat

/-- The fields of the JSON object in the body; an empty body has no fields. -/
def fields (r : Request) : Except BodyError (List (String × Value)) := do
  let bytes ← r.bytes
  if bytes.isEmpty then return []
  let text ← (Text.decodeUtf8 bytes).mapError .encoding
  match ← (Json.read text).mapError .json with
  | .object fields => return fields
  | _ => throw .notObject

/-- What a request to look at something asks for. -/
def lookUp (path : String) : Action :=
  if path = "/state" then .showState
  else if path = "/samples" then .showSamples
  else if path = "/tools" then .showTools
  else .refuse .notFound

/-- What a request to do something asks for. -/
def call (path : String) (fields : List (String × Value)) : Action :=
  if path = "/run" then .ofRun fields
  else if path = "/reset" then .reset
  else if path = "/tools/call" then
    -- Arguments that count as false are no arguments.
    let arguments := (Value.field? "arguments" fields).getD .null
    .ofTool ((Value.field? "name" fields).getD .null)
      (if arguments.isTruthy then arguments else .object [])
  else .refuse .notFound

/-- What a request asks for.  The body is read before the path is looked at. -/
def action (r : Request) : Action :=
  match r.method with
  | .get => lookUp r.path
  | .post =>
    match r.fields with
    | .ok fields => call r.path fields
    -- So many bytes cannot be asked for, and the request is not answered.
    | .error .lengthRange => .fail .indexRange
    | .error e => .refuse (.badBody e)

end Request

end SpriteStage
