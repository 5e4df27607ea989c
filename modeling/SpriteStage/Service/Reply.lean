import SpriteStage.Service.Request
import SpriteStage.Run.Payload
import SpriteStage.Json.Printer

/-!
# Replies

A request is answered at once, or when the run that it starts has ended; until then it waits.  An
answer is a JSON object on one line of ASCII.  An answer that JSON cannot write is not sent, but what
the request did to the playground stays done.

## Main definitions

* `Playground.perform` carries out an action
* `Playground.handle` takes a request, and `Playground.proceed` ends a sleep of its run
* `Playground.serve` takes a request while nobody else uses the playground
-/

namespace SpriteStage

/-- An answer: a status and the text of a JSON object. -/
structure Response where
  status : Nat
  body : String
  deriving DecidableEq, Repr

namespace Response

/-- The type of the body of all answers. -/
def contentType : String := "application/json"

/-- The number of bytes of the body. -/
def contentLength (r : Response) : Nat := r.body.utf8ByteSize

end Response

/-- Why no answer is sent. -/
inductive ReplyError where
  /-- The request holds a value that cannot be dealt with. -/
  | operation (error : OperationError)
  /-- The answer cannot be written. -/
  | unwritable (error : Json.WriteError)
  deriving DecidableEq

/-- The wording of a failure to answer. -/
def ReplyError.message : ReplyError → String
  | .operation e => e.message
  | .unwritable e => e.message

/-- The answer to a request, or why there is none. -/
abbrev Answer := Except ReplyError Response

/-- The answer with a payload. -/
def Answer.ofPayload (status : Nat) (payload : Value) : Answer :=
  match Json.print {} payload with
  | .ok body => .ok ⟨status, body⟩
  | .error e => .error (.unwritable e)

/-- The answer to a refused request. -/
def Answer.ofRefusal (refusal : Refusal) : Answer :=
  .ofPayload refusal.status (.object [("error", .text refusal.message)])

/-- The answer to a request whose run has ended. -/
def Answer.ofResult (result : RunResult) : Answer :=
  .ofPayload 200 (Payload.ofResult result)

/-- What comes of a request. -/
inductive Reply where
  | answer (response : Answer)
  /-- The run of the request sleeps. -/
  | waiting (runId : Int) (delay : Value)

/-- The reply to a request whose run has got somewhere. -/
def Reply.ofProgress (runId : Int) : Progress → Reply
  | .asleep delay => .waiting runId delay
  | .ended result => .answer (.ofResult result)

/-! ## Payloads of answers -/

/-- What a playground shows. -/
def Payload.ofPlayground (p : Playground) : Value :=
  .object [
    ("state", ofSprite p.sprite),
    ("output", .text p.output),
    ("source", .text p.source),
    ("running", .bool p.isRunning)]

/-- A sample. -/
def Payload.ofSample (s : Sample) : Value :=
  .object [("title", .text s.title), ("description", .text s.description),
    ("source", .text s.source)]

/-- A tool with what the service says about it. -/
def Payload.ofTool (t : Tool) : Value :=
  .object [("name", .text t.name), ("tool_docstring", .text t.description)]

/-! ## Requests to a playground -/

namespace Playground

/-- The answer that shows the playground. -/
def stateResponse (p : Playground) : Answer :=
  .ofPayload 200 (Payload.ofPlayground p)

/-- Carries out an action; programs are run by `run`, and other actions are answered at once. -/
def performWith {ρ : Type} (p : Playground) (answer : Answer → ρ)
    (run : Option RunSource → Playground × ρ) : Action → Playground × ρ
  | .showState => (p, answer p.stateResponse)
  | .showSamples =>
    (p, answer (.ofPayload 200 (.object [("samples", .list (Sample.all.map Payload.ofSample))])))
  | .showTools =>
    (p, answer (.ofPayload 200 (.object [("tools", .list (Tool.all.map Payload.ofTool))])))
  | .run program => run program
  | .reset => (p.reset, answer p.reset.stateResponse)
  | .loadSample title =>
    match p.loadSample title with
    | .ok (q, _) => (q, answer q.stateResponse)
    | .error e => (p, answer (.ofRefusal (.playground e)))
  | .refuse refusal => (p, answer (.ofRefusal refusal))
  | .fail e => (p, answer (.error (.operation e)))

/-- Starts a run for a request. -/
def startRun (p : Playground) (program : Option RunSource) : Playground × Reply :=
  match p.start program with
  | .ok (q, runId, progress) => (q, .ofProgress runId progress)
  | .error e => (p, .answer (.ofRefusal (.playground e)))

/-- Runs a program for a request from its start to its end. -/
def runThrough (p : Playground) (program : Option RunSource) :
    Playground × Answer :=
  match p.runToEnd program with
  | .ok (q, result) => (q, .ofResult result)
  | .error e => (p, .ofRefusal (.playground e))

/-- Carries out an action, a run up to its first sleep or its end. -/
def perform (p : Playground) (action : Action) : Playground × Reply :=
  p.performWith .answer p.startRun action

/-- Takes a request. -/
def handle (p : Playground) (r : Request) : Playground × Reply := p.perform r.action

/-- Ends the sleep of the run of a request. -/
def proceed (p : Playground) (runId : Int) : Option (Playground × Reply) :=
  (p.wake runId .elapsed).map fun (q, progress) => (q, .ofProgress runId progress)

/-- Takes a request and answers it while nobody else uses the playground. -/
def serve (p : Playground) (r : Request) : Playground × Answer :=
  p.performWith id p.runThrough r.action

end Playground

end SpriteStage
