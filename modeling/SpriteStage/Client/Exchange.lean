import SpriteStage.Client.Call
import SpriteStage.Service.Reply

/-!
# Calls to a playground

A client and a playground put together: a call is sent, the playground serves it while nobody else
uses it, and the client reads the answer.
-/

namespace SpriteStage

/-- The words that go with the statuses of answers. -/
def Response.reason (r : Response) : String :=
  match r.status with
  | 200 => "OK"
  | 400 => "Bad Request"
  | 404 => "Not Found"
  | 409 => "Conflict"
  | _ => ""

/-- What a client receives of an answer. -/
def Response.received (r : Response) : ServiceReply := ⟨r.status, r.reason, Text.encodeUtf8 r.body⟩

/-- The path in an address: what follows the host. -/
def pathOf (url : String) : String :=
  let rec afterScheme : List Char → Option (List Char)
    | ':' :: '/' :: '/' :: rest => some rest
    | _ :: rest => afterScheme rest
    | [] => none
  String.ofList (((afterScheme url.toList).getD url.toList).dropWhile (· ≠ '/'))

/-- A message as the service under a base address takes it. -/
def Message.request (m : Message) (base : String) : Request :=
  let body := (m.body.map Text.encodeUtf8).getD []
  { method := m.method
    path := pathOf (m.url base)
    contentLength := m.body.map fun _ => toString body.length
    body := body }

/-- Why a call to a playground has no value. -/
inductive ExchangeError where
  | client (error : ClientError)
  /-- The playground sent no answer. -/
  | service (error : ReplyError)
  deriving DecidableEq

/-- The wording of an error. -/
def ExchangeError.message : ExchangeError → String
  | .client e => e.message
  | .service e => e.message

/-- What a call makes of the answer to it. -/
def Call.ofAnswer (call : Call) : Answer → Except ExchangeError Value
  | .ok r => (call.result r.received).mapError .client
  | .error e => .error (.service e)

namespace Playground

/-- The playground after a message under a base address, and the value of the call that sent it. -/
def deliver (p : Playground) (base : String) (call : Call) (m : Message) :
    Playground × Except ExchangeError Value :=
  let (q, answer) := p.serve (m.request base)
  (q, call.ofAnswer answer)

/-- The playground after a call under a base address, and the value of the call. -/
def exchange (p : Playground) (base : String) (call : Call) :
    Playground × Except ExchangeError Value :=
  match call.message with
  | .ok m => p.deliver base call m
  | .error e => (p, .error (.client e))

end Playground

end SpriteStage
