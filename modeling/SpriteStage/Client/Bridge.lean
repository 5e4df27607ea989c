import SpriteStage.Client.Call

/-!
# A bridge for tools

A bridge offers the tools of a service under the same names, each by a call of the client.  It offers
only what the service advertises, and passes on what the service says about a tool.
-/

namespace SpriteStage

/-- The name of a bridge that is given none. -/
def Bridge.defaultName : String := "MyBlock Studio"

/-- What a bridge says about a tool about which the service says nothing. -/
def Tool.summary : Tool → String
  | .runProgram => "Run program text or a tagged instruction list on a fresh stage."
  | .resetStage => "Abandon any in-flight run and restore the starter project."
  | .loadSample => "Load a sample program into the playground by title."
  | .getState => "Return the current sprite snapshot and output text."

/-- A tool that a bridge offers.  What the service says about it may be any value. -/
structure Offer where
  tool : Tool
  description : Value

namespace Bridge

/-- Whether a value advertises a tool. -/
def advertises (tool : Tool) : Value → Bool
  | .object fields =>
    match Value.field? "name" fields with
    | some (.text s) => s = tool.name
    | _ => false
  | _ => false

/-- What a value says about the tool that it advertises. -/
def docstring : Value → Value
  | .object fields => (Value.field? "tool_docstring" fields).getD .null
  | _ => .null

/-- The offer of a tool, if it is advertised; what is said last counts. -/
def offer? (advertised : List Value) (tool : Tool) : Option Offer :=
  (advertised.reverse.find? (advertises tool)).map fun v =>
    let said := docstring v
    ⟨tool, if said.isTruthy then said else .text tool.summary⟩

/-- The tools that a bridge offers. -/
def offers (advertised : List Value) : List Offer := Tool.all.filterMap (offer? advertised)

/-- The call that a tool is passed on by.  There is none if an argument that the tool needs is not
    given. -/
def call? (tool : Tool) (arguments : List (String × Value)) : Option Call :=
  let argument (key : String) := (Value.field? key arguments).getD .null
  match tool with
  | .runProgram => some (.runProgram (argument "source") (argument "instructions"))
  | .resetStage => some .reset
  | .loadSample => (Value.field? "title" arguments).map .loadSample
  | .getState => some .getState

end Bridge

end SpriteStage
