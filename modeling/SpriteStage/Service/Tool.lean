/-!
# Tools

The four things that can be done with a playground from outside, and how a service describes them.
-/

namespace SpriteStage

/-- A thing to do with a playground. -/
inductive Tool where
  | runProgram
  | resetStage
  | loadSample
  | getState
  deriving DecidableEq, Repr

namespace Tool

/-- The name to call a tool by. -/
def name : Tool → String
  | .runProgram => "run_program"
  | .resetStage => "reset_stage"
  | .loadSample => "load_sample"
  | .getState => "get_state"

/-- All tools, in the order in which they are listed. -/
def all : List Tool := [.runProgram, .resetStage, .loadSample, .getState]

/-- The tool with a name. -/
def ofName? (name : String) : Option Tool := all.find? (·.name = name)

/-- Every tool is found by its name. -/
@[simp] theorem ofName?_name (t : Tool) : ofName? t.name = some t := by
  cases t <;> decide

/-- What the service says about a tool. -/
def description : Tool → String
  | .runProgram =>
    "Run a program against a fresh stage. Pass 'source' (program text calling " ++
      "runtime.move/turn/say/wait) or 'instructions' (tagged JSON list)."
  | .resetStage => "Abandon any in-flight run and restore the starter project."
  | .loadSample => "Load a sample program by 'title' into the playground."
  | .getState => "Return the current sprite snapshot and output text."

end Tool

end SpriteStage
