import SpriteStage.Run.Interpreter
import SpriteStage.Program.Compilation

/-!
# Runs

A run executes one program once, on a stage of its own.  It is idle, then running, and in the end
completed or failed.  A completed run gives the sprite and the log; a failed run gives only an error,
so nothing that was done before the failure gets out.
-/

namespace SpriteStage

/-- How far a run has come. -/
inductive RunStatus where
  | idle
  | running
  | completed
  | failed
  deriving DecidableEq, Repr

/-- The name of a status in payloads. -/
def RunStatus.name : RunStatus → String
  | .idle => "idle"
  | .running => "running"
  | .completed => "completed"
  | .failed => "failed"

/-- What came of a run. -/
inductive RunOutcome where
  | completed (sprite : Sprite) (log : String)
  | failed (error : String)
  deriving Repr

/-- What came of a run, with the number of the run. -/
structure RunResult where
  runId : Int
  outcome : RunOutcome
  deriving Repr

namespace RunResult

/-- Whether the run completed. -/
def isCompleted (r : RunResult) : Bool :=
  match r.outcome with
  | .completed .. => true
  | .failed _ => false

/-- The status of the run. -/
def status (r : RunResult) : RunStatus := if r.isCompleted then .completed else .failed

/-- What the run shows: its log or its error. -/
def output (r : RunResult) : String :=
  match r.outcome with
  | .completed _ log => log
  | .failed error => s!"Error: {error}"

end RunResult

/-- What a run executes. -/
inductive RunSource where
  | text (source : String)
  | program (program : Program)

/-- A message, or a label if it is empty. -/
def orLabel (message label : String) : String := if message.isEmpty then label else message

/-- The error that a run fails with. -/
def Stop.message (runId : Int) : Stop → String
  | .operation e => e.message
  | .fault message => orLabel message "ProgramFault"
  | .unsupported typeName => s!"Unsupported instruction: {typeName}"
  | .abandoned => s!"Run {runId} was abandoned."
  | .sleep message name => orLabel message name.text

/-- What a run ends with. -/
def Course.outcome (runId : Int) : Except Stop Scene → RunOutcome
  | .ok s => .completed s.stage.sprite s.stage.history
  | .error e => .failed (e.message runId)

/-- A run. -/
structure Run where
  runId : Int
  source : RunSource
  config : StageConfig := {}
  /-- The name that operations are called on in a program text. -/
  handle : String := "runtime"
  status : RunStatus := .idle
  /-- Whether the run stops before its next instruction. -/
  abandoned : Bool := false
  result : Option RunResult := none

/-- A run can be started only once. -/
structure AlreadyStarted where
  runId : Int
  deriving DecidableEq, Repr

/-- The wording of the refusal to start a run. -/
def AlreadyStarted.message (e : AlreadyStarted) : String := s!"Run {e.runId} was already started."

namespace Run

/-- The program of a run with the warnings about it, or the error that the run fails with. -/
def program (r : Run) : Except String Program × List Warning :=
  match r.source with
  | .program p => (.ok p, [])
  | .text source =>
    let (compiled, warnings) := compile r.handle source
    (compiled.mapError (·.message source.toList), warnings)

/-- All that a run does until it has a result. -/
def course (r : Run) : Resumption RunResult :=
  match r.program.1 with
  | .error e => .done ⟨r.runId, .failed e⟩
  | .ok p =>
    (Course.executeAll r.config p { abandoned := r.abandoned }).bind
      fun x => .done ⟨r.runId, Course.outcome r.runId x⟩

/-- The run with its result. -/
def settle (r : Run) (result : RunResult) : Run :=
  { r with status := result.status, result := some result }

/-- The run while it is running. -/
def launch (r : Run) : Run := { r with status := .running }

/-- The result of a run all of whose sleeps last their time. -/
def finish (r : Run) : RunResult := (r.course.complete {}).2

/-- Starts a run, which must be idle: the run while it is running, and its course up to the settled
    run. -/
def start (r : Run) : Except AlreadyStarted (Run × Resumption Run) :=
  if r.status = .idle then .ok (r.launch, r.course.bind fun result => .done (r.settle result))
  else .error ⟨r.runId⟩

/-- A run that is not idle cannot be started. -/
theorem start_of_status_ne_idle (r : Run) (h : r.status ≠ .idle) :
    r.start = .error ⟨r.runId⟩ := by
  simp [start, h]

end Run

end SpriteStage
