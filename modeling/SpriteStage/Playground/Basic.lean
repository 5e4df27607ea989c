import SpriteStage.Run.Run
import SpriteStage.Playground.Sample

/-!
# The playground

A playground is what is shown between runs: a sprite, a line of output and a program text.  One run
at a time owns it, the active one.  A run that sleeps is kept as a `Flight`; others may use the
playground meanwhile.  What a run ends with is shown only if the run is still the active one, so
that a run that was abandoned by a reset leaves no trace.

## Main definitions

* `Playground.start` starts a run and carries it on to its first sleep or its end
* `Playground.wake` ends the sleep of a run and carries it on to the next sleep or its end
* `Playground.cancel` gives up a run that sleeps
* `Playground.land` shows what a run ended with
* `Playground.reset` abandons the active run and restores the fresh state
-/

namespace SpriteStage

/-- A run that sleeps. -/
structure Flight where
  run : Run
  delay : Value
  resume : Wake → Resumption RunResult

/-- A flight after the run with a number has been abandoned. -/
def Flight.abandon (runId : Option Int) (f : Flight) : Flight :=
  if runId = some f.run.runId then { f with run := { f.run with abandoned := true } } else f

/-- The text that a playground shows before the first run. -/
def Playground.readyMessage : String := "Ready to run your program."

/-- What is shown between runs, with the runs that sleep. -/
structure Playground where
  config : StageConfig := {}
  sprite : Sprite := {}
  output : String := Playground.readyMessage
  source : String := Sample.starter
  /-- The number of the run that owns the playground. -/
  active : Option Int := none
  lastResult : Option RunResult := none
  /-- The number of the next run. -/
  nextId : Int := 1
  flights : List Flight := []

/-- Why a playground refuses a request. -/
inductive PlaygroundError where
  /-- A run is under way. -/
  | busy (runId : Int)
  | unknownSample (title : String)
  deriving DecidableEq, Repr

/-- The wording of a refusal. -/
def PlaygroundError.message : PlaygroundError → String
  | .busy runId => s!"Run {runId} is still in progress."
  | .unknownSample title => s!"Unknown sample program '{title}'."

/-- How far a run has got. -/
inductive Progress where
  | asleep (delay : Value)
  | ended (result : RunResult)

namespace Playground

/-- Whether a run owns the playground. -/
def isRunning (p : Playground) : Bool := p.active.isSome

/-- Refuses if a run owns the playground. -/
def requireIdle (p : Playground) : Except PlaygroundError Unit :=
  match p.active with
  | some runId => .error (.busy runId)
  | none => .ok ()

/-! ## Between runs -/

/-- Sets the program text. -/
def setSource (p : Playground) (source : String) : Except PlaygroundError Playground := do
  p.requireIdle
  return { p with source := source }

/-- Takes a sample as the program text. -/
def loadSample (p : Playground) (title : String) :
    Except PlaygroundError (Playground × Sample) := do
  let some sample := Sample.find? title | throw (.unknownSample title)
  -- A title that nobody knows is refused even while a run is under way.
  p.requireIdle
  return ({ p with source := sample.source, output := s!"Loaded sample: {sample.title}" }, sample)

/-- Abandons the active run and restores the fresh state. -/
def reset (p : Playground) : Playground :=
  { p with
    flights := p.flights.map (Flight.abandon p.active)
    active := none
    source := Sample.starter
    sprite := {}
    output := "Workspace reset to starter project." }

/-! ## Runs -/

/-- Shows the result of the active run. -/
def commit (p : Playground) (result : RunResult) : Playground :=
  { p with
    active := none
    lastResult := some result
    sprite := match result.outcome with
      | .completed sprite _ => sprite
      | .failed _ => p.sprite
    output := result.output }

/-- The playground after a run has ended.  Only the result of the active run is shown. -/
def land (p : Playground) (result : RunResult) : Playground :=
  if p.active = some result.runId then p.commit result else p

/-- Carries a run on to its next sleep or its end. -/
def advance (p : Playground) (run : Run) : Resumption RunResult → Playground × Progress
  | .done result => (p.land result, .ended result)
  | .sleeping delay resume => ({ p with flights := ⟨run, delay, resume⟩ :: p.flights }, .asleep delay)

/-- Makes a new run the active one: that of a given program or of the current text.  A given text
    becomes the current one. -/
def engage (p : Playground) (program : Option RunSource) : Playground × Run :=
  ({ p with
      source := match program with
        | some (.text source) => source
        | _ => p.source
      active := some p.nextId
      output := "Running..."
      nextId := p.nextId + 1 },
    { runId := p.nextId, source := program.getD (.text p.source), config := p.config })

/-- Starts a run and carries it on to its first sleep or its end.  Gives its number. -/
def start (p : Playground) (program : Option RunSource) :
    Except PlaygroundError (Playground × Int × Progress) := do
  p.requireIdle
  let (p, run) := p.engage program
  let (p, progress) := p.advance run.launch run.course
  return (p, run.runId, progress)

/-- The run with a number, if it sleeps. -/
def flight? (p : Playground) (runId : Int) : Option Flight :=
  p.flights.find? (·.run.runId = runId)

/-- The playground without the run with a number among those that sleep. -/
def withoutFlight (p : Playground) (runId : Int) : Playground :=
  { p with flights := p.flights.filter (·.run.runId ≠ runId) }

/-- Ends the sleep of a run and carries it on to its next sleep or its end. -/
def wake (p : Playground) (runId : Int) (reason : WakeReason) : Option (Playground × Progress) :=
  (p.flight? runId).map fun f =>
    (p.withoutFlight runId).advance f.run
      (f.resume { reason := reason, abandoned := f.run.abandoned })

/-- Gives up a run that sleeps.  The playground is free again if the run owned it. -/
def cancel (p : Playground) (runId : Int) : Option Playground :=
  (p.flight? runId).map fun _ =>
    { p.withoutFlight runId with active := p.active.filter (· ≠ runId) }

/-- Runs a program from its start to its end while nobody else uses the playground and every sleep
    lasts its time. -/
def runToEnd (p : Playground) (program : Option RunSource) :
    Except PlaygroundError (Playground × RunResult) := do
  p.requireIdle
  let (p, run) := p.engage program
  return (p.land run.finish, run.finish)

end Playground

end SpriteStage
