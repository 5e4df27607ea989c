import SpriteStage.Playground.Basic

/-!
# Histories of a playground

Whatever several users of one playground do, and however their runs interleave, is a list of events:
starts of runs, ends of sleeps, runs given up, and the actions between runs.  A refused event changes nothing.
-/

namespace SpriteStage

/-- One step of a history. -/
inductive Playground.Event where
  | start (program : Option RunSource)
  | wake (runId : Int) (reason : WakeReason)
  | cancel (runId : Int)
  | setSource (source : String)
  | loadSample (title : String)
  | reset

namespace Playground

/-- The playground after an attempt, which changes nothing if it is refused. -/
def after {α ε : Type} (p : Playground) (playground : α → Playground) : Except ε α → Playground
  | .ok a => playground a
  | .error _ => p

/-- The playground after an event. -/
def step (p : Playground) : Event → Playground
  | .start program => p.after (·.1) (p.start program)
  | .wake runId reason => ((p.wake runId reason).map (·.1)).getD p
  | .cancel runId => (p.cancel runId).getD p
  | .setSource source => p.after id (p.setSource source)
  | .loadSample title => p.after (·.1) (p.loadSample title)
  | .reset => p.reset

/-- The playground after a history. -/
def replay (p : Playground) (history : List Event) : Playground := history.foldl step p

@[simp] theorem replay_nil (p : Playground) : p.replay [] = p := rfl

@[simp] theorem replay_cons (p : Playground) (e : Event) (history : List Event) :
    p.replay (e :: history) = (p.step e).replay history := rfl

/-- A history in two parts is the one part after the other. -/
theorem replay_append (p : Playground) (h k : List Event) :
    p.replay (h ++ k) = (p.replay h).replay k := List.foldl_append

end Playground

end SpriteStage
