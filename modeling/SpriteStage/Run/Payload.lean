import SpriteStage.Run.Run
import SpriteStage.Program.Payload

/-!
# Results as payloads

Sprites and results of runs as strict JSON: doubles that JSON cannot write are spelled out.
-/

namespace SpriteStage.Payload

/-- A position. -/
def ofPoint (p : Point) : Value :=
  .object [("x", ofValue (.float p.x)), ("y", ofValue (.float p.y))]

/-- A sprite. -/
def ofSprite (s : Sprite) : Value :=
  .object [
    ("x", ofValue (.float s.x)),
    ("y", ofValue (.float s.y)),
    ("direction", ofValue (.float s.direction)),
    ("speech", ofValue s.speech),
    ("trail", .list (s.trail.toList.map ofPoint))]

/-- The result of a run. -/
def ofResult (r : RunResult) : Value :=
  let (log, snapshot, error) := match r.outcome with
    | .completed sprite log => (Value.text log, ofSprite sprite, Value.null)
    | .failed error => (.null, .null, .text error)
  .object [
    ("run_id", .int r.runId),
    ("status", .text r.status.name),
    ("output", .text r.output),
    ("log", log),
    ("snapshot", snapshot),
    ("error", error)]

end SpriteStage.Payload
