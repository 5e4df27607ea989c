import SpriteStage.Value.Display

/-!
# The stage and its sprite

A stage has one sprite with a position, a direction, what it says, and the trail of its positions.
The configuration holds the size of the stage and the scales of steps and of waiting; its fields are
values like the arguments of operations, so that a configuration may be read from a payload.
-/

namespace SpriteStage

/-- The geometry and the timing of a stage. -/
structure StageConfig where
  width : Value := .int 320
  height : Value := .int 320
  /-- Stage units in one step. -/
  stepScale : Value := .int 10
  /-- Real seconds in one second of waiting. -/
  waitScale : Value := .float 0.25

/-- A position on the stage; the origin is the middle. -/
structure Point where
  x : Float
  y : Float
  deriving Repr

/-- The state of a sprite. -/
structure Sprite where
  x : Float := 0.0
  y : Float := 0.0
  /-- Degrees, clockwise; 90 is the initial direction. -/
  direction : Float := 90.0
  speech : Value := .null
  /-- All positions so far, the first one being the origin. -/
  trail : Array Point := #[⟨0.0, 0.0⟩]
  deriving Repr

/-- A sprite with the log of the operations on it. -/
structure Stage where
  sprite : Sprite := {}
  log : Array String := #[]
  deriving Repr

namespace Stage

/-- The lines of the log as one text. -/
def logText (s : Stage) : String := "\n".intercalate s.log.toList

/-- One line on the position and the direction. -/
def report (s : Stage) : String :=
  s!"x: {Double.loggedFixed 1 s.sprite.x}, y: {Double.loggedFixed 1 s.sprite.y}, " ++
    s!"direction: {Double.loggedFixed 0 s.sprite.direction}°"

/-- The log with the report as its last line. -/
def history (s : Stage) : String :=
  if s.log.isEmpty then s.report else s.logText ++ "\n" ++ s.report

end Stage

end SpriteStage
