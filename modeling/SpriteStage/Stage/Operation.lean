import SpriteStage.Stage.Sprite
import SpriteStage.Program.Instruction
import SpriteStage.Value.Arithmetic

/-!
# Operations on the stage

`Stage.perform` carries out one operation.  An operation that fails may have changed the stage before
it failed, so the stage is part of the outcome in every case.  Only a wait asks for a delay, and only
for one above zero.
-/

namespace SpriteStage

/-- Actions that change a stage and may fail; the changes before a failure stay. -/
abbrev StageAction (α : Type) := ExceptT OperationError (StateM Stage) α

/-- A value that is brought between two bounds: the bound that it is past, or itself.
    Not-a-number is past no bound. -/
def Double.clamp (v low high : Float) : Float :=
  let v := if low > v then low else v
  if high < v then high else v

namespace Stage

/-- Half of an extent of the stage. -/
def half (extent : Value) : Except OperationError Float :=
  match extent.number? with
  | some (.float x) => .ok (x / 2)
  | some (.int n) =>
    match Double.ofRatio? n 2 with
    | some x => .ok x
    | none => .error .quotientRange
  | none => .error (.unsupportedOperands "/" extent.kind .int)

/-- A double times a value. -/
def times (x : Float) (v : Value) : Except OperationError Float :=
  match v.number? with
  | some n => do return x * (← n.toFloat)
  | none => match v with
    | .text _ | .list _ => .error (.repetition .float)
    | v => .error (.unsupportedOperands "*" .float v.kind)

/-- A double plus a value. -/
def plus (x : Float) (v : Value) : Except OperationError Float :=
  match v.number? with
  | some n => do return x + (← n.toFloat)
  | none => .error (.unsupportedOperands "+" .float v.kind)

/-- The ratio of a circle's circumference to its diameter. -/
def pi : Float := 3.141592653589793

/-- The angle of a direction in radians, counted from the initial direction. -/
def radians (direction : Float) : Float := (direction - 90) * pi / 180

/-- The cosine of an angle that is not infinite. -/
def cosine (angle : Float) : Except OperationError Float :=
  if angle.isInf then .error .infiniteAngle else .ok angle.cos

/-- The sine of an angle that is not infinite. -/
def sine (angle : Float) : Except OperationError Float :=
  if angle.isInf then .error .infiniteAngle else .ok angle.sin

/-- A direction within one turn.  The remainder of a small negative direction may round up to the
    full turn, which is the same as none. -/
def normalize (direction : Float) : Float :=
  let d := Double.flooredMod direction 360
  let d := if d < 0 then d + 360 else d
  if d ≥ 360 then d - 360 else d

/-- Appends a line to the log. -/
def record (line : String) : StageAction Unit :=
  modify fun s => { s with log := s.log.push line }

/-- Puts the sprite at a position brought within the edges and adds that to the trail. -/
def place (config : StageConfig) (x y : Float) : StageAction Unit := do
  let w ← half config.width
  let x := Double.clamp x (-w) w
  -- A height that is no number fails only after the width has been looked at.
  let h ← half config.height
  let y := Double.clamp y (-h) h
  modify fun s => { s with
    sprite := { s.sprite with x := x, y := y, trail := s.sprite.trail.push ⟨x, y⟩ } }

/-- Moves the sprite in its direction. -/
def move (config : StageConfig) (steps : Value) : StageAction Unit := do
  let steps := steps.widen
  let distance ← Value.apply .mul steps config.stepScale
  let sprite := (← get).sprite
  let angle := radians sprite.direction
  let dx ← times (← cosine angle) distance
  let dy ← times (← sine angle) distance
  place config (sprite.x + dx) (sprite.y + dy)
  record s!"Move {← steps.logged} steps"

/-- Turns the sprite clockwise. -/
def turn (degrees : Value) : StageAction Unit := do
  let degrees := degrees.widen
  let direction ← plus (← get).sprite.direction degrees
  modify fun s => { s with sprite := { s.sprite with direction := normalize direction } }
  let side := if ← Value.holds .greater degrees (.int 0) then "right" else "left"
  record s!"Turn {side} {← (← degrees.magnitude).logged}°"

/-- Makes the sprite say something. -/
def say (message : Value) : StageAction Unit := do
  modify fun s => { s with sprite := { s.sprite with speech := message } }
  -- By now the sprite has spoken, even if the message has no text for the log.
  record s!"Say: {← message.logged}"

/-- Logs a wait and gives the delay that it asks for, if any. -/
def wait (config : StageConfig) (seconds : Value) : StageAction (Option Value) := do
  let duration ← Value.maximum seconds.widen (.int 0)
  let length ← duration.real
  record s!"Wait {Double.loggedFixed 1 length} second(s)"
  -- A wait for nothing is logged, but does not sleep.
  if length == 0 then return none
  let delay ← Value.apply .mul duration config.waitScale
  return if ← Value.holds .greater delay (.int 0) then some delay else none

/-- Carries out an operation and gives the delay that it asks for, if any. -/
def operate (config : StageConfig) (op : Operation) (argument : Value) :
    StageAction (Option Value) :=
  match op with
  | .move => do move config argument; return none
  | .turn => do turn argument; return none
  | .say => do say argument; return none
  | .wait => wait config argument

/-- The stage after an operation, and the delay that the operation asks for or why it failed. -/
def perform (config : StageConfig) (op : Operation) (argument : Value) (s : Stage) :
    Except OperationError (Option Value) × Stage :=
  (operate config op argument).run s

end Stage

end SpriteStage
