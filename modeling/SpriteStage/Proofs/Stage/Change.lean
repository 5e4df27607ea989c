import SpriteStage.Proofs.Run.Speech
import SpriteStage.Proofs.Number.Order

/-!
# What an operation does

An operation first changes the stage, then logs a line, and at last may ask for a delay.  Each of these
parts may fail, and a failure keeps what the parts before it have done.  `Stage.perform_eq` takes every
operation apart in this way, so that nothing that follows has to look at how it is carried out.

## Main definitions

* `Stage.change` is the stage after the change that an operation makes before it logs its line
* `Stage.line` is the line that it logs
* `Stage.delay` is the delay that it asks for
* `Stage.inParts` puts these three together
* `Stage.after` is the stage after some calls of operations
-/

namespace SpriteStage

/-- A value that counts as a double is multiplied with another one as that. -/
theorem Value.apply_mul_float {v : Value} {x : Float} (h : v.real = .ok x) (y : Float) :
    Value.apply .mul v (.float y) = .ok (.float (x * y)) := by
  cases v with
  | bool b =>
    show Except.map _ (Number.toFloat (.int (if b then 1 else 0)) >>= _) = _
    rw [show Number.toFloat (.int (if b then 1 else 0)) = .ok x from h]
    rfl
  | int n =>
    show Except.map _ (Number.toFloat (.int n) >>= _) = _
    rw [show Number.toFloat (.int n) = .ok x from h]
    rfl
  | float z =>
    cases h
    rfl
  | null | text _ | list _ | object _ => cases h

namespace Stage

/-! ## Changes -/

/-- A stage with another line in its log. -/
def logging (s : Stage) (line : String) : Stage := { s with log := s.log.push line }

/-- A stage whose sprite has moved on to a position. -/
def movedTo (s : Stage) (position : Point) : Stage :=
  { s with sprite := { s.sprite with
      x := position.x, y := position.y, trail := s.sprite.trail.push position } }

/-- A stage whose sprite has turned to a direction. -/
def turnedTo (s : Stage) (direction : Float) : Stage :=
  { s with sprite := { s.sprite with direction := direction } }

/-- The position that a move ends at. -/
def destination (config : StageConfig) (steps : Value) (s : Stage) : Except OperationError Point := do
  let distance ← Value.apply .mul steps.widen config.stepScale
  let dx ← times (← cosine (radians s.sprite.direction)) distance
  let dy ← times (← sine (radians s.sprite.direction)) distance
  let w ← half config.width
  let h ← half config.height
  return ⟨Double.clamp (s.sprite.x + dx) (-w) w, Double.clamp (s.sprite.y + dy) (-h) h⟩

/-- The seconds that a wait lasts before they are scaled. -/
def duration (seconds : Value) : Except OperationError Float := do
  (← Value.maximum seconds.widen (.int 0)).real

variable (config : StageConfig)

/-- The stage after the change that an operation makes before it logs its line. -/
def change (op : Operation) (argument : Value) (s : Stage) : Except OperationError Stage :=
  match op with
  | .move => (destination config argument s).map s.movedTo
  | .turn => (plus s.sprite.direction argument.widen).map fun d => s.turnedTo (normalize d)
  | .say => .ok (s.withSpeech argument)
  | .wait => (duration argument).map fun _ => s

/-- The line that an operation logs after its change. -/
def line (op : Operation) (argument : Value) : Except OperationError String :=
  match op with
  | .move => do return s!"Move {← argument.widen.logged} steps"
  | .turn => do
    let side := if ← Value.holds .greater argument.widen (.int 0) then "right" else "left"
    return s!"Turn {side} {← (← argument.widen.magnitude).logged}°"
  | .say => do return s!"Say: {← argument.logged}"
  | .wait => do return s!"Wait {Double.loggedFixed 1 (← duration argument)} second(s)"

/-- The delay that an operation asks for after it has logged its line. -/
def delay (op : Operation) (argument : Value) : Except OperationError (Option Value) :=
  match op with
  | .wait => do
    let seconds ← Value.maximum argument.widen (.int 0)
    if (← seconds.real) == 0 then return none
    let delay ← Value.apply .mul seconds config.waitScale
    return if ← Value.holds .greater delay (.int 0) then some delay else none
  | _ => .ok none

/-! ## The parts of an operation -/

theorem cosine_of_not_isInf {angle : Float} (h : angle.isInf = false) : cosine angle = .ok angle.cos := by
  rw [cosine, h, if_neg Bool.false_ne_true]

theorem sine_of_not_isInf {angle : Float} (h : angle.isInf = false) : sine angle = .ok angle.sin := by
  rw [sine, h, if_neg Bool.false_ne_true]

/-- Going on after a part that may fail and leaves the stage. -/
theorem run_liftM_bind {α β : Type} (x : Except OperationError α) (f : α → StageAction β) (s : Stage) :
    (liftM x >>= f).run s = match x with
      | .error e => (.error e, s)
      | .ok a => (f a).run s := by
  cases x <;> rfl

theorem run_pure {α : Type} (a : α) (s : Stage) : (pure a : StageAction α).run s = (.ok a, s) := by
  rw [ExceptT.run_pure]
  rfl

theorem run_get_bind {β : Type} (f : Stage → StageAction β) (s : Stage) :
    (get >>= f).run s = (f s).run s := by
  rw [run_bind_apply]
  rfl

theorem run_modify_bind {β : Type} (g : Stage → Stage) (f : Unit → StageAction β) (s : Stage) :
    (modify g >>= f).run s = (f ()).run (g s) := by
  rw [run_bind_apply]
  rfl

theorem run_record_bind {β : Type} (text : String) (f : Unit → StageAction β) (s : Stage) :
    (record text >>= f).run s = (f ()).run (s.logging text) :=
  run_modify_bind _ f s

/-- What an operation comes to part by part. -/
def inParts (op : Operation) (argument : Value) (s : Stage) :
    Except OperationError (Option Value) × Stage :=
  match change config op argument s with
  | .error e => (.error e, s)
  | .ok t =>
    match line op argument with
    | .error e => (.error e, t)
    | .ok text => (delay config op argument, t.logging text)

theorem perform_move_eq (steps : Value) (s : Stage) :
    s.perform config .move steps = inParts config .move steps s := by
  -- Each step of the arithmetic may fail, and nothing has been changed by then.
  simp only [perform, operate, move, place, bind_assoc, run_liftM_bind, run_get_bind, run_modify_bind,
    run_record_bind, run_pure]
  simp only [inParts, change, destination, line, delay, bind, Except.bind, pure, Except.pure]
  cases Value.apply .mul steps.widen config.stepScale with
  | error e => simp only [Except.map]
  | ok distance =>
    cases cosine (radians s.sprite.direction) with
    | error e => simp only [Except.map]
    | ok x =>
      -- The sine cannot fail after the cosine, but need not be looked into for that.
      cases hdx : times x distance with
      | error e => simp only [hdx, Except.map]
      | ok dx =>
        cases sine (radians s.sprite.direction) with
        | error e => simp only [hdx, Except.map]
        | ok y =>
          cases hdy : times y distance with
          | error e => simp only [hdx, hdy, Except.map]
          | ok dy =>
            cases half config.width with
            | error e => simp only [hdx, hdy, Except.map]
            | ok w =>
              cases half config.height with
              | error e => simp only [hdx, hdy, Except.map]
              | ok h =>
                cases steps.widen.logged <;>
                  simp only [hdx, hdy, Except.map, movedTo, logging]

theorem perform_turn_eq (degrees : Value) (s : Stage) :
    s.perform config .turn degrees = inParts config .turn degrees s := by
  simp only [perform, operate, turn, bind_assoc, run_liftM_bind, run_get_bind, run_modify_bind,
    run_record_bind, run_pure]
  simp only [inParts, change, line, delay, bind, Except.bind, pure, Except.pure]
  cases plus s.sprite.direction degrees.widen with
  | error e => simp only [Except.map]
  | ok d =>
    -- What can fail from here on belongs to the line.
    simp only [Except.map, turnedTo]
    cases Value.holds .greater degrees.widen (.int 0) with
    | error e => simp only
    | ok isRight =>
      cases degrees.widen.magnitude with
      | error e => simp only
      | ok magnitude => cases hlogged : magnitude.logged <;> simp only [hlogged, logging]

theorem perform_say_eq (message : Value) (s : Stage) :
    s.perform config .say message = inParts config .say message s := by
  simp only [perform, operate, say, bind_assoc, run_liftM_bind, run_modify_bind, run_record_bind, run_pure]
  simp only [inParts, change, line, delay, bind, Except.bind, pure, Except.pure, withSpeech]
  cases message.logged <;> simp only [logging]

theorem perform_wait_eq (seconds : Value) (s : Stage) :
    s.perform config .wait seconds = inParts config .wait seconds s := by
  simp only [perform, operate, wait, run_liftM_bind, run_record_bind]
  simp only [inParts, change, line, delay, duration]
  cases Value.maximum seconds.widen (.int 0) with
  | error e => simp only [bind, Except.bind, Except.map]
  | ok duration =>
    cases hreal : duration.real with
    | error e => simp only [hreal, bind, Except.bind, Except.map]
    | ok length =>
      -- The line has been logged before it is known whether there is a delay.
      simp only [hreal]
      by_cases hzero : length == 0
      · rw [if_pos hzero, run_pure]
        simp only [hreal, if_pos hzero, bind, Except.bind, pure, Except.pure, Except.map]
      · rw [if_neg hzero]
        simp only [run_liftM_bind, run_pure]
        simp only [hreal, if_neg hzero, bind, Except.bind, pure, Except.pure, Except.map]
        cases Value.apply .mul duration config.waitScale with
        | error e => simp only
        | ok product => cases hholds : Value.holds .greater product (.int 0) <;> simp only [hholds]

/-- **An operation changes the stage, logs a line and asks for a delay, in this order.** -/
theorem perform_eq (op : Operation) (argument : Value) (s : Stage) :
    s.perform config op argument =
      match change config op argument s with
      | .error e => (.error e, s)
      | .ok t =>
        match line op argument with
        | .error e => (.error e, t)
        | .ok text => (delay config op argument, t.logging text) := by
  cases op with
  | move => exact perform_move_eq config argument s
  | turn => exact perform_turn_eq config argument s
  | say => exact perform_say_eq config argument s
  | wait => exact perform_wait_eq config argument s

/-- The sprite after an operation is the one of the change, if that was made. -/
theorem sprite_perform (op : Operation) (argument : Value) (s : Stage) :
    (s.perform config op argument).2.sprite =
      match change config op argument s with
      | .error _ => s.sprite
      | .ok t => t.sprite := by
  rw [perform_eq]
  cases change config op argument s with
  | error e => rfl
  | ok t => cases line op argument <;> rfl

/-! ## Delays -/

/-- The delay of a wait for some seconds: what they are scaled to, if that is above zero. -/
def scaled (scale seconds : Float) : Option Value :=
  if seconds == 0 then none
  else if 0 < seconds * scale then some (.float (seconds * scale)) else none

/-- A wait for some seconds asks for what a double scales them to. -/
theorem delay_wait {scale seconds : Float} (hscale : config.waitScale = .float scale) {argument : Value}
    (h : duration argument = .ok seconds) : delay config .wait argument = .ok (scaled scale seconds) := by
  obtain ⟨v, hv, hreal⟩ := exists_of_bind_eq_ok h
  rw [delay, hv, hscale]
  simp only [bind, Except.bind, hreal]
  rw [scaled]
  by_cases hzero : seconds == 0
  · rw [if_pos hzero, if_pos hzero]
    rfl
  · rw [if_neg hzero, if_neg hzero, Value.apply_mul_float hreal]
    have hholds : Value.holds .greater (.float (seconds * scale)) (.int 0) =
        .ok (Number.compare? (.float (seconds * scale)) (.int 0) == some .gt) := rfl
    simp only [hholds, beq_iff_eq, Number.compare?_zero_gt]
    rfl

/-! ## Calls -/

/-- The stage after some calls of operations, each with its argument.  Calls that fail do not end them. -/
def after (calls : List (Operation × Value)) (s : Stage) : Stage :=
  calls.foldl (fun s call => (s.perform config call.1 call.2).2) s

/-- What holds at first and after every call holds after all of them. -/
theorem after_induction {P : Stage → Prop} {calls : List (Operation × Value)} {s : Stage} (hs : P s)
    (hstep : ∀ call ∈ calls, ∀ t, P t → P (t.perform config call.1 call.2).2) :
    P (after config calls s) := by
  induction calls generalizing s with
  | nil => exact hs
  | cons call calls ih =>
    exact ih (hstep call (by simp) s hs) fun c hc => hstep c (List.mem_cons_of_mem _ hc)

end Stage

end SpriteStage
