import SpriteStage.Proofs.Run.Moment

/-!
# The flat trace of a program

The steps of a program are its operations and failures in the order in which they come up, every
loop being unrolled and every group spliced.  `start_eq_flat_trace` says that a run does nothing else
than to take these steps on one fresh stage up to the first one that fails.

## Main definitions

* `Step` is an operation or a failure
* `Program.steps` is the flat trace
* `Step.play` takes steps on a stage
* `Stop.wording` and `Stop.label` are what a failing step says and how its kind is called
-/

namespace SpriteStage

/-! ## Steps -/

/-- A step of a program: an operation with its argument, or a failure. -/
inductive Step where
  | operation (op : Operation) (argument : Value)
  | failure (cause : Stop)

mutual

/-- The steps of an instruction.  A loop whose number of rounds cannot be found fails at its place. -/
def Instruction.steps : Instruction → List Step
  | .call op argument => [.operation op argument]
  | .loop times body =>
    match repeatCount times with
    | .ok n => (List.replicate n (Program.steps body)).flatten
    | .error e => [.failure (.operation e)]
  | .group body => Program.steps body
  | .fail message => [.failure (.fault message)]
  | .unsupported typeName => [.failure (.unsupported typeName)]

/-- The steps of a program, from left to right. -/
def Program.steps : List Instruction → List Step
  | [] => []
  | i :: rest => i.steps ++ Program.steps rest

end

namespace Step

/-- Takes one step on a stage: the delay that it sleeps for, if any, or why it fails. -/
def take (config : StageConfig) (s : Stage) : Step → Except Stop (Option Value) × Stage
  | .operation op argument =>
    let (outcome, s) := s.perform config op argument
    (outcome.mapError .operation, s)
  | .failure cause => (.error cause, s)

/-- Takes steps in order up to the first one that fails: the delays, and the stage at the end or the
    cause of the failure. -/
def play (config : StageConfig) : List Step → Stage → List Value × Except Stop Stage
  | [], s => ([], .ok s)
  | x :: rest, s =>
    match x.take config s with
    | (.error cause, _) => ([], .error cause)
    | (.ok delay, s) =>
      let later := play config rest s
      (delay.toList ++ later.1, later.2)

/-- Taking an operation first. -/
theorem play_operation (config : StageConfig) (op : Operation) (argument : Value)
    (rest : List Step) (s : Stage) :
    play config (.operation op argument :: rest) s =
      match s.perform config op argument with
      | (.error e, _) => ([], .error (.operation e))
      | (.ok delay, t) => (delay.toList ++ (play config rest t).1, (play config rest t).2) := by
  rw [play, take]
  rcases s.perform config op argument with ⟨_ | _, t⟩ <;> rfl

end Step

/-! ## Steps among the moments -/

/-- The step of a moment; a dispatch is none. -/
def Moment.step? : Moment → Option Step
  | .dispatch _ => none
  | .operation op argument => some (.operation op argument)
  | .failure cause => some (.failure cause)

private theorem filterMap_flatten_replicate {α β : Type} (f : α → Option β) (n : Nat)
    (xs : List α) :
    (List.replicate n xs).flatten.filterMap f = (List.replicate n (xs.filterMap f)).flatten := by
  rw [List.filterMap_flatten, List.map_replicate]

mutual

/-- The steps of an instruction are those among its moments. -/
theorem Instruction.filterMap_moments :
    ∀ i : Instruction, i.moments.filterMap Moment.step? = i.steps
  | .call op argument => rfl
  | .loop times body => by
    rw [Instruction.moments, Instruction.steps]
    cases repeatCount times with
    | error e => rfl
    | ok n =>
      rw [List.filterMap_cons_none rfl, filterMap_flatten_replicate,
        Program.filterMap_moments body]
  | .group body => by
    rw [Instruction.moments, Instruction.steps, List.filterMap_cons_none rfl, Program.filterMap_moments body]
  | .fail message => rfl
  | .unsupported typeName => rfl

/-- The steps of a program are those among its moments. -/
theorem Program.filterMap_moments :
    ∀ p : List Instruction, (Program.moments p).filterMap Moment.step? = Program.steps p
  | [] => rfl
  | i :: rest => by
    rw [Program.moments, Program.steps, List.filterMap_append, Instruction.filterMap_moments i,
      Program.filterMap_moments rest]

end

/-- While nobody abandons the run and every sleep lasts its time, playing moments is taking the steps
    among them. -/
theorem Moment.play_elapsed (config : StageConfig) (ms : List Moment) (k : Nat) (s : Stage) :
    Moment.play config (fun _ => {}) k ms ⟨s, false⟩ =
      let taken := Step.play config (ms.filterMap Moment.step?) s
      (taken.1, taken.2.map (⟨·, false⟩)) := by
  -- By induction on the moments; a dispatch is passed because nobody abandons the run.
  induction ms generalizing k s with
  | nil => rfl
  | cons m ms ih =>
    cases m with
    | dispatch i =>
      rw [List.filterMap_cons_none rfl, play]
      exact ih k s
    | failure cause => rfl
    | operation op argument =>
      rw [List.filterMap_cons_some (rfl : step? _ = some (.operation op argument)), play,
        Step.play_operation]
      rcases s.perform config op argument with ⟨e | (_ | delay), t⟩
      · rfl
      · exact ih k t
      · simp only [ih (k + 1) t]
        rfl

/-! ## What a failing step says -/

/-- The message that a failing step comes with; it may be empty. -/
def Stop.wording (runId : Int) : Stop → String
  | .operation e => e.message
  | .fault message => message
  | .unsupported typeName => "Unsupported instruction: " ++ typeName
  | .abandoned => "Run " ++ toString runId ++ " was abandoned."
  | .sleep message _ => message

/-- How the kind of a failure is called. -/
def Stop.label : Stop → String
  | .operation e =>
    match e.category with
    | .type => "TypeError"
    | .zeroDivision => "ZeroDivisionError"
    | .overflow => "OverflowError"
    | .value => "ValueError"
  | .fault _ => "ProgramFault"
  | .unsupported _ => "ProgramValidationError"
  | .abandoned => "RunAbandonedError"
  | .sleep _ name => name.text

/-- No operation fails without a message. -/
theorem OperationError.message_ne_empty (e : OperationError) : e.message ≠ "" := by
  cases e with
  | zeroDivision which => cases which <;> exact of_decide_eq_true rfl
  | _ =>
    delta message
    simp [toString]

private theorem orLabel_of_ne_empty {message : String} (label : String) (h : message ≠ "") :
    orLabel message label = message := by
  rw [orLabel, String.isEmpty_eq_false_iff.mpr h]
  rfl

/-- A failing step is reported with its message, or with the name of its kind if that is empty. -/
theorem Stop.message_eq_orLabel (runId : Int) (cause : Stop) :
    cause.message runId = orLabel (cause.wording runId) cause.label := by
  cases cause with
  | operation e => exact (orLabel_of_ne_empty _ e.message_ne_empty).symm
  | fault message => rfl
  | unsupported typeName =>
    have h : "Unsupported instruction: " ++ typeName ≠ "" := by simp
    exact (orLabel_of_ne_empty _ h).symm
  | abandoned =>
    have h : "Run " ++ toString runId ++ " was abandoned." ≠ "" := by simp
    exact (orLabel_of_ne_empty _ h).symm
  | sleep message name => rfl

/-! ## The log of a completed run -/

/-- The log of a completed run is its lines and the report, joined by line ends. -/
theorem Stage.history_eq_intercalate (s : Stage) :
    s.history = "\n".intercalate (s.log.toList ++ [s.report]) := by
  rw [history, logText]
  -- An empty log has no line end before the report.
  by_cases h : s.log = #[]
  · simp [h]
  · have hlines : s.log.toList ≠ [] := by simpa using h
    rw [String.intercalate_append_of_ne_nil hlines (by simp)]
    simp [h]

/-! ## A run takes the steps of its program -/

/-- What a run that took its steps ends with: the sprite and the log of the stage, or an error. -/
def RunOutcome.ofSteps (runId : Int) : Except Stop Stage → RunOutcome
  | .ok s => .completed s.sprite ("\n".intercalate (s.log.toList ++ [s.report]))
  | .error cause => .failed (orLabel (cause.wording runId) cause.label)

/-- The scene at the end of a run shows its stage only. -/
theorem Course.outcome_map (runId : Int) (x : Except Stop Stage) (abandoned : Bool) :
    outcome runId (x.map (⟨·, abandoned⟩)) = RunOutcome.ofSteps runId x := by
  cases x with
  | ok s => simp [outcome, RunOutcome.ofSteps, Except.map, Stage.history_eq_intercalate]
  | error cause => simp [outcome, RunOutcome.ofSteps, Except.map, Stop.message_eq_orLabel]

/-- The course of a run plays the moments of its program. -/
theorem Run.completeFrom_course (r : Run) {p : Program} (hp : r.program.1 = .ok p)
    (wakes : Nat → Wake) (k : Nat) :
    r.course.completeFrom wakes k =
      let played := Moment.play r.config wakes k (Program.moments p) ⟨{}, r.abandoned⟩
      (played.1, ⟨r.runId, Course.outcome r.runId played.2⟩) := by
  rw [course, hp]
  simp only [Resumption.completeFrom_bind_done, Course.completeFrom_executeAll]

/-- While nobody abandons a run and every sleep lasts its time, its course takes the steps of its
    program. -/
theorem Run.complete_course (r : Run) {p : Program} (hp : r.program.1 = .ok p)
    (hr : r.abandoned = false) :
    r.course.complete {} =
      let taken := Step.play r.config (Program.steps p) {}
      (taken.1, ⟨r.runId, RunOutcome.ofSteps r.runId taken.2⟩) := by
  rw [Resumption.complete, r.completeFrom_course hp, hr, Moment.play_elapsed,
    Program.filterMap_moments]
  simp only [Course.outcome_map]

/-- **The executor refines the flat trace.**  A run of a program can be started; while nobody
    abandons it and every sleep lasts its time, it sleeps for the delays of the steps of the program,
    taken on a fresh stage up to the first one that fails, and it ends with what they end with. -/
theorem start_eq_flat_trace (runId : Int) (config : StageConfig) (handle : String) (p : Program) :
    let r : Run := { runId := runId, source := .program p, config := config, handle := handle }
    let taken := Step.play config (Program.steps p) {}
    ∃ course, r.start = .ok (r.launch, course) ∧
      course.complete {} = (taken.1, r.settle ⟨runId, RunOutcome.ofSteps runId taken.2⟩) := by
  intro r taken
  refine ⟨_, rfl, ?_⟩
  rw [Resumption.complete_bind_done, r.complete_course rfl rfl]

end SpriteStage
