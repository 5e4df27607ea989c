import SpriteStage.Proofs.Run.FlatTrace
import SpriteStage.Proofs.Program.Codec
import SpriteStage.Proofs.Program.Compiled
import SpriteStage.Proofs.Stage.Change
import SpriteStage.Run.Payload

/-!
# Replaying the payload of a program

The payload of a compiled program reads back as a program that takes the same steps, with its arguments
read back.  Nothing that a sprite does depends on what it says, so that saying a double that is spelled
out changes the speech alone, and not even that in a payload.
-/

namespace SpriteStage

/-! ## Steps -/

/-- What a step reads back as. -/
def Step.decoded : Step → Step
  | .operation op argument => .operation op (op.decoded argument)
  | .failure cause => .failure cause

/-- Whether a step carries out an operation on a number, but has a spelled-out text instead. -/
def Step.isSpelled : Step → Bool
  | .operation op argument => op.isNumeric && argument.isSpelled
  | .failure _ => false

mutual

theorem Instruction.steps_decoded :
    ∀ i : Instruction, i.isCompiled = true → i.decoded.steps = i.steps.map Step.decoded
  | .call op argument, _ => rfl
  | .loop (.int n) body, h => by
    rw [Instruction.isCompiled, Bool.and_eq_true] at h
    rw [Instruction.decoded, Instruction.steps, Instruction.steps, Program.steps_decoded body h.2]
    -- The number of rounds is written as it is.
    have htimes : Payload.toNumeric (Payload.ofValue (.int n)) = .int n := rfl
    rw [htimes]
    cases repeatCount (.int n) with
    | error e => rfl
    | ok n => rw [List.map_flatten, List.map_replicate]
  | .fail message, _ => rfl

/-- A compiled program that is read back takes the same steps, each of them read back. -/
theorem Program.steps_decoded :
    ∀ p : List Instruction, Program.isCompiled p = true →
      Program.steps (Program.decoded p) = (Program.steps p).map Step.decoded
  | [], _ => rfl
  | i :: rest, h => by
    rw [Program.isCompiled, Bool.and_eq_true] at h
    rw [Program.decoded, Program.steps, Program.steps, List.map_append,
      Instruction.steps_decoded i h.1, Program.steps_decoded rest h.2]

end

/-! ## Spelling out what is said -/

/-- A stage whose sprite says what a payload writes. -/
def Stage.spelled (s : Stage) : Stage := s.withSpeech (Payload.ofValue s.sprite.speech)

/-- What a sprite says is spelled out in its payload anyway. -/
theorem Payload.ofSprite_spelled (s : Stage) :
    Payload.ofSprite s.spelled.sprite = Payload.ofSprite s.sprite := by
  simp [Payload.ofSprite, Stage.spelled, Stage.withSpeech]

/-- A run on a stage whose sprite says what a payload writes has the same payload. -/
theorem Payload.ofResult_spelled (runId : Int) (x : Except Stop Stage) :
    ofResult ⟨runId, RunOutcome.ofSteps runId (x.map Stage.spelled)⟩ =
      ofResult ⟨runId, RunOutcome.ofSteps runId x⟩ := by
  cases x with
  | error cause => rfl
  | ok s =>
    simp only [Except.map, ofResult, RunOutcome.ofSteps, ofSprite_spelled]
    rfl

namespace Stage

variable (config : StageConfig)

/-- An operation that is read back does the same; what it says is spelled out. -/
theorem perform_decoded {op : Operation} {argument : Value}
    (h : (op.isNumeric && argument.isSpelled) = false) (s : Stage) :
    s.spelled.perform config op (op.decoded argument) =
      ((s.perform config op argument).1, (s.perform config op argument).2.spelled) := by
  cases hop : op.isNumeric with
  | true =>
    -- The argument reads back as it is, and the speech does not matter.
    have hargument : op.decoded argument = argument := by
      rw [hop, Bool.true_and] at h
      rw [Operation.decoded, if_pos hop, Payload.toNumeric_ofValue h]
    rw [hargument]
    have hignores := StageAction.ignoresSpeech_operate config hop argument s
    rw [spelled, spelled, speech_perform config hop]
    exact hignores _
  | false =>
    obtain rfl : op = .say := by cases op <;> simp_all [Operation.isNumeric]
    -- The log has the same line, and the speech is spelled out.
    have hlogged := Payload.logged_ofValue argument
    show (operate config .say (Payload.ofValue argument)).run s.spelled =
      (((operate config .say argument).run s).1, ((operate config .say argument).run s).2.spelled)
    simp only [operate, say, hlogged]
    cases argument.logged <;> rfl

/-- An operation on a number fails if it has a spelled-out text instead. -/
theorem perform_isSpelled {op : Operation} {argument : Value} (hop : op.isNumeric = true)
    (hargument : argument.isSpelled = true) (s : Stage) :
    ∃ e, (s.perform config op argument).1 = .error e := by
  cases argument with
  | text t =>
    cases op with
    | move =>
      -- A text can be repeated, but the cosine of the angle cannot be multiplied by it.
      have hrepeated : Value.apply .mul (.text t) config.stepScale =
          (Value.repetitionCount config.stepScale).map
            fun n => .text (.ofList (Value.repeated n t.toList)) := rfl
      obtain ⟨e, he⟩ : ∃ e, destination config (.text t) s = .error e := by
        simp only [destination, Value.widen, hrepeated]
        cases Value.repetitionCount config.stepScale with
        | error e => exact ⟨e, rfl⟩
        | ok n =>
          cases cosine (radians s.sprite.direction) with
          | error e => exact ⟨e, rfl⟩
          | ok x => exact ⟨_, rfl⟩
      exact ⟨e, by rw [perform_eq, change, he]; rfl⟩
    | turn => exact ⟨_, rfl⟩
    | wait => exact ⟨_, rfl⟩
    | say => cases hop
  | _ => cases hargument

end Stage

/-! ## Runs -/

namespace Step

variable (config : StageConfig)

/-- Whether steps that are taken on a stage come to an operation on a number that has a spelled-out
    text instead. -/
def reachesSpelled : List Step → Stage → Bool
  | [], _ => false
  | x :: rest, s =>
    x.isSpelled ||
      match x.take config s with
      | (.ok _, t) => reachesSpelled rest t
      | (.error _, _) => false

/-- A step that is read back does the same; what it says is spelled out. -/
theorem take_decoded {x : Step} (h : x.isSpelled = false) (s : Stage) :
    x.decoded.take config s.spelled = ((x.take config s).1, (x.take config s).2.spelled) := by
  cases x with
  | operation op argument =>
    simp only [decoded, take, Stage.perform_decoded config h]
  | failure cause => rfl

/-- Steps that are read back do the same, if they come to no spelled-out text. -/
theorem play_decoded {steps : List Step} {s : Stage} (h : reachesSpelled config steps s = false) :
    play config (steps.map decoded) s.spelled =
      ((play config steps s).1, (play config steps s).2.map Stage.spelled) := by
  induction steps generalizing s with
  | nil => rfl
  | cons x rest ih =>
    rw [reachesSpelled, Bool.or_eq_false_iff] at h
    rw [List.map_cons, play, play, take_decoded config h.1]
    obtain ⟨-, hrest⟩ := h
    rcases htake : x.take config s with ⟨cause | delay, t⟩
    · rfl
    · rw [htake] at hrest
      simp only [ih hrest]

/-- Steps that come to a spelled-out text fail. -/
theorem play_reachesSpelled {steps : List Step} {s : Stage}
    (h : reachesSpelled config steps s = true) : ∃ cause, (play config steps s).2 = .error cause := by
  induction steps generalizing s with
  | nil => cases h
  | cons x rest ih =>
    rw [reachesSpelled, Bool.or_eq_true] at h
    rw [play]
    rcases htake : x.take config s with ⟨cause | delay, t⟩
    · exact ⟨cause, rfl⟩
    · -- The step did not fail, so it was none on a spelled-out text itself.
      rw [htake] at h
      refine ih (h.resolve_left fun hspelled => ?_)
      cases x with
      | operation op argument =>
        rw [isSpelled, Bool.and_eq_true] at hspelled
        obtain ⟨e, he⟩ := Stage.perform_isSpelled config hspelled.1 hspelled.2 s
        simp [take, he, Except.mapError] at htake
      | failure cause => cases hspelled

end Step

mutual

theorem Instruction.isWritable_of_isCompiled :
    ∀ i : Instruction, i.isCompiled = true → i.isWritable = true
  | .call op argument, _ => rfl
  | .loop (.int n) body, h => by
    rw [Instruction.isCompiled, Bool.and_eq_true] at h
    exact Program.isWritable_of_isCompiled body h.2
  | .fail message, _ => rfl

/-- A compiled program has a payload. -/
theorem Program.isWritable_of_isCompiled :
    ∀ p : List Instruction, Program.isCompiled p = true → Program.isWritable p = true
  | [], _ => rfl
  | i :: rest, h => by
    rw [Program.isCompiled, Bool.and_eq_true] at h
    rw [Program.isWritable, Instruction.isWritable_of_isCompiled i h.1,
      Program.isWritable_of_isCompiled rest h.2]
    rfl

end

/-- **The payload of a compiled program replays.**  It reads back as a program.  A run of that program
    and a run of the compiled one, with the same number and configuration, sleep as long and end with
    the same payload, unless the compiled one comes to an operation on a number that has a spelled-out
    text instead: there it fails, while the replayed one goes on with the double. -/
theorem payload_replays {handle text : String} {p : Program}
    (hp : (compile handle text).1 = .ok p) (runId : Int) (config : StageConfig) :
    ∃ payload q, Payload.ofProgram p = .ok payload ∧ Payload.toProgram payload = .ok q ∧
      let direct : Run := { runId := runId, source := .program p, config := config }
      let replayed : Run := { runId := runId, source := .program q, config := config }
      (Step.reachesSpelled config (Program.steps p) {} = false →
        (replayed.course.complete {}).1 = (direct.course.complete {}).1 ∧
        Payload.ofResult replayed.finish = Payload.ofResult direct.finish) ∧
      (Step.reachesSpelled config (Program.steps p) {} = true → direct.finish.isCompleted = false) := by
  have hcompiled := isCompiled_of_compile hp
  obtain ⟨payload, hpayload, hread⟩ :=
    Payload.exists_ofProgram (Program.isWritable_of_isCompiled p hcompiled)
  refine ⟨payload, _, hpayload, hread, ?_⟩
  intro direct replayed
  have hdirect : direct.course.complete {} =
      let taken := Step.play config (Program.steps p) {}
      (taken.1, ⟨runId, RunOutcome.ofSteps runId taken.2⟩) := direct.complete_course rfl rfl
  have hreplayed : replayed.course.complete {} =
      let taken := Step.play config ((Program.steps p).map Step.decoded) {}
      (taken.1, ⟨runId, RunOutcome.ofSteps runId taken.2⟩) := by
    rw [← Program.steps_decoded p hcompiled]
    exact replayed.complete_course rfl rfl
  rw [Run.finish, Run.finish, hdirect, hreplayed]
  refine ⟨fun h => ?_, fun h => ?_⟩
  · -- Both runs start on a stage whose sprite says nothing.
    have hplay : Step.play config ((Program.steps p).map Step.decoded) {} = _ :=
      Step.play_decoded config h
    rw [hplay]
    exact ⟨rfl, Payload.ofResult_spelled _ _⟩
  · obtain ⟨cause, hfailed⟩ := Step.play_reachesSpelled config h
    simp only [hfailed]
    rfl

/-- A run that says what is spelled out in its payload, and sleeps. -/
theorem payload_replays_of_said_nan :
    let text := "runtime.say(float('nan'))\nruntime.wait(4)\n"
    ∃ p payload q, (compile "runtime" text).1 = .ok p ∧
      Payload.ofProgram p = .ok payload ∧ Payload.toProgram payload = .ok q ∧
      let direct : Run := { runId := 1, source := .program p }
      let replayed : Run := { runId := 1, source := .program q }
      (replayed.course.complete {}).1 = (direct.course.complete {}).1 ∧
        Payload.ofResult replayed.finish = Payload.ofResult direct.finish := by
  intro text
  have h : (compile "runtime" text).1.toOption.map
      (fun p => Step.reachesSpelled {} (Program.steps p) {}) = some false := by decide +kernel
  cases hp : (compile "runtime" text).1 with
  | error e =>
    rw [hp] at h
    cases h
  | ok p =>
    rw [hp] at h
    have hreaches : Step.reachesSpelled {} (Program.steps p) {} = false := Option.some.inj h
    obtain ⟨payload, q, hpayload, hq, hsame, -⟩ := payload_replays hp 1 {}
    exact ⟨p, payload, q, rfl, hpayload, hq, hsame hreaches⟩

/-- Runs with the same payload both complete or both fail. -/
theorem Payload.isCompleted_eq_of_ofResult {r r' : RunResult} (h : ofResult r = ofResult r') :
    r.isCompleted = r'.isCompleted := by
  -- The error is there exactly if the run failed.
  obtain ⟨runId, _ | _⟩ := r <;> obtain ⟨runId', _ | _⟩ := r' <;> first
    | rfl
    | simp [ofResult] at h

/-- A text in the place of a number does not replay: the run of the program fails, and that of what its
    payload reads back as completes. -/
theorem spelled_text_replays_otherwise :
    let text := "runtime.wait('NaN')\n"
    ∃ p payload q, (compile "runtime" text).1 = .ok p ∧
      Payload.ofProgram p = .ok payload ∧ Payload.toProgram payload = .ok q ∧
      let direct : Run := { runId := 1, source := .program p }
      let replayed : Run := { runId := 1, source := .program q }
      Payload.ofResult replayed.finish ≠ Payload.ofResult direct.finish := by
  intro text
  let finished (p : Program) : Bool :=
    ({ runId := 1, source := .program p } : Run).finish.isCompleted
  have h : (compile "runtime" text).1.toOption.map
      (fun p => (finished p, finished (Program.decoded p))) = some (false, true) := by decide +kernel
  cases hp : (compile "runtime" text).1 with
  | error e =>
    rw [hp] at h
    cases h
  | ok p =>
    rw [hp] at h
    obtain ⟨hdirect, hreplayed⟩ := Prod.mk.inj (Option.some.inj h)
    obtain ⟨payload, hpayload, hread⟩ :=
      Payload.exists_ofProgram (Program.isWritable_of_isCompiled p (isCompiled_of_compile hp))
    refine ⟨p, payload, _, rfl, hpayload, hread, fun heq => ?_⟩
    -- The text is read back as not-a-number, and the replayed run completes.
    have hsame : finished (Program.decoded p) = finished p := Payload.isCompleted_eq_of_ofResult heq
    rw [hdirect, hreplayed] at hsame
    cases hsame

end SpriteStage
