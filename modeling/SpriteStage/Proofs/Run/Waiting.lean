import SpriteStage.Proofs.Run.FlatTrace
import SpriteStage.Proofs.Stage.Change

/-!
# Waiting

How fast time passes decides only how long a run sleeps: two runs that scale their waits by different
doubles take the same steps and end with the same result.

## Main definitions

* `StageConfig.scaledBy` is a configuration with another scale of waiting
* `Run.waits` are the seconds of the waits that a run carries out

## Main results

* `Step.take_scaledBy` takes one step at all scales
* `complete_course_scaledBy` compares whole runs
-/

namespace SpriteStage

/-- A configuration with a double as scale of waiting. -/
def StageConfig.scaledBy (config : StageConfig) (scale : Float) : StageConfig :=
  { config with waitScale := .float scale }

namespace Step

/-- How many seconds a step waits for, if it is a wait. -/
def seconds? : Step → Option Float
  | .operation .wait argument => (Stage.duration argument).toOption
  | _ => none

/-- The steps that are taken with success before the first one that fails. -/
def taken (config : StageConfig) : List Step → Stage → List Step
  | [], _ => []
  | x :: rest, s =>
    match x.take config s with
    | (.error _, _) => []
    | (.ok _, t) => x :: taken config rest t

variable (config : StageConfig)

/-- Whatever the scale, a step fails in the same way, or it does the same to the stage and asks for what
    the seconds that it waits for are scaled to. -/
theorem take_scaledBy (step : Step) (s : Stage) :
    (∃ cause t, ∀ scale, step.take (config.scaledBy scale) s = (.error cause, t)) ∨
      ∃ t, ∀ scale,
        step.take (config.scaledBy scale) s = (.ok (step.seconds?.bind (Stage.scaled scale)), t) := by
  cases step with
  | failure cause => exact .inl ⟨cause, s, fun _ => rfl⟩
  | operation op argument =>
    simp only [take, Stage.perform_eq]
    -- Neither the change nor the line depends on the scale.
    have hchange : ∀ scale, Stage.change (config.scaledBy scale) op argument s =
        Stage.change config op argument s := by
      intro scale
      cases op <;> rfl
    simp only [hchange]
    cases hchanged : Stage.change config op argument s with
    | error e => exact .inl ⟨.operation e, s, fun _ => rfl⟩
    | ok t =>
      cases hline : Stage.line op argument with
      | error e => exact .inl ⟨.operation e, t, fun _ => rfl⟩
      | ok text =>
        refine .inr ⟨t.logging text, fun scale => ?_⟩
        cases op with
        | wait =>
          obtain ⟨seconds, hseconds, -⟩ := exists_of_map_eq_ok hchanged
          simp only [Stage.delay_wait (config.scaledBy scale) rfl hseconds, seconds?, hseconds]
          rfl
        | _ => rfl

/-- By induction on the steps: they are the same at all scales, and so is what comes of them. -/
theorem play_scaledBy (steps : List Step) (s : Stage) :
    ∃ done outcome, ∀ scale, taken (config.scaledBy scale) steps s = done ∧
      play (config.scaledBy scale) steps s =
        ((done.filterMap seconds?).filterMap (Stage.scaled scale), outcome) := by
  induction steps generalizing s with
  | nil => exact ⟨[], .ok s, fun _ => ⟨rfl, rfl⟩⟩
  | cons step rest ih =>
    rcases take_scaledBy config step s with ⟨cause, t, htake⟩ | ⟨t, htake⟩
    · refine ⟨[], .error cause, fun scale => ?_⟩
      rw [taken, play, htake]
      exact ⟨rfl, rfl⟩
    · obtain ⟨done, outcome, hrest⟩ := ih t
      refine ⟨step :: done, outcome, fun scale => ?_⟩
      obtain ⟨htaken, hplay⟩ := hrest scale
      rw [taken, play, htake]
      simp only [htaken, hplay, true_and]
      cases hseconds : step.seconds? with
      | none => simp [hseconds]
      | some seconds =>
        rw [List.filterMap_cons_some hseconds]
        cases hscaled : Stage.scaled scale seconds <;> simp [hscaled]

end Step

/-- The seconds of the waits that a run carries out, in order. -/
def Run.waits (r : Run) : List Float :=
  match r.program.1 with
  | .error _ => []
  | .ok p => (Step.taken r.config (Program.steps p) {}).filterMap Step.seconds?

/-- Only delays above zero are slept. -/
theorem Stage.exists_of_scaled {scale seconds : Float} {delay : Value}
    (h : Stage.scaled scale seconds = some delay) : ∃ d : Float, delay = .float d ∧ 0 < d := by
  rw [scaled] at h
  split at h
  · cases h
  · split at h
    · cases h
      exact ⟨_, rfl, ‹_›⟩
    · cases h

/-- **Waiting never influences what comes of a run.**  Take a run of any program, as a text or as
    instructions, at two scales of waiting, which may be any doubles.  While nobody abandons it and every
    sleep lasts its time, it ends with the same result and carries out the same waits at both scales.  At
    either of them it sleeps, in order, for the scaled seconds of those waits that are neither zero nor
    scaled to something that is not above zero; so it never sleeps for zero, less or not-a-number. -/
theorem complete_course_scaledBy (runId : Int) (source : RunSource) (config : StageConfig)
    (handle : String) (x y : Float) :
    let run (scale : Float) : Run :=
      { runId := runId, source := source, config := config.scaledBy scale, handle := handle }
    ((run x).course.complete {}).2 = ((run y).course.complete {}).2 ∧ (run x).waits = (run y).waits ∧
      ∀ scale, ((run scale).course.complete {}).1 = (run scale).waits.filterMap (Stage.scaled scale) ∧
        ∀ delay ∈ ((run scale).course.complete {}).1, ∃ d : Float, delay = .float d ∧ 0 < d := by
  intro run
  obtain ⟨waits, result, hrun⟩ : ∃ waits result, ∀ scale, (run scale).waits = waits ∧
      (run scale).course.complete {} = (waits.filterMap (Stage.scaled scale), result) := by
    -- A program does not depend on the scale; a text that is none waits for nothing.
    have hprogram : ∀ scale, (run scale).program.1 = (run x).program.1 := fun _ => rfl
    cases hcompiled : (run x).program.1 with
    | error e =>
      refine ⟨[], ⟨runId, .failed e⟩, fun scale => ?_⟩
      rw [Run.waits, Run.course, hprogram, hcompiled]
      exact ⟨rfl, rfl⟩
    | ok p =>
      obtain ⟨done, outcome, hplay⟩ := Step.play_scaledBy config (Program.steps p) {}
      refine ⟨done.filterMap Step.seconds?, ⟨runId, .ofSteps runId outcome⟩, fun scale => ?_⟩
      obtain ⟨htaken, hplayed⟩ := hplay scale
      rw [Run.waits, (run scale).complete_course ((hprogram scale).trans hcompiled) rfl, hprogram, hcompiled]
      exact ⟨congrArg (List.filterMap Step.seconds?) htaken, by simp only [run, hplayed]⟩
  refine ⟨by rw [(hrun x).2, (hrun y).2], by rw [(hrun x).1, (hrun y).1], fun scale => ?_⟩
  rw [(hrun scale).1, (hrun scale).2]
  refine ⟨rfl, fun delay hdelay => ?_⟩
  obtain ⟨seconds, -, hscaled⟩ := List.mem_filterMap.1 hdelay
  exact Stage.exists_of_scaled hscaled

end SpriteStage
