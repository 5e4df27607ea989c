import SpriteStage.Proofs.Run.FlatTrace

/-!
# Abandoning a run

A run that is abandoned stops where the next instruction is dispatched, and nowhere else.
`abandoned_run_stops_at_next_dispatch` compares a run with the same run abandoned during one of its
sleeps: up to that sleep both do the same; after it the abandoned one fails, unless the undisturbed
one has nothing left to dispatch.

## Main definitions

* `Event` is a dispatch or a sleep of an undisturbed run, `Run.events` lists them
* `Event.afterSleep` is what comes after a sleep
* `abandonedDuring` is the way in which the sleeps of an abandoned run end
-/

namespace SpriteStage

/-! ## What an undisturbed run does -/

/-- What can be seen of a run: an instruction is dispatched, or the run sleeps. -/
inductive Event where
  | dispatch (instruction : Instruction)
  | sleep (delay : Value)

namespace Event

/-- Whether an instruction is dispatched. -/
def isDispatch : Event → Bool
  | .dispatch _ => true
  | .sleep _ => false

/-- The delay of a sleep. -/
def delay? : Event → Option Value
  | .dispatch _ => none
  | .sleep delay => some delay

/-- The events after the `k`-th sleep; all of them for `k = 0`. -/
def afterSleep : Nat → List Event → List Event
  | 0, events => events
  | _ + 1, [] => []
  | k + 1, .dispatch _ :: rest => afterSleep (k + 1) rest
  | k + 1, .sleep _ :: rest => afterSleep k rest

end Event

/-- The events of moments that are played on a stage while nobody disturbs them. -/
def Moment.events (config : StageConfig) : List Moment → Stage → List Event
  | [], _ => []
  | .dispatch i :: rest, s => .dispatch i :: events config rest s
  | .failure _ :: _, _ => []
  | .operation op argument :: rest, s =>
    match s.perform config op argument with
    | (.error _, _) => []
    | (.ok none, s) => events config rest s
    | (.ok (some delay), s) => .sleep delay :: events config rest s

/-- The events of a run that nobody disturbs.  One whose text is no program has none. -/
def Run.events (r : Run) : List Event :=
  match r.program.1 with
  | .ok p => Moment.events r.config (Program.moments p) {}
  | .error _ => []

/-- How the sleeps of a run end that is abandoned during its `k`-th sleep: all of them last their
    time, and from that one on the run is abandoned. -/
def abandonedDuring (k : Nat) (sleep : Nat) : Wake := { abandoned := decide (k ≤ sleep + 1) }

/-- The result of a run that has noticed that it is abandoned. -/
def RunResult.abandoned (runId : Int) : RunResult :=
  ⟨runId, .failed ("Run " ++ toString runId ++ " was abandoned.")⟩

/-! ## Every operation is dispatched -/

/-- Moments among which every operation and every failure comes right after a dispatch. -/
inductive Moment.Guarded : List Moment → Prop where
  | nil : Guarded []
  | dispatch (i : Instruction) {rest : List Moment} :
      Guarded rest → Guarded (.dispatch i :: rest)
  | operation (i : Instruction) (op : Operation) (argument : Value) {rest : List Moment} :
      Guarded rest → Guarded (.dispatch i :: .operation op argument :: rest)
  | failure (i : Instruction) (cause : Stop) {rest : List Moment} :
      Guarded rest → Guarded (.dispatch i :: .failure cause :: rest)

namespace Moment.Guarded

theorem append {xs ys : List Moment} (hxs : Guarded xs) (hys : Guarded ys) :
    Guarded (xs ++ ys) := by
  induction hxs with
  | nil => exact hys
  | dispatch i _ ih => exact .dispatch i ih
  | operation i op argument _ ih => exact .operation i op argument ih
  | failure i cause _ ih => exact .failure i cause ih

theorem flatten_replicate {xs : List Moment} (hxs : Guarded xs) (n : Nat) :
    Guarded (List.replicate n xs).flatten := by
  induction n with
  | zero => exact .nil
  | succ n ih =>
    rw [List.replicate_succ, List.flatten_cons]
    exact hxs.append ih

end Moment.Guarded

mutual

/-- The moments of an instruction are guarded. -/
theorem Instruction.guarded_moments : ∀ i : Instruction, Moment.Guarded i.moments
  | .call op argument => .operation _ op argument .nil
  | .loop times body => by
    rw [Instruction.moments]
    cases repeatCount times with
    | error e => exact .failure _ _ .nil
    | ok n => exact .dispatch _ ((Program.guarded_moments body).flatten_replicate n)
  | .group body => .dispatch _ (Program.guarded_moments body)
  | .fail message => .failure _ _ .nil
  | .unsupported typeName => .failure _ _ .nil

/-- The moments of a program are guarded. -/
theorem Program.guarded_moments : ∀ p : List Instruction, Moment.Guarded (Program.moments p)
  | [] => .nil
  | i :: rest => (Instruction.guarded_moments i).append (Program.guarded_moments rest)

end

/-! ## Playing on after abandonment -/

namespace Moment

variable (config : StageConfig)

/-- On an abandoned scene guarded moments stop at once, unless there are none. -/
theorem Guarded.play_abandoned {ms : List Moment} (hms : Guarded ms) (wakes : Nat → Wake) (k : Nat)
    (s : Stage) :
    play config wakes k ms ⟨s, true⟩ =
      ([], if (events config ms s).any Event.isDispatch then .error .abandoned
        else (Step.play config (ms.filterMap step?) s).2.map (⟨·, true⟩)) := by
  -- What is guarded starts with a dispatch, and there it stops.
  cases hms <;> rfl

/-- The sleeps among the events are those of the steps. -/
theorem filterMap_events (ms : List Moment) (s : Stage) :
    (events config ms s).filterMap Event.delay? =
      (Step.play config (ms.filterMap step?) s).1 := by
  induction ms generalizing s with
  | nil => rfl
  | cons m ms ih =>
    cases m with
    | dispatch i => exact ih s
    | failure cause => rfl
    | operation op argument =>
      rw [List.filterMap_cons_some (rfl : step? _ = some (.operation op argument)),
        Step.play_operation, events]
      rcases s.perform config op argument with ⟨e | (_ | delay), t⟩
      · rfl
      · exact ih t
      · exact congrArg (delay :: ·) (ih t)

/-- Playing guarded moments that are abandoned during the `n + 1`-st of their sleeps, before which
    there have been `j` others. -/
theorem Guarded.play_abandonedDuring {ms : List Moment} (hms : Guarded ms) {n : Nat} (j : Nat)
    (s : Stage) (hn : n < (Step.play config (ms.filterMap step?) s).1.length) :
    play config (abandonedDuring (j + n + 1)) j ms ⟨s, false⟩ =
      let taken := Step.play config (ms.filterMap step?) s
      (taken.1.take (n + 1),
        if (Event.afterSleep (n + 1) (events config ms s)).any Event.isDispatch then
          .error .abandoned
        else taken.2.map (⟨·, true⟩)) := by
  induction hms generalizing n j s with
  | nil => exact absurd hn (Nat.not_lt_zero n)
  | failure i cause _ _ => exact absurd hn (Nat.not_lt_zero n)
  | dispatch i _ ih => exact ih j s hn
  | @operation i op argument rest hrest ih =>
    have hsteps : (Moment.dispatch i :: .operation op argument :: rest).filterMap step? =
        .operation op argument :: rest.filterMap step? := rfl
    rw [hsteps] at hn ⊢
    rw [Step.play_operation] at hn ⊢
    simp only [play, events, Event.afterSleep]
    rcases h : s.perform config op argument with ⟨e | (_ | delay), t⟩ <;> simp only [h] at hn ⊢
    · exact absurd hn (Nat.not_lt_zero n)
    · exact ih j t hn
    · -- The operation sleeps: this is the sleep in question, or the later ones count one less.
      cases n with
      | zero =>
        have hnow : (abandonedDuring (j + 0 + 1) j).abandoned = true := by
          simp [abandonedDuring]
        rw [hnow, hrest.play_abandoned]
        simp [Event.afterSleep, abandonedDuring]
      | succ n =>
        have hlater : (abandonedDuring (j + (n + 1) + 1) j).abandoned = false := by
          simp [abandonedDuring]
        have hcount : j + (n + 1) + 1 = j + 1 + n + 1 := by omega
        rw [hlater, hcount, ih (j + 1) t (Nat.lt_of_succ_lt_succ hn)]
        rfl

end Moment

/-! ## Abandoned runs -/

/-- An instruction is dispatched in every program that has one. -/
theorem Program.any_isDispatch_events (config : StageConfig) (p : Program) (s : Stage) :
    (Moment.events config (Program.moments p) s).any Event.isDispatch = !p.isEmpty := by
  cases p with
  | nil => rfl
  | cons i rest => cases i <;> rfl

/-- What a run that may have been abandoned ends with. -/
theorem Course.outcome_ite (runId : Int) (isAbandoned : Bool) (x : Except Stop Stage) :
    (⟨runId, outcome runId (if isAbandoned then .error .abandoned else x.map (⟨·, true⟩))⟩ :
      RunResult) =
      if isAbandoned then .abandoned runId else ⟨runId, RunOutcome.ofSteps runId x⟩ := by
  cases isAbandoned with
  | true => rfl
  | false => exact congrArg (RunResult.mk runId) (outcome_map runId x true)

/-- **Abandonment stops a run exactly at its next instruction boundary.**  The undisturbed run sleeps
    as its events say.  Abandoned during its `k`-th sleep, it sleeps `k` times for the same delays;
    then it fails if an instruction is dispatched after the `k`-th sleep of the undisturbed run, and
    else it ends like that one.  Abandoned before it is started, it fails if its program has an
    instruction, and else it ends like the undisturbed one, which completes. -/
theorem abandoned_run_stops_at_next_dispatch (r : Run) (p : Program) (hp : r.program.1 = .ok p) :
    let fresh := { r with abandoned := false }
    let undisturbed := fresh.course.complete {}
    fresh.events.filterMap Event.delay? = undisturbed.1 ∧
    (∀ k, 1 ≤ k → k ≤ undisturbed.1.length →
      fresh.course.completeFrom (abandonedDuring k) 0 =
        (undisturbed.1.take k,
          if (Event.afterSleep k fresh.events).any Event.isDispatch then .abandoned r.runId
          else undisturbed.2)) ∧
    (∀ wakes, { r with abandoned := true }.course.completeFrom wakes 0 =
      ([], if p.isEmpty then undisturbed.2 else .abandoned r.runId)) ∧
    (p.isEmpty → undisturbed.2.isCompleted) := by
  intro fresh undisturbed
  have hundisturbed : undisturbed =
      let taken := Step.play r.config (Program.steps p) {}
      (taken.1, ⟨r.runId, RunOutcome.ofSteps r.runId taken.2⟩) :=
    fresh.complete_course hp rfl
  have hevents : fresh.events = Moment.events r.config (Program.moments p) {} := by
    rw [Run.events, show fresh.program.1 = .ok p from hp]
  have hguarded := Program.guarded_moments p
  refine ⟨?_, ?_, ?_, ?_⟩
  · rw [hevents, Moment.filterMap_events, Program.filterMap_moments, hundisturbed]
  -- During a sleep: the run plays as the guarded moments of its program do.
  · intro k hk hlen
    obtain ⟨n, rfl⟩ := Nat.exists_eq_add_of_le' hk
    have hn : n < (Step.play r.config ((Program.moments p).filterMap Moment.step?) {}).1.length := by
      rw [Program.filterMap_moments]
      rw [hundisturbed] at hlen
      exact hlen
    rw [fresh.completeFrom_course hp]
    have hplay := hguarded.play_abandonedDuring r.config 0 {} hn
    rw [Nat.zero_add] at hplay
    simp only [fresh, hplay, Course.outcome_ite, hundisturbed, hevents,
      Program.filterMap_moments]
  -- Before the start: the first dispatch is where it stops.
  · intro wakes
    rw [Run.completeFrom_course { r with abandoned := true } hp]
    simp only [hguarded.play_abandoned, Course.outcome_ite, hundisturbed,
      Program.filterMap_moments, Program.any_isDispatch_events]
    cases p.isEmpty <;> rfl
  · intro hempty
    rw [List.isEmpty_iff] at hempty
    subst hempty
    rw [hundisturbed]
    rfl

/-- A run that sleeps once and would go on to a loop without rounds. -/
theorem abandoned_run_before_empty_loop :
    let r : Run := { runId := 7, source := .program [.call .wait (.int 1), .loop (.int 0) []] }
    1 ≤ (r.course.complete {}).1.length ∧
      r.course.completeFrom (abandonedDuring 1) 0 =
        ((r.course.complete {}).1.take 1,
          if (Event.afterSleep 1 r.events).any Event.isDispatch then .abandoned 7
          else (r.course.complete {}).2) := by
  intro r
  have hlen : 1 ≤ (r.course.complete {}).1.length := by decide +kernel
  exact ⟨hlen, (abandoned_run_stops_at_next_dispatch r _ rfl).2.1 1 (Nat.le_refl 1) hlen⟩

end SpriteStage
