import SpriteStage.Proofs.Playground.Commitment
import SpriteStage.Proofs.Playground.Isolation
import SpriteStage.Proofs.Run.FlatTrace

/-!
# How a run settles

A run can be executed once.  While it is under way it is running at every sleep; in the end it is either
completed, with a sprite and a log and no error, or failed, with nothing but an error that says something.
After that nothing changes it: neither the end of a sleep nor another attempt to execute it, which is
refused at any time.

A run that is executed is told in steps: an `Execution` is the run together with what it does when its
sleep ends.  `Execution.ofCourse` shows that all of this is determined by what is left of the course.

## Main definitions

* `Run.Event` is an attempt to execute a run, or the end of a sleep
* `Execution.step` is what such an event does to a run
* `RunResult.IsWhole` says that a result is either that of a completed or that of a failed run

## Main results

* `Execution.replay_ofCourse` follows the course of a run through a history
* `run_settles_once`
-/

namespace SpriteStage

/-! ## Results -/

/-- The log of a completed run. -/
def RunOutcome.log? : RunOutcome → Option String
  | .completed _ log => some log
  | .failed _ => none

/-- The error of a failed run. -/
def RunOutcome.error? : RunOutcome → Option String
  | .completed .. => none
  | .failed error => some error

/-- A completed run has a sprite, a log and no error; a failed run has nothing but an error, and the error
    says something. -/
def RunResult.IsWhole (r : RunResult) : Prop :=
  (r.status = .completed ∧ r.outcome.sprite?.isSome ∧ r.outcome.log?.isSome ∧ r.outcome.error? = none) ∨
  (r.status = .failed ∧ r.outcome.sprite? = none ∧ r.outcome.log? = none ∧
    ∃ error ∈ r.outcome.error?, error ≠ "")

theorem Script.Fault.message_ne_empty (text : List Char) (f : Script.Fault) : f.message text ≠ "" := by
  delta message
  simp [toString]

/-- No text is refused without a message. -/
theorem CompileError.message_ne_empty (text : List Char) (e : CompileError) : e.message text ≠ "" := by
  cases e with
  | script fault => exact fault.message_ne_empty text
  | refused cause span =>
    delta message
    simp [toString]
  | operation e => exact e.message_ne_empty
  | nullCharacter => exact of_decide_eq_true rfl

theorem Stop.message_ne_empty (runId : Int) (cause : Stop) : cause.message runId ≠ "" := by
  rw [message_eq_orLabel, orLabel]
  split
  · -- The kinds of failures have names.
    cases cause with
    | operation e => cases h : e.category <;> simp [label, h]
    | sleep message name => exact name.ne_empty
    | _ => simp [label]
  · rename_i hwording
    simpa using hwording

/-- A text that is no program fails with a message. -/
theorem Run.error_ne_empty_of_program {r : Run} {error : String} (h : r.program.1 = .error error) :
    error ≠ "" := by
  rw [program] at h
  split at h
  · cases h
  · rename_i source hsource
    rcases hcompiled : compile r.handle source with ⟨e | p, warnings⟩
    · rw [hcompiled] at h
      cases h
      exact e.message_ne_empty _
    · rw [hcompiled] at h
      cases h

theorem RunResult.isWhole_completed (runId : Int) (sprite : Sprite) (log : String) :
    IsWhole ⟨runId, .completed sprite log⟩ :=
  .inl ⟨rfl, rfl, rfl, rfl⟩

theorem RunResult.isWhole_failed (runId : Int) {error : String} (h : error ≠ "") :
    IsWhole ⟨runId, .failed error⟩ :=
  .inr ⟨rfl, rfl, rfl, error, rfl, h⟩

/-- However the sleeps of a run end, its result is whole. -/
theorem Run.answers_isWhole (r : Run) : r.course.Answers RunResult.IsWhole := by
  rw [course]
  cases hprogram : r.program.1 with
  | error e => exact RunResult.isWhole_failed _ (error_ne_empty_of_program hprogram)
  | ok p =>
    refine Resumption.Answers.bind (fun outcome => ?_) _
    cases outcome with
    | ok s => exact RunResult.isWhole_completed _ _ _
    | error e => exact RunResult.isWhole_failed _ (e.message_ne_empty _)

/-! ## What is left of a computation -/

namespace Resumption

variable {α : Type}

/-- What is left of a computation whose first sleeps end as a list says. -/
def after : Resumption α → List Wake → Resumption α
  | .done a, _ => .done a
  | .sleeping delay resume, [] => .sleeping delay resume
  | .sleeping _ resume, w :: ws => (resume w).after ws

@[simp] theorem after_nil (x : Resumption α) : x.after [] = x := by
  cases x <;> rfl

theorem after_append (x : Resumption α) (ws vs : List Wake) :
    (x.after ws).after vs = x.after (ws ++ vs) := by
  induction ws generalizing x with
  | nil => simp
  | cons w ws ih =>
    cases x with
    | done a => rfl
    | sleeping delay resume => exact ih (resume w)

/-- A computation has its answer once nothing is left. -/
theorem after_eq_done_iff {x : Resumption α} {ws : List Wake} {a : α} :
    x.after ws = .done a ↔ x.answer? ws = some a := by
  induction x generalizing ws with
  | done b => simp [after, answer?]
  | sleeping delay resume ih =>
    cases ws with
    | nil => simp [after, answer?]
    | cons w ws => exact ih w

theorem Answers.after {P : α → Prop} {x : Resumption α} (h : x.Answers P) (ws : List Wake) :
    (x.after ws).Answers P := by
  induction x generalizing ws with
  | done a => exact h
  | sleeping delay resume ih =>
    cases ws with
    | nil => exact h
    | cons w ws => exact ih w (h w) ws

/-- Every computation has its answer after finitely many sleeps. -/
theorem exists_answer? (x : Resumption α) (wakes : Nat → Wake) :
    ∃ n a, x.answer? ((List.range n).map wakes) = some a := by
  refine ⟨(x.completeFrom wakes 0).1.length, (x.completeFrom wakes 0).2, ?_⟩
  rw [List.range_eq_range', answer?_range', if_pos (Nat.le_refl _)]

end Resumption

/-! ## Executions -/

/-- What happens to a run: an attempt to execute it, or the end of a sleep. -/
inductive Run.Event where
  | execute
  | wake (w : Wake)

/-- How a sleep ends, if an event ends one. -/
def Run.Event.wake? : Run.Event → Option Wake
  | .execute => none
  | .wake w => some w

/-- A run with what it does when its sleep ends, if it sleeps. -/
structure Execution where
  run : Run
  resume? : Option (Wake → Resumption Run) := none

namespace Execution

/-- A run that goes on up to its next sleep or its end. -/
def carryOn (run : Run) : Resumption Run → Execution
  | .done settled => ⟨settled, none⟩
  | .sleeping _ resume => ⟨run, some resume⟩

/-- The run after an event.  Nothing happens to a run that cannot be started, or that does not sleep. -/
def step (x : Execution) : Run.Event → Execution
  | .execute =>
    match x.run.start with
    | .ok (run, course) => carryOn run course
    | .error _ => x
  | .wake w =>
    match x.resume? with
    | some resume => carryOn x.run (resume w)
    | none => x

/-- Why an attempt to execute the run is refused, if it is. -/
def refusal? (x : Execution) : Option AlreadyStarted :=
  match x.run.start with
  | .ok _ => none
  | .error e => some e

/-- The run after a history. -/
def replay (x : Execution) (history : List Run.Event) : Execution := history.foldl step x

/-- A run of whose course something is left. -/
def ofCourse (r : Run) (left : Resumption RunResult) : Execution :=
  carryOn r.launch (left.bind fun result => .done (r.settle result))

variable (r : Run)

theorem step_execute_of_idle (hidle : r.status = .idle) :
    (step ⟨r, none⟩ .execute) = ofCourse r r.course := by
  rw [step, Run.start, if_pos hidle]
  rfl

/-- A run under way or settled is not idle. -/
theorem status_ofCourse_ne_idle (left : Resumption RunResult) :
    (ofCourse r left).run.status ≠ .idle := by
  cases left with
  | sleeping delay resume => exact of_decide_eq_true rfl
  | done result =>
    show result.status ≠ .idle
    rw [RunResult.status]
    split <;> decide

/-- An attempt to execute a run again changes nothing. -/
theorem step_execute_ofCourse (left : Resumption RunResult) :
    (ofCourse r left).step .execute = ofCourse r left := by
  rw [step, Run.start_of_status_ne_idle _ (status_ofCourse_ne_idle r left)]

theorem refusal?_ofCourse (left : Resumption RunResult) :
    (ofCourse r left).refusal? = some ⟨r.runId⟩ := by
  rw [refusal?, Run.start_of_status_ne_idle _ (status_ofCourse_ne_idle r left)]
  cases left <;> rfl

/-- The end of a sleep carries the course on. -/
theorem step_wake_ofCourse (left : Resumption RunResult) (w : Wake) :
    (ofCourse r left).step (.wake w) = ofCourse r (left.after [w]) := by
  cases left with
  | done result => rfl
  | sleeping delay resume =>
    rw [Resumption.after, Resumption.after_nil]
    rfl

/-- **A history carries the course of a run on** by the sleeps that end in it. -/
theorem replay_ofCourse (left : Resumption RunResult) (history : List Run.Event) :
    (ofCourse r left).replay history = ofCourse r (left.after (history.filterMap Run.Event.wake?)) := by
  induction history generalizing left with
  | nil => rw [List.filterMap_nil, Resumption.after_nil, replay, List.foldl_nil]
  | cons e history ih =>
    rw [replay, List.foldl_cons]
    cases e with
    | execute =>
      rw [step_execute_ofCourse, List.filterMap_cons_none rfl]
      exact ih left
    | wake w =>
      rw [step_wake_ofCourse, List.filterMap_cons_some (rfl : Run.Event.wake? _ = some w)]
      exact (ih (left.after [w])).trans (congrArg (ofCourse r) (left.after_append [w] _))

/-- A run that has settled stays as it is. -/
theorem replay_of_settled (result : RunResult) (history : List Run.Event) :
    (ofCourse r (.done result)).replay history = ofCourse r (.done result) := by
  rw [replay_ofCourse]
  rfl

/-- A run that sleeps is running and has no new result. -/
theorem running_of_asleep {left : Resumption RunResult} (h : (ofCourse r left).resume? ≠ none) :
    (ofCourse r left).run = r.launch := by
  cases left with
  | done result => exact absurd rfl h
  | sleeping delay resume => rfl

/-- A run that does not sleep has settled. -/
theorem exists_result_of_awake {left : Resumption RunResult} (h : (ofCourse r left).resume? = none) :
    ∃ result, left = .done result := by
  cases left with
  | done result => exact ⟨result, rfl⟩
  | sleeping delay resume => cases h

end Execution

/-- **A run settles once.**  An idle run can be executed, whatever its program and its configuration.
    However its sleeps end, and whether or not it is abandoned meanwhile, it is running as long as it
    sleeps.  Once it does not sleep it has the result that its course gives, which is whole, and the status
    of that result; from then on nothing changes.  It comes to that after finitely many sleeps.  All
    later attempts to execute it are refused and change nothing. -/
theorem run_settles_once {r : Run} (hidle : r.status = .idle) :
    let executed := Execution.step ⟨r, none⟩ .execute
    Execution.refusal? ⟨r, none⟩ = none ∧
    (∀ history, let x := executed.replay history
      (x.resume? ≠ none → x.run.status = .running ∧ x.run.result = r.result) ∧
      (x.resume? = none →
        (∃ result, r.course.answer? (history.filterMap Run.Event.wake?) = some result ∧
          x.run.result = some result ∧ x.run.status = result.status ∧ result.runId = r.runId ∧
          result.IsWhole) ∧
        ∀ later, x.replay later = x) ∧
      x.refusal? = some ⟨r.runId⟩ ∧ x.step .execute = x) ∧
    ∀ wakes : Nat → Wake, ∃ n,
      (executed.replay ((List.range n).map fun k => .wake (wakes k))).resume? = none := by
  intro executed
  have hexecuted : executed = Execution.ofCourse r r.course := Execution.step_execute_of_idle r hidle
  refine ⟨?_, fun history => ?_, fun wakes => ?_⟩
  · rw [Execution.refusal?, Run.start, if_pos hidle]
  · -- After any history the run is what is left of its course, asleep or with its result.
    rw [hexecuted, Execution.replay_ofCourse]
    obtain ⟨left, hleft⟩ :
      ∃ left, left = r.course.after (history.filterMap Run.Event.wake?) := ⟨_, rfl⟩
    rw [← hleft]
    refine ⟨fun hasleep => ?_, fun hawake => ?_, Execution.refusal?_ofCourse r left,
      Execution.step_execute_ofCourse r left⟩
    · rw [Execution.running_of_asleep r hasleep]
      exact ⟨rfl, rfl⟩
    · obtain ⟨result, rfl⟩ := Execution.exists_result_of_awake r hawake
      have hnumber : result.runId = r.runId := by
        have h := r.answers_course.after (history.filterMap Run.Event.wake?)
        rwa [← hleft] at h
      have hwhole : result.IsWhole := by
        have h := r.answers_isWhole.after (history.filterMap Run.Event.wake?)
        rwa [← hleft] at h
      exact ⟨⟨result, Resumption.after_eq_done_iff.1 hleft.symm, rfl, rfl, hnumber, hwhole⟩,
        Execution.replay_of_settled r result⟩
  · -- The course is a finite tree, so it has an answer after finitely many sleeps.
    obtain ⟨n, result, hanswer⟩ := r.course.exists_answer? wakes
    have hwakes : ((List.range n).map fun k => Run.Event.wake (wakes k)).filterMap Run.Event.wake? =
        (List.range n).map wakes := by
      simp [List.filterMap_map, Function.comp_def, Run.Event.wake?]
    refine ⟨n, ?_⟩
    rw [hexecuted, Execution.replay_ofCourse, hwakes, Resumption.after_eq_done_iff.2 hanswer]
    rfl

/-- A run whose only sleep fails without a message is running in the sleep; then it fails with the kind of
    the failure for an error, and cannot be executed again. -/
theorem run_settles_once_of_failed_sleep :
    let r : Run := { runId := 1, source := .program [.call .wait (.int 1)] }
    let executed := Execution.step ⟨r, none⟩ .execute
    let x := executed.replay [.wake { reason := .failed "" }]
    executed.run.status = .running ∧ x.run.status = .failed ∧
      x.run.result.bind (·.outcome.error?) = some "RuntimeError" ∧
      x.refusal? = some ⟨1⟩ ∧ x.step .execute = x := by
  intro r executed x
  obtain ⟨-, hhistory, -⟩ := run_settles_once (show r.status = .idle from rfl)
  have hasleep : executed.resume?.isSome = true := by decide +kernel
  have hrunning := ((hhistory []).1 (Option.isSome_iff_ne_none.1 hasleep)).1
  have hsettled : x.run.status = .failed ∧
      x.run.result.bind (·.outcome.error?) = some "RuntimeError" := by
    decide +kernel
  obtain ⟨-, -, hrefused, hunchanged⟩ := hhistory [.wake { reason := .failed "" }]
  exact ⟨hrunning, hsettled.1, hsettled.2, hrefused, hunchanged⟩

end SpriteStage
