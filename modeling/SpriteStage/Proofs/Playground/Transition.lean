import SpriteStage.Proofs.Playground.Ownership

/-!
# What an event does to a playground

An event is refused, edits what is shown between runs, resets the playground, or lets one run get on: a
new one, or one whose sleep ends.  `transition` says so once for all events, so that an invariant of a
playground needs a proof for each kind of change only, and not for each way to refuse an event.

## Main definitions

* `Playground.outcome?` is the run that gets on in an event, and how far it gets
* `Playground.Transition` lists the changes
-/

namespace SpriteStage

/-- The result of a run that has got on, if it has ended. -/
def Progress.result? : Progress → Option RunResult
  | .asleep _ => none
  | .ended result => some result

namespace Playground

namespace Event

/-- The run whose sleep an event ends. -/
def sleeper? : Event → Option Int
  | .wake runId _ | .cancel runId => some runId
  | _ => none

/-- Whether an event starts a run. -/
def isStart : Event → Bool
  | .start _ => true
  | _ => false

/-- Whether an event resets the playground. -/
def isReset : Event → Bool
  | .reset => true
  | _ => false

/-- Whether an event edits what is shown between runs. -/
def isEdit : Event → Bool
  | .setSource _ | .loadSample _ => true
  | _ => false

/-- What edits a playground does not reset it. -/
theorem isReset_of_isEdit {e : Event} (h : e.isEdit = true) : e.isReset = false := by
  cases e <;> first
    | rfl
    | cases h

end Event

/-- The run that gets on in an event, and how far it gets. -/
def outcome? (p : Playground) : Event → Option (Int × Progress)
  | .start program =>
    match p.start program with
    | .ok (_, runId, progress) => some (runId, progress)
    | .error _ => none
  | .wake runId reason => (p.wake runId reason).map fun x => (runId, x.2)
  | _ => none

/-- What an event does to a playground: the playground after it, and the run that gets on. -/
inductive Transition (p : Playground) : Event → Playground → Option (Int × Progress) → Prop where
  /-- The event is refused; a run that was to be woken or given up does not sleep. -/
  | refused {e : Event} (hsleeper : ∀ id ∈ e.sleeper?, p.flight? id = none)
      (hreset : e.isReset = false) : Transition p e p none
  | edited (e : Event) (hedit : e.isEdit = true) (hidle : p.active = none) (source output : String) :
      Transition p e { p with source := source, output := output } none
  | started (hidle : p.active = none) (program : Option RunSource) {q : Playground}
      {progress : Progress}
      (hadvance : (p.engage program).1.advance (p.engage program).2.launch
        (p.engage program).2.course = (q, progress)) :
      Transition p (.start program) q (some (p.nextId, progress))
  | woken (f : Flight) (hf : p.flight? f.run.runId = some f) (reason : WakeReason) {q : Playground}
      {progress : Progress}
      (hadvance : (p.withoutFlight f.run.runId).advance f.run
        (f.resume { reason := reason, abandoned := f.run.abandoned }) = (q, progress)) :
      Transition p (.wake f.run.runId reason) q (some (f.run.runId, progress))
  | cancelled (f : Flight) (hf : p.flight? f.run.runId = some f) :
      Transition p (.cancel f.run.runId)
        { p.withoutFlight f.run.runId with active := p.active.filter (· ≠ f.run.runId) } none
  | reset : Transition p .reset p.reset none

/-- An idle playground takes a new text. -/
theorem setSource_of_idle {p : Playground} (hidle : p.active = none) (source : String) :
    p.setSource source = .ok { p with source := source } := by
  simp [setSource, requireIdle, hidle, bind, Except.bind, pure, Except.pure]

/-- An idle playground takes the text of a sample that there is. -/
theorem loadSample_of_idle {p : Playground} (hidle : p.active = none) {title : String}
    {sample : Sample} (hsample : Sample.find? title = some sample) :
    p.loadSample title =
      .ok ({ p with source := sample.source, output := s!"Loaded sample: {sample.title}" }, sample) := by
  simp [loadSample, requireIdle, hidle, hsample, bind, Except.bind, pure, Except.pure]

/-- Every event does one of these things. -/
theorem transition (p : Playground) (e : Event) : Transition p e (p.step e) (p.outcome? e) := by
  cases e with
  | start program =>
    cases hactive : p.active with
    | some owner =>
      simp only [step, outcome?, p.start_of_active hactive]
      exact .refused (by simp [Event.sleeper?]) rfl
    | none =>
      simp only [step, outcome?, p.start_of_idle hactive]
      exact .started hactive program rfl
  | wake runId reason =>
    cases hf : p.flight? runId with
    | none =>
      simp only [step, outcome?, (p.step_of_flight?_eq_none hf).1]
      exact .refused (by simpa [Event.sleeper?] using hf) rfl
    | some f =>
      simp only [step, outcome?, (p.step_of_flight?_eq_some hf).1]
      obtain ⟨-, rfl⟩ := p.mem_of_flight? hf
      exact .woken f hf reason rfl
  | cancel runId =>
    cases hf : p.flight? runId with
    | none =>
      simp only [step, outcome?, (p.step_of_flight?_eq_none hf).2]
      exact .refused (by simpa [Event.sleeper?] using hf) rfl
    | some f =>
      simp only [step, outcome?, (p.step_of_flight?_eq_some hf).2]
      obtain ⟨-, rfl⟩ := p.mem_of_flight? hf
      exact .cancelled f hf
  | setSource source =>
    cases hactive : p.active with
    | some owner =>
      simp only [step, outcome?, setSource, requireIdle, hactive]
      exact .refused (by simp [Event.sleeper?]) rfl
    | none =>
      simp only [step, outcome?, setSource_of_idle hactive]
      exact .edited (.setSource source) rfl hactive source p.output
  | loadSample title =>
    cases hsample : Sample.find? title with
    | none =>
      simp only [step, outcome?, loadSample, hsample]
      exact .refused (by simp [Event.sleeper?]) rfl
    | some sample =>
      cases hactive : p.active with
      | some owner =>
        simp only [step, outcome?, loadSample, requireIdle, hsample, hactive]
        exact .refused (by simp [Event.sleeper?]) rfl
      | none =>
        simp only [step, outcome?, loadSample_of_idle hactive hsample]
        exact .edited (.loadSample title) rfl hactive sample.source _
  | reset => exact .reset

/-- Carrying a run on takes no number. -/
theorem nextId_advance {p q : Playground} {run : Run} {x : Resumption RunResult} {progress : Progress}
    (hadvance : p.advance run x = (q, progress)) : q.nextId = p.nextId := by
  cases x with
  | sleeping delay resume => cases hadvance; rfl
  | done result => cases hadvance; exact p.land_nextId result

/-- The runs that were started are those that got on when they were. -/
theorem started_record (p : Playground) (l : Ledger) (e : Event) :
    (l.record p e).started =
      if e.isStart then (p.outcome? e).toList.map (·.1) ++ l.started else l.started := by
  cases e with
  | start program =>
    simp only [Ledger.record, outcome?]
    rcases p.start program with _ | ⟨q, runId, _ | _⟩ <;> rfl
  | wake runId reason =>
    simp only [Ledger.record]
    rcases p.wake runId reason with _ | ⟨q, _ | _⟩ <;> rfl
  | cancel runId =>
    simp only [Ledger.record]
    cases (p.cancel runId).isSome <;> rfl
  | setSource source => rfl
  | loadSample title => rfl
  | reset => rfl

end Playground

end SpriteStage
