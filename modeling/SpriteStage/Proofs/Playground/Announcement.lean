import SpriteStage.Proofs.Playground.Showing

/-!
# What a playground says while a run is under way

A run is announced when it starts, and what it ends with replaces the announcement; so does a reset.
Giving up the active run replaces nothing.  `announced_iff_running_or_stale` says that this is the only
way in which the output of a playground and the run that owns it come apart, and how long they stay so:
until the next run starts, a sample is taken, or the playground is reset.

## Main definitions

* `Playground.announcement` is what a playground says of a run that is under way
* `Playground.IsStale` says that the active run was given up and nothing has set the output since
* `Playground.Announces` is the invariant: a playground announces what is under way or stale
-/

namespace SpriteStage

/-- What a playground says of a run that is under way. -/
def Playground.announcement : String := "Running..."

/-- What begins otherwise is no announcement. -/
theorem Playground.ne_announcement {s : String} (h : s.toList.head? ≠ some 'R') :
    s ≠ announcement := by
  rintro rfl
  exact h rfl

/-! ## What runs end with -/

/-- A text ends as its second part does. -/
theorem getLast?_of_append {a b : String} {c : Char} (h : b.toList.getLast? = some c) :
    (a ++ b).toList.getLast? = some c := by
  rw [String.toList_append, List.getLast?_append, h]
  rfl

/-- The report of a stage ends with a direction in degrees. -/
theorem Stage.getLast?_report (s : Stage) : s.report.toList.getLast? = some '°' := by
  unfold report
  exact getLast?_of_append (getLast?_of_append (by decide))

theorem Stage.getLast?_history (s : Stage) : s.history.toList.getLast? = some '°' := by
  unfold history
  split
  · exact s.getLast?_report
  · exact getLast?_of_append s.getLast?_report

/-- No run ends with the announcement of one. -/
theorem Run.answers_output (r : Run) : r.course.Answers (·.output ≠ Playground.announcement) := by
  have hfailed : ∀ error, RunResult.output ⟨r.runId, .failed error⟩ ≠ Playground.announcement := by
    intro error
    exact Playground.ne_announcement (by simp [RunResult.output, toString])
  rw [course]
  cases r.program.1 with
  | error e => exact hfailed e
  | ok p =>
    refine Resumption.Answers.bind (fun outcome => ?_) _
    cases outcome with
    | error e => exact hfailed _
    | ok s =>
      intro h
      -- The announcement ends with a stop.
      have hlast := s.stage.getLast?_history
      have hhistory : s.stage.history = Playground.announcement := h
      rw [hhistory] at hlast
      revert hlast
      decide

namespace Playground

/-! ## Stale announcements -/

/-- Whether an event sets the output at once, unless it is refused. -/
def Event.setsOutput : Event → Bool
  | .start _ | .reset => true
  | .loadSample title => (Sample.find? title).isSome
  | .wake .. | .cancel _ | .setSource _ => false

/-- An event gives up the active run. -/
def GivesUp (p : Playground) (e : Event) : Prop := ∃ runId, e = .cancel runId ∧ p.active = some runId

/-- The active run was given up in a history, and no event has set the output since. -/
def IsStale (p : Playground) (history : List Event) : Prop :=
  ∃ earlier e later, history = earlier ++ e :: later ∧ (p.replay earlier).GivesUp e ∧
    ∀ d ∈ later, d.setsOutput = false

theorem isStale_cons (p : Playground) (e : Event) (history : List Event) :
    p.IsStale (e :: history) ↔
      (p.GivesUp e ∧ ∀ d ∈ history, d.setsOutput = false) ∨ (p.step e).IsStale history := by
  constructor
  · rintro ⟨earlier, d, later, hhistory, hgives, hlater⟩
    cases earlier with
    | nil =>
      obtain ⟨rfl, rfl⟩ := List.cons.inj hhistory
      exact .inl ⟨hgives, hlater⟩
    | cons c earlier =>
      obtain ⟨rfl, rfl⟩ := List.cons.inj hhistory
      exact .inr ⟨earlier, d, later, rfl, hgives, hlater⟩
  · rintro (⟨hgives, hlater⟩ | ⟨earlier, d, later, rfl, hgives, hlater⟩)
    · exact ⟨[], e, history, rfl, hgives, hlater⟩
    · exact ⟨e :: earlier, d, later, rfl, hgives, hlater⟩

/-! ## The invariant -/

/-- A playground says that a run is under way if one is, or if that is stale; and a stale announcement is
    about no run. -/
structure Announces (p : Playground) (stale : Prop) : Prop where
  output : p.output = announcement ↔ p.active.isSome = true ∨ stale
  idle : stale → p.active = none

/-- The active run sleeps. -/
theorem Accounts.exists_flight {p : Playground} {l : Ledger} (hl : Accounts none p l) {owner : Int}
    (howner : p.active = some owner) : ∃ f, p.flight? owner = some f := by
  have hlive : l.Live owner := (hl.owner owner).2 howner
  rcases (hl.unfinished owner).1 ⟨hlive.1, hlive.2.1⟩ with ⟨f, hf, rfl⟩ | ⟨r, hr, -⟩
  · exact Option.isSome_iff_exists.1 (List.find?_isSome.2 ⟨f, hf, by simp⟩)
  · cases hr

namespace Announces

variable {p q : Playground} {stale stale' : Prop} {l : Ledger}

/-- Nothing is said, and no run comes or goes. -/
theorem congr (h : Announces p stale) (houtput : q.output = p.output) (hactive : q.active = p.active)
    (hstale : stale' ↔ stale) : Announces q stale' where
  output := by rw [houtput, hactive, hstale, h.output]
  idle := by rw [hactive, hstale]; exact h.idle

/-- What is said under a run is not stale. -/
theorem fresh (h : Announces p stale) {owner : Int} (hactive : p.active = some owner) : ¬ stale := by
  intro hstale
  rw [h.idle hstale] at hactive
  cases hactive

/-- A playground between runs that says something else. -/
theorem of_idle (hactive : p.active = none) (houtput : p.output ≠ announcement) (hstale : ¬ stale) :
    Announces p stale where
  output := by simp [hactive, houtput, hstale]
  idle := fun h => absurd h hstale

/-- A run that gets on says nothing before it ends. -/
theorem advance (h : Announces p stale) {run : Run} {x : Resumption RunResult}
    (hx : x.Answers (·.output ≠ announcement)) : Announces (p.advance run x).1 stale := by
  cases x with
  | sleeping delay resume => exact h.congr rfl rfl .rfl
  | done result =>
    have houtput : result.output ≠ announcement := hx
    simp only [Playground.advance, land]
    split
    · rename_i howner
      exact .of_idle rfl houtput (h.fresh howner)
    · exact h

/-- A start leaves nothing stale: the new run is announced, and what is said under a run is about it. -/
theorem step_start (h : Announces p stale) (program : Option RunSource) :
    Announces (p.step (.start program)) False := by
  simp only [Playground.step]
  cases hactive : p.active with
  | some owner =>
    rw [p.start_of_active hactive]
    exact h.congr rfl rfl (iff_of_false id (h.fresh hactive))
  | none =>
    -- The new run is announced, whatever was said before.
    rw [p.start_of_idle hactive]
    have hengaged : Announces (p.engage program).1 False :=
      ⟨by simp [engage, announcement], False.elim⟩
    exact hengaged.advance (p.engage program).2.answers_output

/-- The end of a sleep says something only if the active run ends with it. -/
theorem step_wake (h : Announces p stale) (hshows : Shows (fun _ => True) (·.output ≠ announcement) p)
    (runId : Int) (reason : WakeReason) : Announces (p.step (.wake runId reason)) stale := by
  simp only [Playground.step]
  cases hf : p.flight? runId with
  | none =>
    rw [(p.step_of_flight?_eq_none hf).1]
    exact h
  | some f =>
    rw [(p.step_of_flight?_eq_some hf).1]
    have hroused : Announces (p.withoutFlight runId) stale := h.congr rfl rfl .rfl
    exact hroused.advance (hshows.flights f (p.mem_of_flight? hf).1 _)

/-- The announcement of a run that is given up stays, and is about no run from then on. -/
theorem step_cancel_active (h : Announces p stale) (hl : Accounts none p l) {runId : Int}
    (howner : p.active = some runId) : Announces (p.step (.cancel runId)) True := by
  obtain ⟨f, hf⟩ := hl.exists_flight howner
  have hsaid : p.output = announcement := h.output.2 (.inl (by simp [howner]))
  simp only [Playground.step, (p.step_of_flight?_eq_some hf).2]
  exact ⟨iff_of_true hsaid (.inr trivial), fun _ => by simp [howner]⟩

/-- The end of a run that is not the active one is not shown. -/
theorem step_cancel_other (h : Announces p stale) (hl : Accounts none p l) {runId : Int}
    (howner : p.active ≠ some runId) : Announces (p.step (.cancel runId)) stale := by
  have hshown := (hl.shown_step howner).2
  exact h.congr (congrArg (·.2.1) hshown) (congrArg (·.2.2.2.2) hshown) .rfl

/-- Another source says nothing. -/
theorem step_setSource (h : Announces p stale) (source : String) :
    Announces (p.step (.setSource source)) stale := by
  simp only [Playground.step]
  cases hactive : p.active with
  | some owner =>
    simp only [setSource, requireIdle, hactive]
    exact h
  | none =>
    rw [setSource_of_idle hactive]
    exact h.congr rfl rfl .rfl

/-- A sample that there is leaves nothing stale. -/
theorem step_loadSample (h : Announces p stale) {title : String} {sample : Sample}
    (hsample : Sample.find? title = some sample) : Announces (p.step (.loadSample title)) False := by
  simp only [Playground.step]
  cases hactive : p.active with
  | some owner =>
    simp only [loadSample, requireIdle, hsample, hactive]
    exact h.congr rfl rfl (iff_of_false id (h.fresh hactive))
  | none =>
    rw [loadSample_of_idle hactive hsample]
    exact .of_idle hactive (ne_announcement (by simp [after, toString])) id

/-- Every event keeps a playground in agreement with what is under way or stale. -/
theorem step (h : Announces p stale) (hl : Accounts none p l)
    (hshows : Shows (fun _ => True) (·.output ≠ announcement) p) (e : Event) :
    Announces (p.step e) (p.GivesUp e ∨ stale ∧ e.setsOutput = false) := by
  -- What is stale stays so in an event that neither sets the output nor gives a run up.
  have hkept (hsets : e.setsOutput = false) (hgives : ¬ p.GivesUp e) :
      (p.GivesUp e ∨ stale ∧ e.setsOutput = false) ↔ stale := by
    simp [hsets, hgives]
  have hgone (hsets : e.setsOutput = true) (hgives : ¬ p.GivesUp e) :
      (p.GivesUp e ∨ stale ∧ e.setsOutput = false) ↔ False := by
    simp [hsets, hgives]
  cases e with
  | start program => exact (h.step_start program).congr rfl rfl (hgone rfl (by simp [GivesUp]))
  | wake runId reason =>
    exact (h.step_wake hshows runId reason).congr rfl rfl (hkept rfl (by simp [GivesUp]))
  | cancel runId =>
    by_cases howner : p.active = some runId
    · have hgives : p.GivesUp (.cancel runId) := ⟨runId, rfl, howner⟩
      exact (h.step_cancel_active hl howner).congr rfl rfl (iff_true_intro (.inl hgives))
    · have hgives : ¬ p.GivesUp (.cancel runId) := by simpa [GivesUp] using howner
      exact (h.step_cancel_other hl howner).congr rfl rfl (hkept rfl hgives)
  | setSource source =>
    exact (h.step_setSource source).congr rfl rfl (hkept rfl (by simp [GivesUp]))
  | loadSample title =>
    cases hsample : Sample.find? title with
    | none =>
      have hstale := hkept (by simp [Event.setsOutput, hsample]) (by simp [GivesUp])
      simp only [Playground.step, loadSample, hsample]
      exact h.congr rfl rfl hstale
    | some sample =>
      have hstale := hgone (by simp [Event.setsOutput, hsample]) (by simp [GivesUp])
      exact (h.step_loadSample hsample).congr rfl rfl hstale
  | reset =>
    have hstale := hgone rfl (by simp [GivesUp])
    exact .of_idle rfl (ne_announcement (by simp [Playground.step, reset])) hstale.1

/-- A history keeps a playground in agreement with what is under way or stale. -/
theorem replay (h : Announces p stale) (hl : Accounts none p l)
    (hshows : Shows (fun _ => True) (·.output ≠ announcement) p) (history : List Event) :
    Announces (p.replay history)
      (p.IsStale history ∨ stale ∧ ∀ e ∈ history, e.setsOutput = false) := by
  induction history generalizing p stale l with
  | nil => exact h.congr rfl rfl (by simp [IsStale])
  | cons e history ih =>
    have hnext := hshows.step (fun _ _ _ _ => trivial) trivial (e := e)
      fun program _ => (p.engage program).2.answers_output
    refine (ih (h.step hl hshows e) (hl.step e) hnext.1).congr rfl rfl ?_
    rw [isStale_cons, List.forall_mem_cons]
    grind

end Announces

/-! ## The output -/

/-- **The output of a playground announces a run exactly if one is under way, or the active run was given
    up and nothing has set the output since.**  The latter is so only while no run is under way. -/
theorem announced_iff_running_or_stale (config : StageConfig) (first : Int) (history : List Event) :
    let p : Playground := { config := config, nextId := first }
    let q := p.replay history
    (q.output = announcement ↔ q.isRunning = true ∨ p.IsStale history) ∧
      (p.IsStale history → q.isRunning = false) := by
  intro p q
  have hready : p.output ≠ announcement := of_decide_eq_true rfl
  have hfresh : Announces p False := .of_idle rfl hready id
  have hshows : Shows (fun _ => True) (·.output ≠ announcement) p :=
    ⟨trivial, fun f hf => by cases hf⟩
  have h : Announces q (p.IsStale history) :=
    (hfresh.replay (Accounts.opened rfl rfl) hshows history).congr rfl rfl (by simp)
  refine ⟨h.output, fun hstale => ?_⟩
  rw [isRunning, h.idle hstale]
  rfl

/-- The only run of a playground is given up while it sleeps. -/
theorem announced_of_given_up :
    let history : List Event := [.start (some (.program [.call .wait (.int 1)])), .cancel 1]
    let q := ({} : Playground).replay history
    ¬ (q.output = announcement ↔ q.isRunning = true) := by
  intro history q
  have hsaid : q.output = announcement := by decide +kernel
  have hidle : q.isRunning = false := by decide +kernel
  simp [hsaid, hidle]

end Playground

end SpriteStage
