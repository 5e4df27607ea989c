import SpriteStage.Proofs.Playground.Transition
import SpriteStage.Proofs.Run.Abandonment

/-!
# Runs that share a playground

What the caller of a run gets is settled by the program of the run and by how its own sleeps end.
`interleaved_run_eq_solitary` compares a run in the middle of a history with the same run alone: as long
as nobody resets the playground both end in the same way, and a reset is an abandonment during the sleep
that it falls into.  Nothing else that others do during the sleeps of a run matters.

## Main definitions

* `Resumption.answer?` is the answer of a computation that has been woken some times
* `Playground.returns` lists the results that the caller of a run gets in a history
* `Playground.wakesOf` tells how the sleeps of a run end in a history
* `Playground.EndsBefore` says that a run ends before an event of some kind
* `Playground.due` lists the results that are due once some sleeps of a run have ended
-/

namespace SpriteStage

/-! ## Computations that have been woken some times -/

namespace Resumption

variable {α : Type}

/-- The answer of a computation whose first sleeps end as a list says, if it has one by then. -/
def answer? : Resumption α → List Wake → Option α
  | .done a, _ => some a
  | .sleeping _ _, [] => none
  | .sleeping _ resume, w :: ws => (resume w).answer? ws

/-- A computation that has been woken `n` times has its answer if it sleeps no more than that. -/
theorem answer?_range' (wakes : Nat → Wake) (x : Resumption α) (k n : Nat) :
    x.answer? ((List.range' k n).map wakes) =
      if (x.completeFrom wakes k).1.length ≤ n then some (x.completeFrom wakes k).2 else none := by
  induction x generalizing k n with
  | done a => simp [answer?, completeFrom]
  | sleeping delay resume ih =>
    cases n with
    | zero => simp [answer?, completeFrom]
    | succ n =>
      rw [List.range'_succ, List.map_cons, answer?, ih]
      simp [completeFrom]

end Resumption

/-! ## Flights among others -/

namespace Flight

/-- A run that sleeps, after it has been told whether it is abandoned. -/
def tell (f : Flight) (abandoned : Bool) : Flight :=
  { f with run := { f.run with abandoned := f.run.abandoned || abandoned } }

@[simp] theorem tell_runId (f : Flight) (abandoned : Bool) :
    (f.tell abandoned).run.runId = f.run.runId := rfl

@[simp] theorem tell_false (f : Flight) : f.tell false = f := by
  simp [tell]

end Flight

namespace Playground

section

variable (p : Playground)

/-- Waking a run or giving it up takes no other run off. -/
theorem flight?_withoutFlight (runId id : Int) :
    (p.withoutFlight runId).flight? id = if id = runId then none else p.flight? id := by
  rw [flight?, withoutFlight, List.find?_filter, flight?]
  split
  · rename_i heq
    simp [heq]
  · rename_i hne
    congr 1
    funext f
    by_cases hf : f.run.runId = id
    · simp [hf, hne]
    · simp [hf]

/-- A run that is carried on leaves the others asleep. -/
theorem flight?_advance {q : Playground} {run : Run} {x : Resumption RunResult}
    {progress : Progress} (hadvance : p.advance run x = (q, progress)) {id : Int}
    (hne : id ≠ run.runId) : q.flight? id = p.flight? id := by
  cases x with
  | done result =>
    cases hadvance
    rw [flight?, p.land_flights, flight?]
  | sleeping delay resume =>
    cases hadvance
    simp [flight?, List.find?_cons_of_neg, Ne.symm hne]

/-- A reset leaves all runs asleep. -/
theorem flight?_reset (id : Int) :
    p.reset.flight? id = (p.flight? id).map (Flight.abandon p.active) := by
  rw [flight?, reset, List.find?_map, flight?]
  congr 2
  funext f
  simp only [Function.comp_apply, Flight.abandon]
  split <;> rfl

end

/-- A run that sleeps has been started, and has not ended. -/
theorem Accounts.unfinished_of_mem {p : Playground} {l : Ledger} (h : Accounts none p l) {f : Flight}
    (hf : f ∈ p.flights) : f.run.runId ∈ l.started ∧ f.run.runId ∉ l.ended :=
  (h.unfinished f.run.runId).2 (.inl ⟨f, hf, rfl⟩)

/-- The number of a run that sleeps is less than that of the next run. -/
theorem Accounts.runId_lt_nextId {p : Playground} {l : Ledger} (h : Accounts none p l) {f : Flight}
    (hf : f ∈ p.flights) : f.run.runId < p.nextId :=
  h.started_lt _ (h.unfinished_of_mem hf).1

/-- A run that nobody has abandoned while it slept is the active one. -/
theorem Accounts.active_iff {p : Playground} {l : Ledger} (h : Accounts none p l) {f : Flight}
    (hf : f ∈ p.flights) : p.active = some f.run.runId ↔ f.run.abandoned = false := by
  have hstarted := h.unfinished_of_mem hf
  have htold := h.told_asleep f hf
  rw [← h.owner, Ledger.Live]
  constructor
  · rintro ⟨-, -, hnot⟩
    simpa [hnot] using htold
  · intro hnot
    exact ⟨hstarted.1, hstarted.2, by simpa [hnot] using htold⟩

/-! ## What the caller of a run gets -/

/-- The result that the caller of a run gets in an event. -/
def returned? (p : Playground) (runId : Int) (e : Event) : Option RunResult :=
  (p.outcome? e).bind fun (id, progress) => if id = runId then progress.result? else none

/-- The results that the caller of a run gets in a history. -/
def returns (p : Playground) (runId : Int) : List Event → List RunResult
  | [] => []
  | e :: history => (p.returned? runId e).toList ++ (p.step e).returns runId history

/-- How the sleeps of a run end in a history, until it is given up.  From the first reset on the run is
    told that it is abandoned. -/
def wakesOf (runId : Int) (abandoned : Bool) : List Event → List Wake
  | [] => []
  | .wake id reason :: history =>
    if id = runId then ⟨reason, abandoned⟩ :: wakesOf runId abandoned history
    else wakesOf runId abandoned history
  | .cancel id :: history => if id = runId then [] else wakesOf runId abandoned history
  | .reset :: history => wakesOf runId true history
  | _ :: history => wakesOf runId abandoned history

/-- A run that has been started and does not sleep any more. -/
structure Gone (p : Playground) (runId : Int) : Prop where
  awake : p.flight? runId = none
  old : runId < p.nextId

namespace Gone

variable {p : Playground} {runId : Int}

/-- The caller of a run that does not sleep any more gets nothing. -/
theorem step (h : Gone p runId) (e : Event) :
    p.returned? runId e = none ∧ Gone (p.step e) runId := by
  have ht := p.transition e
  rw [returned?]
  generalize p.step e = q, p.outcome? e = outcome at ht ⊢
  cases ht with
  | refused _ _ => exact ⟨rfl, h⟩
  | edited _ _ _ source output => exact ⟨rfl, ⟨h.awake, h.old⟩⟩
  | started hidle program hadvance =>
    have hne : runId ≠ p.nextId := Int.ne_of_lt h.old
    refine ⟨by simp [Ne.symm hne], ?_, ?_⟩
    · exact (flight?_advance _ hadvance hne).trans h.awake
    · rw [nextId_advance hadvance]
      exact Int.lt_trans h.old (Int.lt_succ _)
  | woken f hf reason hadvance =>
    -- Another run is woken, because this one does not sleep.
    have hne : runId ≠ f.run.runId := by
      rintro rfl
      simp [h.awake] at hf
    refine ⟨by simp [Ne.symm hne], ?_, ?_⟩
    · rw [flight?_advance _ hadvance hne, flight?_withoutFlight, if_neg hne]
      exact h.awake
    · rw [nextId_advance hadvance]
      exact h.old
  | cancelled f hf =>
    refine ⟨rfl, ?_, h.old⟩
    exact (flight?_withoutFlight p _ _).trans (by simp [h.awake])
  | reset =>
    refine ⟨rfl, ?_, h.old⟩
    rw [flight?_reset, h.awake]
    rfl

/-- The caller of a run that does not sleep any more never gets anything. -/
theorem returns (h : Gone p runId) (history : List Event) : p.returns runId history = [] := by
  induction history generalizing p with
  | nil => rfl
  | cons e history ih =>
    rw [Playground.returns, (h.step e).1, ih (h.step e).2]
    rfl

end Gone

section

variable {p q : Playground} {l : Ledger} {f : Flight}

/-- While a run sleeps, what others do leaves it asleep; a reset tells it that it is abandoned. -/
theorem step_asleep (h : Accounts none p l) (hf : p.flight? f.run.runId = some f) {e : Event}
    (hother : f.run.runId ∉ e.sleeper?) :
    p.returned? f.run.runId e = none ∧
    (p.step e).flight? f.run.runId = some (f.tell e.isReset) := by
  have hmem := (p.mem_of_flight? hf).1
  have ht := p.transition e
  rw [returned?]
  generalize p.step e = q, p.outcome? e = outcome at ht ⊢
  cases ht with
  | refused _ hreset => simpa [hreset] using hf
  | edited _ hedit hidle source output =>
    rw [Event.isReset_of_isEdit hedit, Flight.tell_false]
    exact ⟨rfl, hf⟩
  | started hidle program hadvance =>
    -- The number of the new run is past that of every run that sleeps.
    have hne : f.run.runId ≠ p.nextId := Int.ne_of_lt (h.runId_lt_nextId hmem)
    refine ⟨by simp [Ne.symm hne], ?_⟩
    simp only [flight?_advance _ hadvance hne, Event.isReset, Flight.tell_false]
    exact hf
  | woken g hg reason hadvance =>
    have hne : f.run.runId ≠ g.run.runId := by
      simpa [Event.sleeper?, eq_comm] using hother
    refine ⟨by simp [Ne.symm hne], ?_⟩
    simp only [flight?_advance _ hadvance hne, flight?_withoutFlight, if_neg hne, Event.isReset,
      Flight.tell_false]
    exact hf
  | cancelled g hg =>
    have hne : f.run.runId ≠ g.run.runId := by
      simpa [Event.sleeper?, eq_comm] using hother
    refine ⟨rfl, (flight?_withoutFlight p _ _).trans ?_⟩
    simp only [if_neg hne, Event.isReset, Flight.tell_false]
    exact hf
  | reset =>
    refine ⟨rfl, ?_⟩
    rw [flight?_reset, hf, Option.map_some, Flight.abandon, Flight.tell, Event.isReset, Bool.or_true]
    -- The active run is told now; any other has been told before.
    split
    · rfl
    · rename_i howner
      rw [h.active_iff hmem, Bool.not_eq_false] at howner
      rw [← howner]

/-- What others do changes how the sleeps of a run end only by a reset. -/
theorem wakesOf_cons_other {runId : Int} {e : Event} (hother : runId ∉ e.sleeper?)
    (abandoned : Bool) (history : List Event) :
    wakesOf runId abandoned (e :: history) = wakesOf runId (abandoned || e.isReset) history := by
  cases e with
  | wake id reason =>
    have hne : id ≠ runId := by simpa [Event.sleeper?] using hother
    simp [wakesOf, hne, Event.isReset]
  | cancel id =>
    have hne : id ≠ runId := by simpa [Event.sleeper?] using hother
    simp [wakesOf, hne, Event.isReset]
  | reset => simp [wakesOf, Event.isReset]
  | _ => simp [wakesOf, Event.isReset]

/-- A run that is carried on sleeps, or has ended and does not sleep any more. -/
theorem returns_of_advance {run : Run} {x : Resumption RunResult} {progress : Progress}
    (hadvance : p.advance run x = (q, progress)) (hawake : p.flight? run.runId = none)
    (hold : run.runId < p.nextId) (history : List Event) (ws : List Wake)
    (hasleep : ∀ delay resume, q.flight? run.runId = some ⟨run, delay, resume⟩ →
      q.returns run.runId history = ((Resumption.sleeping delay resume).answer? ws).toList) :
    progress.result?.toList ++ q.returns run.runId history = (x.answer? ws).toList := by
  cases x with
  | done result =>
    cases hadvance
    have hgone : Gone (p.land result) run.runId := by
      refine ⟨?_, ?_⟩
      · rw [flight?, p.land_flights]
        exact hawake
      · rw [p.land_nextId]
        exact hold
    simp [Progress.result?, hgone.returns, Resumption.answer?]
  | sleeping delay resume =>
    cases hadvance
    rw [hasleep delay resume (by simp [flight?])]
    rfl

/-- The caller of a run that sleeps gets the answer of the run when its sleeps end, whatever happens
    between them. -/
theorem returns_asleep (h : Accounts none p l) (hf : p.flight? f.run.runId = some f)
    (history : List Event) :
    p.returns f.run.runId history =
      ((Resumption.sleeping f.delay f.resume).answer?
        (wakesOf f.run.runId f.run.abandoned history)).toList := by
  -- By induction on the history: an event ends the sleep of the run, gives it up, or is another's.
  induction history generalizing p l f with
  | nil => rfl
  | cons e history ih =>
    have hmem := (p.mem_of_flight? hf).1
    have hold := h.runId_lt_nextId hmem
    by_cases hother : f.run.runId ∈ e.sleeper?
    · have haway : (p.withoutFlight f.run.runId).flight? f.run.runId = none := by
        rw [flight?_withoutFlight, if_pos rfl]
      cases e with
      | wake id reason =>
        obtain rfl : id = f.run.runId := by simpa [Event.sleeper?] using hother
        -- The run goes on, and the rest of the history is that after a step.
        obtain ⟨⟨q, progress⟩, hadvance⟩ : ∃ y, (p.withoutFlight f.run.runId).advance f.run
          (f.resume { reason := reason, abandoned := f.run.abandoned }) = y := ⟨_, rfl⟩
        have hwake : p.wake f.run.runId reason = some (q, progress) :=
          ((p.step_of_flight?_eq_some hf).1 reason).trans (congrArg some hadvance)
        have hq : p.step (.wake f.run.runId reason) = q := by simp [Playground.step, hwake]
        have hstep := hq ▸ h.step (.wake f.run.runId reason)
        have hreturned : p.returned? f.run.runId (.wake f.run.runId reason) = progress.result? := by
          simp [returned?, outcome?, hwake]
        rw [Playground.returns, hq, hreturned, wakesOf, if_pos rfl, Resumption.answer?]
        apply returns_of_advance hadvance haway hold
        intro delay resume hasleep
        exact ih (f := ⟨f.run, delay, resume⟩) hstep hasleep
      | cancel id =>
        obtain rfl : id = f.run.runId := by simpa [Event.sleeper?] using hother
        have hgone : Gone (p.step (.cancel f.run.runId)) f.run.runId := by
          simp only [Playground.step, (p.step_of_flight?_eq_some hf).2]
          exact ⟨haway, hold⟩
        rw [Playground.returns, hgone.returns, wakesOf, if_pos rfl]
        rfl
      | _ => simp [Event.sleeper?] at hother
    · obtain ⟨hnone, hasleep⟩ := step_asleep h hf hother
      rw [Playground.returns, hnone, wakesOf_cons_other hother]
      exact ih (f := f.tell e.isReset) (h.step e) hasleep

/-- The caller of a run that is started gets the answer of its program when its sleeps end, whatever
    happens between them. -/
theorem returns_started (h : Accounts none p l) (hidle : p.active = none)
    (program : Option RunSource) (history : List Event) :
    p.returns p.nextId (.start program :: history) =
      ((p.engage program).2.course.answer? (wakesOf p.nextId false history)).toList := by
  obtain ⟨⟨q, progress⟩, hadvance⟩ : ∃ y, (p.engage program).1.advance (p.engage program).2.launch
    (p.engage program).2.course = y := ⟨_, rfl⟩
  have hstart : p.start program = .ok (q, p.nextId, progress) := by
    rw [p.start_of_idle hidle]
    simp only [hadvance]
    rfl
  have hq : p.step (.start program) = q := by simp [Playground.step, hstart, after]
  have hstep := hq ▸ h.step (.start program)
  have hreturned : p.returned? p.nextId (.start program) = progress.result? := by
    simp [returned?, outcome?, hstart]
  have haway : (p.engage program).1.flight? p.nextId = none := by
    rw [flight?, List.find?_eq_none]
    intro g hg
    simpa using Int.ne_of_lt (h.runId_lt_nextId hg)
  rw [Playground.returns, hq, hreturned]
  apply returns_of_advance hadvance haway (Int.lt_succ _)
  intro delay resume hasleep
  exact returns_asleep (f := ⟨(p.engage program).2.launch, delay, resume⟩) hstep hasleep history

/-- What the caller of a run gets in a history is what it gets in the first part and then in the second
    one. -/
theorem returns_append (p : Playground) (runId : Int) (h t : List Event) :
    p.returns runId (h ++ t) = p.returns runId h ++ (p.replay h).returns runId t := by
  induction h generalizing p with
  | nil => rfl
  | cons e h ih => simp [Playground.returns, ih]

end

/-! ## Sleeps that end as they should -/

namespace Event

/-- Whether an event ends the sleep of a run otherwise than by the time being up. -/
def spoils (runId : Int) : Event → Bool
  | .wake id (.failed ..) | .cancel id => id = runId
  | _ => false

/-- Whether an event wakes a run. -/
def wakes (runId : Int) : Event → Bool
  | .wake id _ => id = runId
  | _ => false

end Event

/-- How often a run is woken in a history. -/
def wakings (runId : Int) (history : List Event) : Nat := history.countP (Event.wakes runId)

/-- In a history that is played from a playground, the caller of a run has got a result before any
    event of some kind. -/
def EndsBefore (p : Playground) (runId : Int) (bad : Event → Bool) (history : List Event) : Prop :=
  ∀ h e t, history = h ++ e :: t → bad e = true → p.returns runId h ≠ []

section

variable {runId : Int} {history : List Event}

/-- A run whose sleeps all last their time is woken in the same way each time, if it is abandoned by
    then or nobody resets the playground. -/
theorem wakesOf_eq_replicate {abandoned : Bool}
    (hspoils : ∀ e ∈ history, e.spoils runId = false)
    (hreset : abandoned = true ∨ ∀ e ∈ history, e.isReset = false) :
    wakesOf runId abandoned history =
      List.replicate (wakings runId history) ⟨.elapsed, abandoned⟩ := by
  induction history with
  | nil => rfl
  | cons e history ih =>
    have hhead := hspoils e List.mem_cons_self
    have htail := ih (fun e he => hspoils e (List.mem_cons_of_mem _ he))
      (hreset.imp_right fun h e he => h e (List.mem_cons_of_mem _ he))
    rw [wakings] at htail ⊢
    by_cases hother : runId ∈ e.sleeper?
    · -- The run is woken, because nobody gives it up.
      cases e with
      | wake id reason =>
        obtain rfl : id = runId := by simpa [Event.sleeper?] using hother
        cases reason with
        | elapsed => simp [wakesOf, htail, Event.wakes, List.replicate_succ]
        | failed message => simp [Event.spoils] at hhead
      | cancel id => simp_all [Event.sleeper?, Event.spoils]
      | _ => simp [Event.sleeper?] at hother
    · have hwakes : e.wakes runId = false := by
        cases e <;> simp_all [Event.sleeper?, Event.wakes]
      have habandoned : (abandoned || e.isReset) = abandoned := by
        rcases hreset with rfl | hreset
        · rfl
        · simp [hreset e List.mem_cons_self]
      rw [wakesOf_cons_other hother, habandoned, htail]
      simp [hwakes]

/-- The sleeps of a run that is not given up in the first part of a history end as those of the first
    part and then as those of the second one. -/
theorem wakesOf_append {h : List Event} (hcancel : .cancel runId ∉ h) (abandoned : Bool) (t : List Event) :
    wakesOf runId abandoned (h ++ t) =
      wakesOf runId abandoned h ++ wakesOf runId (abandoned || h.any Event.isReset) t := by
  induction h generalizing abandoned with
  | nil => simp [wakesOf]
  | cons e h ih =>
    have htail := ih fun hmem => hcancel (List.mem_cons_of_mem _ hmem)
    by_cases hother : runId ∈ e.sleeper?
    · cases e with
      | wake id reason =>
        obtain rfl : id = runId := by simpa [Event.sleeper?] using hother
        simp [wakesOf, htail, Event.isReset]
      | cancel id =>
        obtain rfl : id = runId := by simpa [Event.sleeper?] using hother
        exact absurd List.mem_cons_self hcancel
      | _ => simp [Event.sleeper?] at hother
    · rw [List.cons_append, wakesOf_cons_other hother, wakesOf_cons_other hother, htail,
        List.any_cons, Bool.or_assoc]

/-- A run that is reset during a sleep is told from the end of that sleep on that it is abandoned. -/
theorem wakesOf_reset {h t : List Event} (hspoils : ∀ e ∈ h ++ .reset :: t, e.spoils runId = false)
    (hreset : ∀ e ∈ h, e.isReset = false) :
    wakesOf runId false (h ++ .reset :: t) =
      (List.range' 0 (wakings runId (h ++ .reset :: t))).map
        (abandonedDuring (wakings runId h + 1)) := by
  have hbefore : ∀ e ∈ h, e.spoils runId = false := fun e he => hspoils e (by simp [he])
  have hafter : ∀ e ∈ t, e.spoils runId = false := fun e he => hspoils e (by simp [he])
  have hcount : wakings runId (h ++ .reset :: t) = wakings runId h + wakings runId t := by
    simp [wakings, Event.wakes]
  have hcancel : .cancel runId ∉ h := fun hmem => by simpa [Event.spoils] using hbefore _ hmem
  rw [wakesOf_append hcancel, wakesOf, wakesOf_eq_replicate hbefore (.inr hreset),
    wakesOf_eq_replicate hafter (.inl rfl), hcount, ← List.range'_append_1, List.map_append]
  -- The sleeps before the reset are counted below the bound, those from it on are not.
  congr 1
  · symm
    rw [List.eq_replicate_iff]
    simp only [List.length_map, List.length_range', List.mem_map, List.mem_range'_1, true_and]
    rintro w ⟨i, ⟨-, hi⟩, rfl⟩
    simp only [abandonedDuring, Wake.mk.injEq, true_and, decide_eq_false_iff_not]
    omega
  · symm
    rw [List.eq_replicate_iff]
    simp only [List.length_map, List.length_range', List.mem_map, List.mem_range'_1, true_and]
    rintro w ⟨i, ⟨hi, -⟩, rfl⟩
    simp only [abandonedDuring, Wake.mk.injEq, true_and, decide_eq_true_eq]
    omega

end

/-- If there are no events of some kind, every run ends before all of them. -/
theorem endsBefore_of_forall (p : Playground) (runId : Int) {bad : Event → Bool}
    {history : List Event} (hclean : ∀ e ∈ history, bad e = false) :
    p.EndsBefore runId bad history := by
  intro h e t heq hbad
  rw [hclean e (by simp [heq])] at hbad
  cases hbad

/-- A run that ends before all events of some kind has got its result in a part of the history that
    has none of them, unless there are none at all. -/
theorem EndsBefore.exists_prefix {p : Playground} {runId : Int} {bad : Event → Bool} {e : Event}
    {history : List Event} (hends : p.EndsBefore runId bad (e :: history)) :
    ∃ h t, history = h ++ t ∧ (∀ d ∈ h, bad d = false) ∧
      (t = [] ∨ p.returns runId (e :: h) ≠ []) := by
  cases hfind : history.find? bad with
  | none =>
    refine ⟨history, [], by simp, ?_, .inl rfl⟩
    simpa using hfind
  | some d =>
    -- The first of them is where the part ends.
    obtain ⟨hbad, h, t, rfl, hclean⟩ := List.find?_eq_some_iff_append.1 hfind
    refine ⟨h, d :: t, rfl, by simpa using hclean, .inr ?_⟩
    exact hends (e :: h) d t rfl hbad

/-! ## Runs among others and alone -/

/-- The results that are due once some sleeps of a run have ended, which alone would have these delays
    and this result. -/
def due (alone : List Value × RunResult) (ended : Nat) : List RunResult :=
  if alone.1.length ≤ ended then [alone.2] else []

section

variable {p : Playground} {l : Ledger}

/-- What is due to the caller of a run once it has its result stays so. -/
theorem returns_eq_due_of_prefix (h : Accounts none p l) (hidle : p.active = none)
    (program : Option RunSource) {alone : List Value × RunResult} {k t : List Event}
    (hends : t = [] ∨ p.returns p.nextId (.start program :: k) ≠ [])
    (hk : p.returns p.nextId (.start program :: k) = due alone (wakings p.nextId k)) :
    p.returns p.nextId (.start program :: (k ++ t)) = due alone (wakings p.nextId (k ++ t)) := by
  rcases hends with rfl | hends
  · simpa using hk
  · -- The result has been given, and nobody gets two of them.
    have hlen : alone.1.length ≤ wakings p.nextId k := by
      rw [hk, due] at hends
      simpa using hends
    have hmore : alone.1.length ≤ wakings p.nextId (k ++ t) := by
      rw [wakings, List.countP_append]
      exact Nat.le_add_right_of_le hlen
    have hone := returns_started h hidle program (k ++ t)
    rw [← List.cons_append, returns_append, hk] at hone ⊢
    rw [due, if_pos hlen] at hone ⊢
    rw [due, if_pos hmore]
    cases hanswer : (p.engage program).2.course.answer? (wakesOf p.nextId false (k ++ t)) with
    | none => simp [hanswer] at hone
    | some a => simp_all

/-- The caller of a run whose sleeps end in a way that counts them gets what is due to it. -/
theorem returns_eq_due (h : Accounts none p l) (hidle : p.active = none)
    (program : Option RunSource) {wakes : Nat → Wake} {history : List Event}
    (hwakes : wakesOf p.nextId false history =
      (List.range' 0 (wakings p.nextId history)).map wakes) :
    p.returns p.nextId (.start program :: history) =
      due ((p.engage program).2.course.completeFrom wakes 0) (wakings p.nextId history) := by
  rw [returns_started h hidle, hwakes, Resumption.answer?_range', due]
  split <;> rfl

end

/-- Carrying a run on leaves the configuration as it is. -/
theorem config_advance {p q : Playground} {run : Run} {x : Resumption RunResult} {progress : Progress}
    (hadvance : p.advance run x = (q, progress)) : q.config = p.config := by
  cases x with
  | sleeping delay resume => cases hadvance; rfl
  | done result =>
    cases hadvance
    rw [land]
    split <;> rfl

/-- No event changes the configuration. -/
theorem config_replay (p : Playground) (history : List Event) :
    (p.replay history).config = p.config := by
  induction history generalizing p with
  | nil => rfl
  | cons e history ih =>
    rw [replay_cons, ih]
    have ht := p.transition e
    generalize p.step e = q, p.outcome? e = outcome at ht ⊢
    cases ht with
    | started hidle program hadvance =>
      have hq := config_advance hadvance
      exact hq
    | woken f hf reason hadvance =>
      have hq := config_advance hadvance
      exact hq
    | _ => rfl

/-- **Runs that share a playground are isolated from one another.**  Take a run that is started in the
    middle of a history, and the same program alone: the given one, or the text that the playground
    shows when the run is started.  If every sleep of the run lasts its time, and nobody resets the
    playground before the run has ended, then its caller gets the result of the program alone once as
    many sleeps have ended as that has, and nothing else.  If a reset falls into one of its sleeps, the
    caller gets in the same way the result of the program alone, abandoned during that sleep.  Nothing
    else matters, be it what others do or what the playground shows. -/
theorem interleaved_run_eq_solitary (config : StageConfig) (first : Int)
    (before during : List Event) (program : Option RunSource) :
    let p := ({ config := config, nextId := first } : Playground).replay before
    let run : Run :=
      { runId := p.nextId, source := program.getD (.text p.source), config := config }
    let history := .start program :: during
    p.active = none →
    (∃ q progress, p.start program = .ok (q, run.runId, progress)) ∧
    (p.EndsBefore run.runId (Event.spoils run.runId) history →
      (p.EndsBefore run.runId Event.isReset history →
        p.returns run.runId history =
          due (run.course.complete {}) (wakings run.runId during)) ∧
      (∀ h t, during = h ++ .reset :: t → (∀ e ∈ h, e.isReset = false) →
        p.returns run.runId (.start program :: h) = [] →
        p.returns run.runId history =
          due (run.course.completeFrom (abandonedDuring (wakings run.runId h + 1)) 0)
            (wakings run.runId during))) := by
  intro p run history hidle
  have hl := (Accounts.opened (p := { config := config, nextId := first }) rfl rfl).replay before
  have hrun : (p.engage program).2 = run := by
    simp [engage, run, p, config_replay]
  refine ⟨⟨_, _, p.start_of_idle hidle program⟩, fun hspoils => ⟨?_, ?_⟩⟩
  -- Without a reset: up to the end of the run all its sleeps end in the same way.
  · intro hreset
    have hends : p.EndsBefore run.runId (fun e => e.spoils run.runId || e.isReset) history := by
      intro h e t heq hbad
      rcases Bool.or_eq_true_iff.1 hbad with hbad | hbad
      · exact hspoils h e t heq hbad
      · exact hreset h e t heq hbad
    obtain ⟨k, t, rfl, hclean, hk⟩ := hends.exists_prefix
    apply returns_eq_due_of_prefix hl hidle program hk
    have hwakes : wakesOf p.nextId false k =
        (List.range' 0 (wakings p.nextId k)).map fun _ => {} := by
      rw [List.map_const', List.length_range']
      apply wakesOf_eq_replicate
      · exact fun e he => (Bool.or_eq_false_iff.1 (hclean e he)).1
      · exact .inr fun e he => (Bool.or_eq_false_iff.1 (hclean e he)).2
    rw [returns_eq_due hl hidle program hwakes, hrun, Resumption.complete]
  -- With a reset: it comes before the run has ended, and no sleep fails up to there.
  · intro h t heq hreset hnothing
    obtain ⟨k, u, rfl, hclean, hk⟩ := hspoils.exists_prefix
    have hlater : ∀ v, h = k ++ v → u = [] := by
      rintro v rfl
      refine hk.resolve_right fun hgot => hgot ?_
      rw [← List.cons_append, returns_append] at hnothing
      exact (List.append_eq_nil_iff.1 hnothing).1
    have hprefix : ∃ v, k = h ++ .reset :: v := by
      rcases List.append_eq_append_iff.1 heq with ⟨v, hv, hu⟩ | ⟨v, hv, hu⟩
      · simp [hlater v hv] at hu
      · cases v with
        | nil => simp [hlater [] (by simpa using hv.symm)] at hu
        | cons e v =>
          obtain ⟨rfl, -⟩ := List.cons.inj hu
          exact ⟨v, hv⟩
    obtain ⟨v, rfl⟩ := hprefix
    apply returns_eq_due_of_prefix hl hidle program hk
    rw [returns_eq_due hl hidle program (wakesOf_reset hclean hreset), hrun]

/-- The first run is abandoned and woken while the second one sleeps; the second one is left alone, or
    abandoned in turn. -/
theorem interleaved_run_eq_solitary_of_sleepers :
    let sleeper : RunSource := .program [.call .wait (.int 1), .call .move (.int 5)]
    let run : Run := { runId := 2, source := sleeper }
    let p := ({} : Playground).replay [.start (some sleeper), .reset]
    let during : List Event := [.wake 1 .elapsed, .setSource "pass", .wake 2 .elapsed]
    p.active = none ∧
    p.EndsBefore 2 (Event.spoils 2) (.start (some sleeper) :: .reset :: during) ∧
    p.EndsBefore 2 Event.isReset (.start (some sleeper) :: during) ∧
    p.returns 2 (.start (some sleeper) :: during) = due (run.course.complete {}) 1 ∧
    p.returns 2 (.start (some sleeper) :: .reset :: during) =
      due (run.course.completeFrom (abandonedDuring 1) 0) 1 := by
  intro sleeper run p during
  have hidle : p.active = none := by decide +kernel
  have hspoils : p.EndsBefore 2 (Event.spoils 2) (.start (some sleeper) :: during) :=
    p.endsBefore_of_forall 2 (by decide)
  have hspoils' : p.EndsBefore 2 (Event.spoils 2) (.start (some sleeper) :: .reset :: during) :=
    p.endsBefore_of_forall 2 (by decide)
  have hreset : p.EndsBefore 2 Event.isReset (.start (some sleeper) :: during) :=
    p.endsBefore_of_forall 2 (by decide)
  have hleft := interleaved_run_eq_solitary {} 1 [.start (some sleeper), .reset] during (some sleeper)
    hidle
  have hreset' := interleaved_run_eq_solitary {} 1 [.start (some sleeper), .reset]
    (.reset :: during) (some sleeper) hidle
  refine ⟨hidle, hspoils', hreset, (hleft.2 hspoils).1 hreset, ?_⟩
  exact (hreset'.2 hspoils').2 [] during rfl (by simp) (List.isEmpty_iff.1 (by decide +kernel))

end Playground

end SpriteStage
