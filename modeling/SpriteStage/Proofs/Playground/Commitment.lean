import SpriteStage.Proofs.Playground.Transition

/-!
# What a playground shows of its runs

A run is committed if it ends while it is the active one.  The chronicle of a history lists the results
that were committed and the resets, whatever else happened between them.  `slot_eq_chronicle` says that
the sprite and the last result of a playground are functions of the chronicle, and that the numbers of
the runs grow along it.

## Main definitions

* `Entry` is a result that is committed, or a reset; a `Chronicle` is a list of them
* `Playground.committed?` is the result that is committed in an event
* `Playground.chronicle` is the chronicle of a history
* `Playground.Recounts` is the invariant: a playground shows what a chronicle tells
-/

namespace SpriteStage

/-! ## Chronicles -/

/-- What changes the sprite of a playground or its last result. -/
inductive Entry where
  /-- A run ends while it is the active one. -/
  | commit (result : RunResult)
  | reset

namespace Entry

/-- The result that is committed. -/
def result? : Entry → Option RunResult
  | .commit result => some result
  | .reset => none

/-- Whether the playground is reset. -/
def isReset : Entry → Bool
  | .commit _ => false
  | .reset => true

end Entry

/-- The sprite of a run that completed. -/
def RunOutcome.sprite? : RunOutcome → Option Sprite
  | .completed sprite _ => some sprite
  | .failed _ => none

/-- What has happened to a playground, the latest entry first. -/
abbrev Chronicle := List Entry

namespace Chronicle

/-- The results of the committed runs, the latest one first. -/
def results (c : Chronicle) : List RunResult := c.filterMap Entry.result?

/-- What has happened since the last reset. -/
def sinceReset (c : Chronicle) : Chronicle := c.takeWhile (!·.isReset)

/-- The sprite of the latest run that was committed as completed since the last reset, or a fresh one
    if there is none. -/
def sprite (c : Chronicle) : Sprite :=
  (c.sinceReset.results.filterMap (·.outcome.sprite?)).head?.getD {}

variable (c : Chronicle) (result : RunResult)

@[simp] theorem results_commit : results (.commit result :: c) = result :: c.results := rfl

@[simp] theorem results_reset : results (.reset :: c) = c.results := rfl

@[simp] theorem sprite_reset : sprite (.reset :: c) = {} := rfl

@[simp] theorem sprite_commit :
    sprite (.commit result :: c) = result.outcome.sprite?.getD c.sprite := by
  simp only [sprite, sinceReset, Entry.isReset, Bool.not_false, List.takeWhile_cons_of_pos,
    results_commit]
  -- A failed run is passed over, a completed one comes first.
  cases h : result.outcome.sprite? with
  | none => simp [h]
  | some s => simp [h]

end Chronicle

namespace Playground

/-- The result that is committed in an event: that of a run which ends while it is the active one, be
    it a new one or the one that was active before. -/
def committed? (p : Playground) (e : Event) : Option RunResult :=
  (p.outcome? e).bind fun (runId, progress) =>
    if e.isStart ∨ p.active = some runId then progress.result? else none

/-- What an event adds to the chronicle. -/
def noted? (p : Playground) (e : Event) : Option Entry :=
  if e.isReset then some .reset else (p.committed? e).map .commit

/-- The chronicle of a history that goes on from one. -/
def chronicleFrom (p : Playground) (c : Chronicle) : List Event → Chronicle
  | [] => c
  | e :: history => (p.step e).chronicleFrom ((p.noted? e).toList ++ c) history

/-- The chronicle of a history. -/
def chronicle (p : Playground) (history : List Event) : Chronicle := p.chronicleFrom [] history

/-! ## The invariant -/

/-- A playground shows what a chronicle tells.  The numbers of the committed runs grow; they are less
    than the number of the active run and than the next number. -/
structure Recounts (p : Playground) (c : Chronicle) : Prop where
  sprite : p.sprite = c.sprite
  lastResult : p.lastResult = c.results.head?
  growing : c.results.Pairwise fun later earlier => earlier.runId < later.runId
  lt_next : ∀ r ∈ c.results, r.runId < p.nextId
  owner_lt_next : ∀ id, p.active = some id → id < p.nextId
  lt_owner : ∀ id, p.active = some id → ∀ r ∈ c.results, r.runId < id

namespace Recounts

variable {p q : Playground} {c : Chronicle} {l : Ledger}

/-- A fresh playground shows what the empty chronicle tells. -/
theorem opened (config : StageConfig) (nextId : Int) :
    Recounts { config := config, nextId := nextId } [] where
  sprite := rfl
  lastResult := rfl
  growing := .nil
  lt_next := by simp [Chronicle.results]
  owner_lt_next := by simp
  lt_owner := by simp

/-- Only the sprite, the last result, the active run and the next number matter; the active run may
    be given up. -/
theorem congr (h : Recounts p c) (hsprite : q.sprite = p.sprite)
    (hlast : q.lastResult = p.lastResult) (hnext : q.nextId = p.nextId)
    (hactive : ∀ id, q.active = some id → p.active = some id) : Recounts q c where
  sprite := hsprite.trans h.sprite
  lastResult := hlast.trans h.lastResult
  growing := h.growing
  lt_next := hnext ▸ h.lt_next
  owner_lt_next id hid := hnext ▸ h.owner_lt_next id (hactive id hid)
  lt_owner id hid := h.lt_owner id (hactive id hid)

/-- A new run has a number past those of all committed runs. -/
theorem engage (h : Recounts p c) (program : Option RunSource) :
    Recounts (p.engage program).1 c where
  sprite := h.sprite
  lastResult := h.lastResult
  growing := h.growing
  lt_next := by
    intro r hr
    exact Int.lt_trans (h.lt_next r hr) (Int.lt_succ _)
  owner_lt_next := by
    rintro id ⟨⟩
    exact Int.lt_succ _
  lt_owner := by
    rintro id ⟨⟩
    exact h.lt_next

/-- The active run is committed when it ends. -/
theorem commit (h : Recounts p c) {result : RunResult} (howner : p.active = some result.runId) :
    Recounts (p.commit result) (.commit result :: c) where
  sprite := by
    rw [Chronicle.sprite_commit, ← h.sprite, Playground.commit]
    cases result.outcome <;> rfl
  lastResult := rfl
  growing := List.pairwise_cons.2 ⟨h.lt_owner _ howner, h.growing⟩
  lt_next := by
    intro r hr
    rcases List.mem_cons.1 hr with rfl | hr
    · exact h.owner_lt_next _ howner
    · exact h.lt_next r hr
  owner_lt_next := by simp [Playground.commit]
  lt_owner := by simp [Playground.commit]

/-- A run that is carried on is committed if it ends as the active one. -/
theorem advance (h : Recounts p c) {run : Run} {x : Resumption RunResult} {progress : Progress}
    (hx : x.Answers (·.runId = run.runId)) (hadvance : p.advance run x = (q, progress)) :
    Recounts q (((if p.active = some run.runId then progress.result? else none).map
      .commit).toList ++ c) := by
  cases x with
  | sleeping delay resume =>
    -- Falling asleep leaves what is shown as it is.
    obtain ⟨rfl, rfl⟩ := Prod.mk.inj hadvance
    simp only [Progress.result?, ite_self, Option.map_none, Option.toList_none, List.nil_append]
    exact h.congr rfl rfl rfl fun id hid => hid
  | done result =>
    obtain ⟨rfl, rfl⟩ := Prod.mk.inj hadvance
    have hid : result.runId = run.runId := hx
    simp only [Progress.result?, ← hid]
    by_cases howner : p.active = some result.runId
    · rw [if_pos howner, land, if_pos howner]
      exact h.commit howner
    · rw [if_neg howner, p.land_of_ne howner]
      exact h

/-- A reset brings back the fresh sprite and keeps the last result. -/
theorem reset (h : Recounts p c) : Recounts p.reset (.reset :: c) where
  sprite := rfl
  lastResult := h.lastResult
  growing := h.growing
  lt_next := h.lt_next
  owner_lt_next := by simp [Playground.reset]
  lt_owner := by simp [Playground.reset]

/-- Every event keeps a playground and its chronicle in agreement. -/
theorem step (h : Recounts p c) (hl : Accounts none p l) (e : Event) :
    Recounts (p.step e) ((p.noted? e).toList ++ c) := by
  have ht := p.transition e
  rw [noted?, committed?]
  generalize p.step e = q, p.outcome? e = outcome at ht ⊢
  cases ht with
  | refused _ hreset => simpa [hreset] using h
  | edited _ hedit hidle source output =>
    rw [Event.isReset_of_isEdit hedit]
    exact h.congr rfl rfl rfl fun id hid => hid
  | started hidle program hadvance =>
    -- The new run is the active one until it ends.
    have hx : (p.engage program).2.course.Answers
        (·.runId = (p.engage program).2.launch.runId) := Run.answers_course _
    have hstarted := (h.engage program).advance hx hadvance
    simpa [Event.isStart, Event.isReset, Playground.engage, Run.launch] using hstarted
  | woken f hf reason hadvance =>
    -- The run that is woken shows nothing before it ends.
    have hroused : Recounts (p.withoutFlight f.run.runId) c := h.congr rfl rfl rfl fun id hid => hid
    have hwoken := hroused.advance (hl.answers f (p.mem_of_flight? hf).1 _) hadvance
    simpa [Event.isStart, Event.isReset, withoutFlight] using hwoken
  | cancelled f hf =>
    exact h.congr rfl rfl rfl fun id hid => (Option.filter_eq_some_iff.1 hid).1
  | reset => exact h.reset

/-- A history keeps a playground and its chronicle in agreement. -/
theorem replay (h : Recounts p c) (hl : Accounts none p l) (history : List Event) :
    Recounts (p.replay history) (p.chronicleFrom c history) := by
  induction history generalizing p c l with
  | nil => exact h
  | cons e history ih => exact ih (h.step hl e) (hl.step e)

end Recounts

/-! ## Numbers of runs -/

/-- The runs that were started have the numbers from `first` on, one after the other, and the next
    number comes after them. -/
structure Numbers (first : Int) (p : Playground) (l : Ledger) : Prop where
  started : l.started.reverse = (List.range l.started.length).map fun i : Nat => first + i
  next : p.nextId = first + l.started.length

namespace Numbers

variable {first : Int} {p : Playground} {l : Ledger}

/-- A number is taken only by a run that is started. -/
theorem congr {q : Playground} {m : Ledger} (h : Numbers first p l) (hnext : q.nextId = p.nextId)
    (hstarted : m.started = l.started) : Numbers first q m where
  started := hstarted ▸ h.started
  next := hstarted ▸ hnext.trans h.next

theorem step (h : Numbers first p l) (e : Event) : Numbers first (p.step e) (l.record p e) := by
  have ht := p.transition e
  have hstarted := started_record p l e
  generalize p.step e = q, p.outcome? e = outcome at ht hstarted ⊢
  cases ht with
  | refused _ _ => exact h.congr rfl (by simpa using hstarted)
  | edited _ hedit hidle source output => exact h.congr rfl (by simpa using hstarted)
  | started hidle program hadvance =>
    -- The new run takes the next number.
    have hnext : q.nextId = p.nextId + 1 := nextId_advance hadvance
    refine ⟨?_, ?_⟩
    · rw [hstarted]
      simp [Event.isStart, h.started, h.next, List.range_succ]
    · rw [hnext, hstarted, h.next]
      simp [Event.isStart, Int.add_assoc]
  | woken f hf reason hadvance =>
    have hnext : q.nextId = (p.withoutFlight f.run.runId).nextId := nextId_advance hadvance
    exact h.congr hnext hstarted
  | cancelled f hf => exact h.congr rfl hstarted
  | reset => exact h.congr rfl hstarted

theorem replay (h : Numbers first p l) (history : List Event) :
    Numbers first (p.replay history) (p.ledgerFrom l history) := by
  induction history generalizing p l with
  | nil => exact h
  | cons e history ih => exact ih (h.step e)

end Numbers

/-! ## The slot -/

/-- **What a playground shows of its runs is a function of its chronicle.**  Whatever happens in a fresh
    playground: its sprite is that of the latest run committed as completed since the last reset, or a
    fresh one, and stays what it is in every event but a reset and the commitment of a completed run;
    its last result is the one committed latest, which only another commitment replaces; the numbers of
    the results that are committed one after the other grow, and that of the active run is past the
    last of them.  The runs take the numbers from the first one on in the order in which they are
    started, and a start that is refused takes none. -/
theorem slot_eq_chronicle (config : StageConfig) (first : Int) (history : List Event) :
    let p : Playground := { config := config, nextId := first }
    let q := p.replay history
    let c := p.chronicle history
    let started := (p.ledger history).started.reverse
    q.sprite = c.sprite ∧
    (∀ e, e.isReset = false → (∀ r ∈ q.committed? e, r.isCompleted = false) →
      (q.step e).sprite = q.sprite) ∧
    q.lastResult = c.results.head? ∧
    (∀ e, (q.step e).lastResult = (q.committed? e).or q.lastResult) ∧
    c.results.Pairwise (fun later earlier => earlier.runId < later.runId) ∧
    (∀ id, q.active = some id → ∀ r ∈ q.lastResult, r.runId < id) ∧
    started = (List.range started.length).map (fun i : Nat => first + i) ∧
    q.nextId = first + started.length ∧
    (∀ program owner, q.active = some owner →
      q.start program = .error (.busy owner) ∧ (q.step (.start program)).nextId = q.nextId) := by
  intro p q c started
  have hl : Accounts none q (p.ledger history) := (Accounts.opened rfl rfl).replay history
  have h : Recounts q c := (Recounts.opened config first).replay (Accounts.opened rfl rfl) history
  have hn : Numbers first q (p.ledger history) :=
    Numbers.replay ⟨rfl, (Int.add_zero first).symm⟩ history
  refine ⟨h.sprite, ?_, h.lastResult, ?_, h.growing, ?_, ?_, ?_, ?_⟩
  · intro e hreset hfailed
    rw [(h.step hl e).sprite, noted?, hreset, h.sprite]
    cases hcommitted : q.committed? e with
    | none => rfl
    | some r =>
      -- A failed run has no sprite.
      have hr := hfailed r hcommitted
      have hnone : r.outcome.sprite? = none := by
        unfold RunResult.isCompleted at hr
        cases houtcome : r.outcome <;> simp_all [RunOutcome.sprite?]
      simp [hnone]
  · intro e
    rw [(h.step hl e).lastResult, noted?, h.lastResult]
    cases hreset : e.isReset with
    | true =>
      have hnone : q.committed? e = none := by
        cases e <;> simp_all [Event.isReset, committed?, outcome?]
      simp [hnone]
    | false => cases q.committed? e <;> simp
  · intro id hid r hr
    exact h.lt_owner id hid r (List.mem_of_mem_head? (h.lastResult ▸ hr))
  · simpa [started] using hn.started
  · simpa [started] using hn.next
  · intro program owner howner
    have hbusy := q.start_of_active howner program
    refine ⟨hbusy, ?_⟩
    simp [step, hbusy, after]

end Playground

end SpriteStage
