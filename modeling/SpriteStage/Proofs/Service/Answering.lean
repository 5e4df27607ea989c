import SpriteStage.Proofs.Playground.Isolation
import SpriteStage.Proofs.Run.Settlement
import SpriteStage.Proofs.Service.Refusal

/-!
# Answers in a later history

A request is answered at once, or when the run that it starts has ended.  In between others use the service,
so the answer is that in a later history.  Whatever they do, short of giving the run up, there is an answer
as soon as the sleeps of the run have ended; it is the result of the run, and it is sent if it can be written.

## Main definitions

* `Answer.SentIf` says when an answer is sent
* `Playground.answer?` is the answer to a request in a later history

## Main results

* `Playground.sentIf_of_run` and `Playground.exists_answer?_of_run` are the two sides of being answered
-/

namespace SpriteStage

/-! ## Statuses -/

namespace Answer

/-- The status of an answer, if it is sent. -/
def status? : Answer → Option ℕ
  | .ok response => some response.status
  | .error _ => none

/-- An answer is sent as a success under a condition, and otherwise it is not sent. -/
structure SentIf (a : Answer) (P : Prop) : Prop where
  sent : P → a.status? = some 200
  unsent : ¬ P → a.status? = none

theorem isServed_iff (a : Answer) : a.isServed = true ↔ a.status? = some 200 := by
  cases a <;> simp [isServed, status?]

/-- A payload is sent with its status, or not at all. -/
theorem status?_ofPayload (status : ℕ) (payload : Value) :
    (ofPayload status payload).status? = some status ∨ (ofPayload status payload).status? = none := by
  rw [ofPayload]
  split
  · exact .inl rfl
  · exact .inr rfl

theorem sentIf_ofPayload {payload : Value} {P : Prop} (h : (ofPayload 200 payload).isServed = true ↔ P) :
    (ofPayload 200 payload).SentIf P where
  sent hP := (isServed_iff _).1 (h.2 hP)
  unsent hP := (status?_ofPayload 200 payload).resolve_left fun hstatus =>
    hP (h.1 ((isServed_iff _).2 hstatus))

/-- A refusal is always sent. -/
theorem status?_ofRefusal (refusal : Refusal) : (ofRefusal refusal).status? = some refusal.status := by
  have hwrites : Json.Writes {} (.object [("error", .text refusal.message)]) :=
    .object (by simp [Json.Writes.text])
  obtain ⟨body, hbody⟩ := hwrites 0
  rw [ofRefusal, ofPayload, Json.print, hbody]
  rfl

end Answer

/-- What holds of all answers of a computation holds of the one that it gives. -/
theorem Resumption.Answers.of_answer? {α : Type} {P : α → Prop} {x : Resumption α} (h : x.Answers P)
    {ws : List Wake} {a : α} (ha : x.answer? ws = some a) : P a := by
  have hafter := h.after ws
  rwa [Resumption.after_eq_done_iff.2 ha] at hafter

/-! ## What a service does to its playground -/

/-- What some events do to the playground of a service. -/
def Service.effects (history : List Service.Event) : List Playground.Event :=
  history.filterMap (·.effect?)

namespace Playground

theorem attendAll_eq_replay (p : Playground) (history : List Service.Event) :
    p.attendAll history = p.replay (Service.effects history) := by
  induction history generalizing p with
  | nil => rfl
  | cons e rest ih =>
    rw [attendAll, List.foldl_cons, attend_eq_replay]
    have hrest := ih (p.replay e.effect?.toList)
    rw [attendAll] at hrest
    rw [hrest, ← replay_append]
    cases heffect : e.effect? <;> simp [Service.effects, heffect]

/-- The playground of a service agrees with an account of its runs. -/
theorem exists_accounts_attendAll (config : StageConfig) (first : Int) (history : List Service.Event) :
    ∃ l, Accounts none (({ config := config, nextId := first } : Playground).attendAll history) l := by
  rw [attendAll_eq_replay]
  exact ⟨_, (Accounts.opened rfl rfl).replay _⟩

/-- What the sprite of a service says has been logged. -/
theorem speaks_attendAll (config : StageConfig) (first : Int) (history : List Service.Event) :
    Sprite.Speaks (fun _ => True)
      (({ config := config, nextId := first } : Playground).attendAll history).sprite := by
  have hfresh := shows_fresh (fun _ => True) trivial config first
  exact (hfresh.attendAll trivial (fun _ _ => trivial) fun e _ => e.says_true).sprite

/-! ## Answers -/

/-- The answer to a request, if it has one by the end of a later history: the one that it gets at once, or
    the result of its run. -/
def answer? (p : Playground) (r : Request) (later : List Service.Event) : Option Answer :=
  match (p.handle r).2 with
  | .answer a => some a
  | .waiting runId _ =>
    ((p.handle r).1.returns runId (Service.effects later)).head?.map Answer.ofResult

variable {p : Playground} {l : Ledger} {r : Request} {program : Option RunSource}

/-- An answer that comes at once is the answer. -/
theorem answer?_of_reply {a : Answer} (h : (p.handle r).2 = .answer a) (later : List Service.Event) :
    p.answer? r later = some a := by
  rw [answer?, h]

/-- A request that starts a run is answered with the result of the run. -/
theorem answer?_of_run (hl : Accounts none p l) (hidle : p.active = none) (haction : r.action = .run program)
    (later : List Service.Event) : p.answer? r later =
      ((p.engage program).2.course.answer? (wakesOf p.nextId false (Service.effects later))).map
        Answer.ofResult := by
  have hreturns := returns_started hl hidle program (Service.effects later)
  obtain ⟨q, progress, hstart⟩ : ∃ q progress, p.start program = .ok (q, p.nextId, progress) :=
    ⟨_, _, p.start_of_idle hidle program⟩
  have hhandle : p.handle r = (q, .ofProgress p.nextId progress) := by
    rw [handle, haction, perform, performWith, startRun, hstart]
  have hreturned : p.returned? p.nextId (.start program) = progress.result? := by
    simp [returned?, outcome?, hstart]
  have hstep : p.step (.start program) = q := by simp [step, hstart, after]
  rw [returns, hreturned, hstep] at hreturns
  rw [answer?, hhandle]
  cases progress with
  | ended result =>
    -- The course has the result as its answer without being woken at all.
    cases hcourse : (p.engage program).2.course.answer? (wakesOf p.nextId false (Service.effects later)) with
    | none => simp [hcourse, Progress.result?] at hreturns
    | some a =>
      have ha : result = a := by simp_all [Progress.result?]
      rw [ha]
      rfl
  | asleep delay =>
    simp only [Progress.result?, Option.toList_none, List.nil_append] at hreturns
    simp [Reply.ofProgress, hreturns]

/-- **The answer to a run is its result**, and it is sent exactly if the number of the run has a text and
    what the sprite says at the end can be written. -/
theorem sentIf_of_run (hl : Accounts none p l) (hidle : p.active = none) (haction : r.action = .run program)
    {later : List Service.Event} {a : Answer} (ha : p.answer? r later = some a) :
    ∃ result, a = .ofResult result ∧
      a.SentIf ((Decimal.digitsOf p.nextId.natAbs).length ≤ digitLimit ∧
        ∀ s ∈ result.outcome.sprite?, s.speech.isShowable = true) := by
  rw [answer?_of_run hl hidle haction] at ha
  obtain ⟨result, hresult, rfl⟩ := Option.map_eq_some_iff.1 ha
  -- What a result has, whatever wakes the run, the course has at all its ends.
  have hnumber : result.runId = p.nextId := (Run.answers_course (p.engage program).2).of_answer? hresult
  have hspeaks : result.Speaks fun _ => True :=
    (Run.answers_speaks trivial (by simp [Program.Says])).of_answer? hresult
  refine ⟨result, rfl, Answer.sentIf_ofPayload ?_⟩
  rw [← hnumber]
  exact hspeaks.isServed

/-- A request that does not give a run up leaves it to its sleeps. -/
theorem cancel_notMem_effects {runId : Int} {later : List Service.Event} (h : .cancel runId ∉ later) :
    .cancel runId ∉ Service.effects later := by
  intro hmem
  obtain ⟨e, he, heffect⟩ := List.mem_filterMap.1 hmem
  cases e with
  | cancel id =>
    cases heffect
    exact h he
  | wake id reason => cases heffect
  | request s => cases haction : s.action <;> simp [Service.Event.effect?, haction, Action.event?] at heffect

/-- Sleeps that all last their time end in the same way. -/
theorem wakesOf_replicate (runId : Int) (abandoned : Bool) (n : ℕ) :
    wakesOf runId abandoned (List.replicate n (.wake runId .elapsed)) =
      List.replicate n ⟨.elapsed, abandoned⟩ := by
  induction n with
  | zero => rfl
  | succ n ih => rw [List.replicate_succ, wakesOf, if_pos rfl, ih, List.replicate_succ]

/-- **A run is answered** once its sleeps have ended, whatever happens to it short of being given up. -/
theorem exists_answer?_of_run (hl : Accounts none p l) (hidle : p.active = none)
    (haction : r.action = .run program) {later : List Service.Event} (hcancel : .cancel p.nextId ∉ later) :
    ∃ n, (p.answer? r (later ++ List.replicate n (.wake p.nextId .elapsed))).isSome = true := by
  -- What is left of the course after the later history has an answer after some more sleeps.
  obtain ⟨course, hcourse⟩ : ∃ course, (p.engage program).2.course = course := ⟨_, rfl⟩
  obtain ⟨abandoned, habandoned⟩ :
      ∃ abandoned, (false || (Service.effects later).any Event.isReset) = abandoned := ⟨_, rfl⟩
  obtain ⟨n, result, hresult⟩ :=
    (course.after (wakesOf p.nextId false (Service.effects later))).exists_answer?
      fun _ => ⟨.elapsed, abandoned⟩
  have hwoken : course.answer? (wakesOf p.nextId false (Service.effects later) ++
      List.replicate n ⟨.elapsed, abandoned⟩) = some result := by
    rw [← Resumption.after_eq_done_iff, ← Resumption.after_append, Resumption.after_eq_done_iff]
    simpa using hresult
  have heffects : Service.effects (later ++ List.replicate n (.wake p.nextId .elapsed)) =
      Service.effects later ++ List.replicate n (.wake p.nextId .elapsed) := by
    simp [Service.effects, Service.Event.effect?]
  refine ⟨n, ?_⟩
  rw [answer?_of_run hl hidle haction, heffects, wakesOf_append (cancel_notMem_effects hcancel), habandoned,
    wakesOf_replicate, hcourse, hwoken]
  rfl

end Playground

end SpriteStage
