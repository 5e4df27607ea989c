import SpriteStage.Proofs.Service.Serving

/-!
# Requests that are rejected

A request is rejected if it is answered with a status of 400 or more.  Whether it is rejected is decided
before anything is done: the request itself may be at fault, a run may own the playground, or the
sample may be unknown.  So a rejected request leaves the playground as it was, with all that sleeps in
it, and a history can be told without the requests that were rejected in it.

## Main definitions

* `Playground.refusal?` is what a playground refuses an action for
* `Playground.rejects` tells whether an event is a request that is rejected
* `Playground.accepted` leaves the rejected requests out of a history

## Main results

* `Playground.rejects_request` says which requests are rejected: those with a refusal
* `Playground.rejected_request_changes_nothing`
* `Playground.attendAll_accepted` leaves all rejected requests out at once
-/

namespace SpriteStage

/-- Whether an answer has a status that means failure. -/
def Answer.isRejection : Answer → Bool
  | .ok response => 400 ≤ response.status
  | .error _ => false

/-- Whether a request is answered at once with a status that means failure. -/
def Reply.isRejection : Reply → Bool
  | .answer a => a.isRejection
  | .waiting .. => false

namespace Playground

/-- What a playground refuses an action for, if it refuses it. -/
def refusal? (p : Playground) : Action → Option Refusal
  | .run _ => p.active.map fun runId => .playground (.busy runId)
  | .loadSample title =>
    match p.loadSample title with
    | .ok _ => none
    | .error e => some (.playground e)
  | .refuse refusal => some refusal
  | .showState | .showSamples | .showTools | .reset | .fail _ => none

/-- Whether an event is replied to by a rejection. -/
def rejects (p : Playground) (e : Service.Event) : Bool :=
  (p.reply? e).any Reply.isRejection

/-- A history without the requests that are rejected in it. -/
def accepted (p : Playground) : List Service.Event → List Service.Event
  | [] => []
  | e :: rest => if p.rejects e then p.accepted rest else e :: (p.attend e).accepted rest

end Playground

/-! ## Statuses -/

/-- All refusals have statuses that mean failure. -/
theorem Refusal.le_status (refusal : Refusal) : 400 ≤ refusal.status := by
  unfold status
  split <;> decide

namespace Answer

/-- A refused request is always answered. -/
theorem isRejection_ofRefusal (refusal : Refusal) : (ofRefusal refusal).isRejection = true :=
  decide_eq_true refusal.le_status

/-- An answer is no rejection if its status means success. -/
theorem isRejection_ofPayload {status : ℕ} (h : status < 400) (payload : Value) :
    (ofPayload status payload).isRejection = false := by
  rw [ofPayload]
  split
  · exact decide_eq_false (Nat.not_le.2 h)
  · rfl

end Answer

/-- A run that goes on or ends rejects nothing. -/
theorem Reply.isRejection_ofProgress (runId : Int) (progress : Progress) :
    (ofProgress runId progress).isRejection = false := by
  cases progress with
  | asleep delay => rfl
  | ended result => exact Answer.isRejection_ofPayload (by decide) _

namespace Playground

variable {p : Playground}

/-! ## Refused actions -/

section

variable {ρ : Type} {answer : Answer → ρ} {run : Option RunSource → Playground × ρ} {a : Action}

/-- A refused action changes nothing, if runs are refused while a run owns the playground. -/
theorem performWith_of_refusal?
    (hrun : ∀ runId, p.active = some runId → ∀ program,
      run program = (p, answer (.ofRefusal (.playground (.busy runId)))))
    {refusal : Refusal} (h : p.refusal? a = some refusal) :
    p.performWith answer run a = (p, answer (.ofRefusal refusal)) := by
  cases a with
  | run program =>
    obtain ⟨runId, hactive, rfl⟩ := Option.map_eq_some_iff.1 h
    exact hrun runId hactive program
  | loadSample title =>
    simp only [refusal?] at h
    simp only [performWith]
    split at h
    · cases h
    · cases h
      rename_i hload
      rw [hload]
  | refuse refusal =>
    cases h
    rfl
  | _ => cases h

/-- What is not refused is not answered by a rejection, if runs of an idle playground are not. -/
theorem isRejection_performWith (isRejection : ρ → Bool)
    (hanswer : ∀ x, isRejection (answer x) = x.isRejection)
    (hrun : p.active = none → ∀ program, isRejection (run program).2 = false)
    (h : p.refusal? a = none) : isRejection (p.performWith answer run a).2 = false := by
  have hserved (payload : Value) : isRejection (answer (.ofPayload 200 payload)) = false := by
    rw [hanswer, Answer.isRejection_ofPayload (by decide)]
  cases a with
  | showState => exact hserved _
  | showSamples => exact hserved _
  | showTools => exact hserved _
  | run program => exact hrun (Option.map_eq_none_iff.1 h) program
  | reset => exact hserved _
  | loadSample title =>
    simp only [refusal?] at h
    simp only [performWith]
    split at h
    · rename_i hload
      rw [hload]
      exact hserved _
    · cases h
  | refuse refusal => cases h
  | fail e =>
    rw [performWith, hanswer]
    rfl

end

theorem startRun_of_active {runId : Int} (hactive : p.active = some runId)
    (program : Option RunSource) :
    p.startRun program = (p, .answer (.ofRefusal (.playground (.busy runId)))) := by
  rw [startRun, start_of_active p hactive]

theorem runThrough_of_active {runId : Int} (hactive : p.active = some runId)
    (program : Option RunSource) :
    p.runThrough program = (p, .ofRefusal (.playground (.busy runId))) := by
  simp [runThrough, runToEnd, requireIdle, hactive, bind, Except.bind]

theorem isRejection_startRun (hidle : p.active = none) (program : Option RunSource) :
    (p.startRun program).2.isRejection = false := by
  rw [startRun, start_of_idle p hidle]
  exact Reply.isRejection_ofProgress _ _

theorem isRejection_runThrough (hidle : p.active = none) (program : Option RunSource) :
    (p.runThrough program).2.isRejection = false := by
  simp only [runThrough, runToEnd, requireIdle, hidle, bind, Except.bind, pure, Except.pure]
  exact Answer.isRejection_ofPayload (by decide) _

/-- A refused action is answered with the refusal and changes nothing. -/
theorem perform_of_refusal? {a : Action} {refusal : Refusal} (h : p.refusal? a = some refusal) :
    p.perform a = (p, .answer (.ofRefusal refusal)) :=
  performWith_of_refusal? (fun _ hactive program => startRun_of_active hactive program) h

/-! ## Rejected requests -/

/-- **A request is rejected** exactly if there is something to refuse what it asks for. -/
theorem rejects_request (p : Playground) (r : Request) :
    p.rejects (.request r) = (p.refusal? r.action).isSome := by
  rw [rejects, reply?, Option.any_some, handle]
  cases h : p.refusal? r.action with
  | none =>
    exact isRejection_performWith Reply.isRejection (fun _ => rfl) isRejection_startRun h
  | some refusal =>
    rw [perform_of_refusal? h]
    exact Answer.isRejection_ofRefusal refusal

/-- Only requests are rejected: a run that is carried on is answered with its result. -/
theorem exists_request_of_rejects {e : Service.Event} (h : p.rejects e = true) :
    ∃ r, e = .request r := by
  cases e with
  | request r => exact ⟨r, rfl⟩
  | wake runId reason =>
    rw [rejects, reply?] at h
    cases hwake : p.wake runId reason with
    | none =>
      rw [hwake] at h
      cases h
    | some woken =>
      rw [hwake, Option.map_some, Option.any_some, Reply.isRejection_ofProgress] at h
      cases h
  | cancel runId => cases h

/-- A rejected event changes nothing. -/
theorem attend_of_rejects {e : Service.Event} (h : p.rejects e = true) : p.attend e = p := by
  obtain ⟨r, rfl⟩ := exists_request_of_rejects h
  rw [rejects_request] at h
  obtain ⟨refusal, hrefusal⟩ := Option.isSome_iff_exists.1 h
  rw [attend, handle, perform_of_refusal? hrefusal]

/-- **A rejected request changes nothing.**  In whatever state a playground is, an answer with a status of
    400 or more is the answer to a request, and after the request the playground is what it was before:
    all that it shows, the run that owns it, the runs that sleep in it, abandoned or not, and the number
    of the next run. -/
theorem rejected_request_changes_nothing {p : Playground} {e : Service.Event} {response : Response}
    (hreply : p.reply? e = some (.answer (.ok response))) (hstatus : 400 ≤ response.status) :
    (∃ r, e = .request r) ∧ p.attend e = p := by
  have hrejected : p.rejects e = true := by
    rw [rejects, hreply]
    exact decide_eq_true hstatus
  exact ⟨exists_request_of_rejects hrejected, attend_of_rejects hrejected⟩

/-- With one run asleep and an abandoned one behind it, a request with a bad length changes nothing. -/
theorem rejected_request_changes_nothing_beside_sleepers :
    let wait : Service.Event := .request
      { method := .post, path := "/run", contentLength := some "48"
        body := Text.encodeUtf8 "\x7b\"instructions\": [\x7b\"op\": \"wait\", \"seconds\": 1\x7d]\x7d" }
    let reset : Service.Event := .request { method := .post, path := "/reset" }
    let bad : Service.Event := .request { method := .post, path := "/reset", contentLength := some "one" }
    let p := ({} : Playground).attendAll [wait, reset, wait]
    p.active = some 2 ∧ p.flights.map (fun f => (f.run.runId, f.run.abandoned)) = [(2, false), (1, true)] ∧
      (∃ response, p.reply? bad = some (.answer (.ok response)) ∧ response.status = 400) ∧
      p.attend bad = p := by
  intro wait reset bad p
  have hsleepers : p.active = some 2 ∧
      p.flights.map (fun f => (f.run.runId, f.run.abandoned)) = [(2, false), (1, true)] := by
    decide +kernel
  have hreply : p.reply? bad = some (.answer (.ofRefusal (.badBody (.length "one")))) := rfl
  exact ⟨hsleepers.1, hsleepers.2, ⟨_, hreply, rfl⟩,
    (rejected_request_changes_nothing hreply (by decide)).2⟩

/-- A service that nobody else uses rejects the same requests, and is not changed by them either. -/
theorem serve_rejects (p : Playground) (r : Request) :
    (p.serve r).2.isRejection = p.rejects (.request r) ∧
      (p.rejects (.request r) = true → (p.serve r).1 = p) := by
  rw [rejects_request, serve]
  cases h : p.refusal? r.action with
  | none =>
    refine ⟨?_, fun hrejected => by cases hrejected⟩
    exact isRejection_performWith Answer.isRejection (fun _ => rfl) isRejection_runThrough h
  | some refusal =>
    rw [performWith_of_refusal? (fun _ hactive program => runThrough_of_active hactive program) h]
    exact ⟨Answer.isRejection_ofRefusal refusal, fun _ => rfl⟩

/-- Leaving out what is rejected makes no difference. -/
theorem attendAll_accepted (p : Playground) (history : List Service.Event) :
    p.attendAll (p.accepted history) = p.attendAll history := by
  induction history generalizing p with
  | nil => rfl
  | cons e rest ih =>
    rw [accepted]
    split
    · rename_i hrejected
      rw [ih, attendAll, attendAll, List.foldl_cons, attend_of_rejects hrejected]
    · exact ih (p.attend e)

end Playground

end SpriteStage
