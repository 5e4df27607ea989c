import SpriteStage.Service.Reply
import SpriteStage.Proofs.Json.Writing
import SpriteStage.Proofs.Playground.Showing
import SpriteStage.Proofs.Program.Compiled
import SpriteStage.Proofs.Run.Invariant
import SpriteStage.Proofs.Run.Speech

/-!
# Playgrounds that can be served

A service answers with what a playground shows and with the results of runs, written as strict JSON.
All of it can be written but for what the sprite says: a double is spelled out where it stands alone,
and not inside a list or an object.  A text says scalars only.  So every playground that is reached can
be served, unless the instructions of a request say such a list or object.

## Main definitions

* `Service.Event` is a request, the end of a sleep, or a run given up
* `Playground.attend` is the playground after such an event, and `Playground.reply?` is the reply
* `Value.isShowable` says that what a sprite says can be written
* `Service.Event.Says` is a property of all that the instructions of a request say
-/

namespace SpriteStage

/-! ## Requests as events -/

/-- What an action does to a playground, if it does anything. -/
def Action.event? : Action → Option Playground.Event
  | .run program => some (.start program)
  | .reset => some .reset
  | .loadSample title => some (.loadSample title)
  | .showState | .showSamples | .showTools | .refuse _ | .fail _ => none

/-- The program that an action runs, if it is given as instructions. -/
def Action.program? : Action → Option Program
  | .run (some (.program p)) => some p
  | _ => none

/-- What happens to a service: a request, the end of a sleep, or a run given up. -/
inductive Service.Event where
  | request (r : Request)
  | wake (runId : Int) (reason : WakeReason)
  | cancel (runId : Int)

/-- What an event does to the playground of a service, if it does anything. -/
def Service.Event.effect? : Service.Event → Option Playground.Event
  | .request r => r.action.event?
  | .wake runId reason => some (.wake runId reason)
  | .cancel runId => some (.cancel runId)

/-- A run that has ended is answered with its result. -/
theorem Reply.ofProgress_of_result? {progress : Progress} {result : RunResult}
    (h : progress.result? = some result) (runId : Int) :
    Reply.ofProgress runId progress = .answer (.ofResult result) := by
  cases progress with
  | asleep delay => cases h
  | ended r =>
    cases h
    rfl

namespace Playground

/-- The playground of a service after an event. -/
def attend (p : Playground) : Service.Event → Playground
  | .request r => (p.handle r).1
  | .wake runId reason => ((p.wake runId reason).map (·.1)).getD p
  | .cancel runId => (p.cancel runId).getD p

/-- The playground of a service after some events. -/
def attendAll (p : Playground) (history : List Service.Event) : Playground :=
  history.foldl attend p

/-- An action does to a playground what its event does. -/
theorem perform_fst (p : Playground) (a : Action) :
    (p.perform a).1 = p.replay a.event?.toList := by
  cases a with
  | run program =>
    simp only [perform, performWith, startRun, Action.event?, Option.toList_some, replay_cons,
      replay_nil, step]
    cases p.start program <;> rfl
  | loadSample title =>
    simp only [perform, performWith, Action.event?, Option.toList_some, replay_cons, replay_nil, step]
    cases p.loadSample title <;> rfl
  | _ => rfl

/-- A service does to its playground what its events do. -/
theorem attend_eq_replay (p : Playground) (e : Service.Event) :
    p.attend e = p.replay e.effect?.toList := by
  cases e with
  | request r => exact p.perform_fst r.action
  | wake runId reason => rfl
  | cancel runId => rfl

/-- What a request or the end of a sleep is answered with, or that its run sleeps. -/
def reply? (p : Playground) : Service.Event → Option Reply
  | .request r => some (p.handle r).2
  | .wake runId reason => (p.wake runId reason).map fun x => .ofProgress runId x.2
  | .cancel _ => none

/-- The result of the run that ends in an event. -/
def ended? (p : Playground) (e : Service.Event) : Option RunResult :=
  (e.effect?.bind p.outcome?).bind fun x => x.2.result?

/-- A run that ends is answered with its result. -/
theorem reply?_of_ended? {p : Playground} {e : Service.Event} {result : RunResult}
    (h : p.ended? e = some result) : p.reply? e = some (.answer (.ofResult result)) := by
  cases e with
  | request r =>
    cases haction : r.action with
    | run program =>
      cases hstart : p.start program with
      | error e => simp [ended?, Service.Event.effect?, haction, Action.event?, outcome?, hstart] at h
      | ok started =>
        obtain ⟨q, runId, progress⟩ := started
        simp only [ended?, Service.Event.effect?, haction, Action.event?, outcome?, hstart,
          Option.bind_some] at h
        rw [reply?, handle, haction, perform, performWith, startRun, hstart]
        exact congrArg some (Reply.ofProgress_of_result? h runId)
    | _ => simp [ended?, Service.Event.effect?, haction, Action.event?, outcome?] at h
  | wake runId reason =>
    cases hwake : p.wake runId reason with
    | none => simp [ended?, Service.Event.effect?, outcome?, hwake] at h
    | some woken =>
      simp only [ended?, Service.Event.effect?, outcome?, hwake, Option.map_some, Option.bind_some] at h
      rw [reply?, hwake]
      exact congrArg some (Reply.ofProgress_of_result? h runId)
  | cancel runId => cases h

end Playground

/-! ## Answers that are sent -/

/-- Whether a request is answered, and not refused. -/
def Answer.isServed : Answer → Bool
  | .ok response => response.status == 200
  | .error _ => false

/-- Whether what a sprite says can be written: its doubles are finite, but for one that stands alone. -/
def Value.isShowable (v : Value) : Bool := (Payload.ofValue v).isStrict

/-- A scalar can be written. -/
theorem Value.isShowable_of_isScalar {v : Value} (h : v.isScalar = true) : v.isShowable = true := by
  cases v with
  | float x =>
    rw [isShowable, Payload.ofValue]
    split
    · rename_i hfinite
      exact hfinite
    · rfl
  | null | bool b | int n | text s => rfl
  | list items => cases h
  | object fields => cases h

namespace Answer

/-- A payload that can be written is sent. -/
theorem isServed_of_writes {payload : Value} (h : Json.Writes {} payload) :
    (ofPayload 200 payload).isServed = true := by
  obtain ⟨body, hbody⟩ := h 0
  rw [ofPayload, Json.print, hbody]
  rfl

/-- A payload that is sent has been written. -/
theorem exists_write_of_isServed {payload : Value} (h : (ofPayload 200 payload).isServed = true) :
    ∃ body, Json.write {} 0 payload = .ok body := by
  rw [ofPayload, Json.print] at h
  cases hbody : Json.write {} 0 payload with
  | ok body => exact ⟨body, rfl⟩
  | error e =>
    rw [hbody] at h
    cases h

end Answer

/-! ## What programs say -/

/-- What a program says has a property. -/
def Program.Says (P : Value → Prop) (p : Program) : Prop :=
  ∀ message, (Operation.say, message) ∈ Program.calls p → P message

/-- What the instructions of a request say has a property; nothing is asked of a text. -/
def Service.Event.Says (P : Value → Prop) : Service.Event → Prop
  | .request r => ∀ p ∈ r.action.program?, Program.Says P p
  | .wake .. | .cancel _ => True

theorem Service.Event.says_true (e : Service.Event) : e.Says fun _ => True := by
  cases e <;> simp [Says, Program.Says]

/-- A sprite says something with a property that has been logged. -/
def Sprite.Speaks (P : Value → Prop) (s : Sprite) : Prop :=
  P s.speech ∧ ∃ line, s.speech.logged = .ok line

/-- The payload of a sprite with strict doubles shows what the sprite says. -/
theorem Sprite.isShowable_of_isStrict {s : Sprite} (h : (Payload.ofSprite s).isStrict = true) :
    s.speech.isShowable = true := by
  simp only [Payload.ofSprite, Value.isStrict, Value.areStrictFields, Bool.and_eq_true] at h
  exact h.2.2.2.1

/-- What a playground shows is sent exactly if it can write what its sprite says. -/
theorem Playground.isServed_stateResponse {p : Playground} {line : String}
    (hlogged : p.sprite.speech.logged = .ok line) :
    p.stateResponse.isServed = true ↔ p.sprite.speech.isShowable = true := by
  constructor
  · intro h
    obtain ⟨body, hbody⟩ := Answer.exists_write_of_isServed h
    have hstrict := Value.isStrict_of_write rfl _ hbody
    simp only [Payload.ofPlayground, Value.isStrict, Value.areStrictFields, Bool.and_eq_true] at hstrict
    exact Sprite.isShowable_of_isStrict hstrict.1
  · intro h
    have hsprite : Json.Writes {} (Payload.ofSprite p.sprite) :=
      Payload.writes_ofSprite (Payload.writes_ofValue h hlogged)
    apply Answer.isServed_of_writes
    apply Json.Writes.object
    simp [hsprite, Json.Writes.text, Json.Writes.bool]

/-- The sprite of a result says something with a property that has been logged. -/
def RunResult.Speaks (P : Value → Prop) (r : RunResult) : Prop :=
  ∀ s ∈ r.outcome.sprite?, s.Speaks P

/-- A result is sent exactly if its number has a text and what its sprite says can be written. -/
theorem RunResult.Speaks.isServed {P : Value → Prop} {r : RunResult} (h : r.Speaks P) :
    (Answer.ofResult r).isServed = true ↔
      (Decimal.digitsOf r.runId.natAbs).length ≤ digitLimit ∧
        ∀ s ∈ r.outcome.sprite?, s.speech.isShowable = true := by
  constructor
  · intro hserved
    obtain ⟨body, hbody⟩ := Answer.exists_write_of_isServed hserved
    refine ⟨Payload.length_digitsOf_le_of_write hbody, fun s hs => ?_⟩
    have hstrict := Value.isStrict_of_write rfl _ hbody
    -- A failed run shows no sprite.
    obtain ⟨runId, sprite | error⟩ := r
    · cases hs
      simp only [Payload.ofResult, Value.isStrict, Value.areStrictFields, Bool.and_eq_true] at hstrict
      exact Sprite.isShowable_of_isStrict hstrict.2.2.2.2.1
    · cases hs
  · rintro ⟨hid, hshowable⟩
    apply Answer.isServed_of_writes
    apply Payload.writes_ofResult hid
    intro sprite log hcompleted
    have hsprite : sprite ∈ r.outcome.sprite? := by
      rw [hcompleted]
      rfl
    obtain ⟨-, line, hlogged⟩ := h sprite hsprite
    exact Payload.writes_ofValue (hshowable sprite hsprite) hlogged

mutual

theorem Instruction.isScalar_of_mem_calls :
    ∀ i : Instruction, i.isCompiled = true → ∀ call ∈ i.calls, call.2.isScalar = true
  | .call op argument, h => by simpa [Instruction.calls, Instruction.isCompiled] using h
  | .loop (.int n) body, h => by
    rw [Instruction.isCompiled, Bool.and_eq_true] at h
    exact Program.isScalar_of_mem_calls body h.2
  | .fail message, _ => by simp [Instruction.calls]

/-- The arguments of a compiled program are scalars. -/
theorem Program.isScalar_of_mem_calls :
    ∀ p : List Instruction, Program.isCompiled p = true → ∀ call ∈ Program.calls p,
      call.2.isScalar = true
  | [], _ => by simp [Program.calls]
  | i :: rest, h => by
    rw [Program.isCompiled, Bool.and_eq_true] at h
    intro call hcall
    rcases List.mem_append.1 hcall with hcall | hcall
    · exact Instruction.isScalar_of_mem_calls i h.1 call hcall
    · exact Program.isScalar_of_mem_calls rest h.2 call hcall

end

section

variable {P : Value → Prop}

/-- A sprite says what its program says, and has logged it. -/
theorem Run.answers_speaks_of_program (hnull : P .null) {r : Run} {p : Program}
    (hp : r.program.1 = .ok p) (hsaid : Program.Says P p) :
    r.course.Answers (RunResult.Speaks P) := by
  have hkept : Stage.KeptBy r.config (·.sprite.Speaks P) (Program.calls p) := by
    intro op argument hmem s delay t hs hperform
    by_cases hop : op.isNumeric = true
    · have hspeech := Stage.speech_perform r.config hop argument s
      rw [hperform] at hspeech
      rw [Sprite.Speaks, hspeech]
      exact hs
    · obtain rfl : op = .say := by cases op <;> simp_all [Operation.isNumeric]
      obtain ⟨rfl, hlogged⟩ := Stage.perform_say r.config hperform
      exact ⟨hsaid _ hmem, hlogged⟩
  refine (Run.answers_of_keptBy hp ⟨hnull, _, rfl⟩ hkept).imp ?_
  rintro ⟨runId, sprite | error⟩ hcompleted s hs
  · obtain ⟨stage, hstage, rfl, -⟩ := hcompleted _ _ rfl
    cases hs
    exact hstage
  · cases hs

/-- A run ends with a result that says what its program says. -/
theorem Run.answers_speaks (hnull : P .null) {r : Run}
    (hsaid : ∀ p, r.program.1 = .ok p → Program.Says P p) :
    r.course.Answers (RunResult.Speaks P) := by
  cases hp : r.program.1 with
  | error e =>
    -- A text that does not compile has no sprite.
    rw [course, hp]
    rintro s ⟨⟩
  | ok p => exact r.answers_speaks_of_program hnull hp (hsaid p hp)

/-- What a text says are scalars. -/
theorem Run.says_of_text (hscalar : ∀ v : Value, v.isScalar = true → P v) {r : Run} {text : String}
    (hsource : r.source = .text text) {p : Program} (hp : r.program.1 = .ok p) :
    Program.Says P p := by
  rw [program, hsource] at hp
  have hcompiled := isCompiled_of_compile (eq_ok_of_mapError hp)
  intro message hmem
  exact hscalar message (Program.isScalar_of_mem_calls p hcompiled _ hmem)

/-- A run that is started says what its instructions say, or scalars. -/
theorem Playground.says_engage (hscalar : ∀ v : Value, v.isScalar = true → P v) (p : Playground)
    {program : Option RunSource} (hsaid : ∀ q, program = some (.program q) → Program.Says P q)
    {q : Program} (hq : (p.engage program).2.program.1 = .ok q) : Program.Says P q := by
  cases program with
  | none => exact Run.says_of_text hscalar rfl hq
  | some source =>
    cases source with
    | text text => exact Run.says_of_text hscalar rfl hq
    | program body =>
      obtain rfl : body = q := Except.ok.inj hq
      exact hsaid body rfl

/-- The instructions that an event starts say what those of the event say. -/
theorem Service.Event.Says.of_start {e : Service.Event} (he : e.Says P) {q : Program}
    (hstart : e.effect? = some (.start (some (.program q)))) : Program.Says P q := by
  -- Of all events, only a request starts a run.
  cases e with
  | request r =>
    apply he q
    cases haction : r.action <;>
      simp_all [Service.Event.effect?, Action.event?, Action.program?]
  | wake runId reason => cases hstart
  | cancel runId => cases hstart

end

/-! ## Playgrounds that are reached -/

namespace Playground

section

variable {P : Value → Prop} {p : Playground}

/-- A fresh sprite says nothing. -/
theorem shows_fresh (P : Value → Prop) (hnull : P .null) (config : StageConfig) (first : Int) :
    Shows (Sprite.Speaks P) (RunResult.Speaks P) { config := config, nextId := first } where
  sprite := ⟨hnull, _, rfl⟩
  flights f hf := by cases hf

/-- An event keeps what is said, and a run that ends in it says what it may. -/
theorem Shows.attend (h : Shows (Sprite.Speaks P) (RunResult.Speaks P) p) (hnull : P .null)
    (hscalar : ∀ v : Value, v.isScalar = true → P v) {e : Service.Event} (he : e.Says P) :
    Shows (Sprite.Speaks P) (RunResult.Speaks P) (p.attend e) ∧
      ∀ result, p.ended? e = some result → result.Speaks P := by
  rw [attend_eq_replay, ended?]
  cases heffect : e.effect? with
  | none => exact ⟨h, by simp⟩
  | some effect =>
    have hstart : ∀ program, effect = .start program →
        (p.engage program).2.course.Answers (RunResult.Speaks P) := by
      rintro program rfl
      refine Run.answers_speaks hnull fun q hq => p.says_engage hscalar ?_ hq
      rintro body rfl
      exact he.of_start heffect
    obtain ⟨hshows, hresult⟩ := h.step (fun r hr => hr) ⟨hnull, _, rfl⟩ hstart
    refine ⟨hshows, fun result hended => ?_⟩
    obtain ⟨⟨runId, progress⟩, houtcome, hprogress⟩ := Option.bind_eq_some_iff.1 hended
    exact hresult runId progress houtcome result hprogress

/-- A history keeps what is said. -/
theorem Shows.attendAll (h : Shows (Sprite.Speaks P) (RunResult.Speaks P) p) (hnull : P .null)
    (hscalar : ∀ v : Value, v.isScalar = true → P v) {history : List Service.Event}
    (hsaid : ∀ e ∈ history, e.Says P) :
    Shows (Sprite.Speaks P) (RunResult.Speaks P) (p.attendAll history) := by
  induction history generalizing p with
  | nil => exact h
  | cons e rest ih =>
    have hnext := (h.attend hnull hscalar (hsaid e List.mem_cons_self)).1
    exact ih hnext fun f hf => hsaid f (List.mem_cons_of_mem e hf)

end

/-- **A playground that is reached can be served as far as JSON can write what its sprite says.**  A
    request to look at it is answered with what it shows, and a run that ends is answered with its
    result.  Either answer is sent exactly if what the sprite says has only finite doubles, but for one
    that stands alone; the number of the run must have a text, too.  So everything is sent as long as
    the instructions of all requests say nothing else.  What program texts say can always be written. -/
theorem reached_playground_is_served (config : StageConfig) (first : Int)
    (history : List Service.Event) :
    let p := ({ config := config, nextId := first } : Playground).attendAll history
    (p.reply? (.request { method := .get, path := "/state" }) = some (.answer p.stateResponse) ∧
      (p.stateResponse.isServed = true ↔ p.sprite.speech.isShowable = true)) ∧
    (∀ e result, p.ended? e = some result →
      p.reply? e = some (.answer (.ofResult result)) ∧
      ((Answer.ofResult result).isServed = true ↔
        (Decimal.digitsOf result.runId.natAbs).length ≤ digitLimit ∧
          ∀ s ∈ result.outcome.sprite?, s.speech.isShowable = true)) ∧
    ((∀ e ∈ history, e.Says (·.isShowable = true)) →
      p.stateResponse.isServed = true ∧
      ∀ e result, e.Says (·.isShowable = true) → p.ended? e = some result →
        ((Answer.ofResult result).isServed = true ↔
          (Decimal.digitsOf result.runId.natAbs).length ≤ digitLimit)) := by
  intro p
  -- Whatever is said has been logged, also if it cannot be written.
  have hany : Shows (Sprite.Speaks fun _ => True) (RunResult.Speaks fun _ => True) p :=
    (shows_fresh _ trivial config first).attendAll trivial (fun _ _ => trivial) fun e _ => e.says_true
  have hstate : p.stateResponse.isServed = true ↔ p.sprite.speech.isShowable = true := by
    obtain ⟨-, line, hlogged⟩ := hany.sprite
    exact isServed_stateResponse hlogged
  have hresult : ∀ e result, p.ended? e = some result → result.Speaks fun _ => True :=
    fun e => (hany.attend trivial (fun _ _ => trivial) e.says_true).2
  refine ⟨⟨rfl, hstate⟩, fun e result hended => ?_, fun hsaid => ?_⟩
  · exact ⟨reply?_of_ended? hended, (hresult e result hended).isServed⟩
  · have hscalar : ∀ v : Value, v.isScalar = true → v.isShowable = true :=
      fun _ => Value.isShowable_of_isScalar
    have hfresh := shows_fresh (·.isShowable = true) rfl config first
    have hshows := hfresh.attendAll rfl hscalar hsaid
    refine ⟨hstate.2 hshows.sprite.1, fun e result he hended => ?_⟩
    have hspeaks := (hshows.attend rfl hscalar he).2 result hended
    rw [(hresult e result hended).isServed]
    exact and_iff_left fun s hs => (hspeaks s hs).1

/-- A sprite that says not-a-number is shown, and the request that lets it say so is answered. -/
theorem reached_playground_is_served_of_said_nan :
    let r : Request :=
      { method := .post, path := "/run", contentLength := some "49"
        body := Text.encodeUtf8 "\x7b\"instructions\": [\x7b\"op\": \"say\", \"message\": NaN\x7d]\x7d" }
    let e : Service.Event := .request r
    let p : Playground := {}
    (p.attend e).stateResponse.isServed = true ∧
      (p.ended? e).map (fun result => (Answer.ofResult result).isServed) = some true := by
  intro r e p
  have hsaid : e.Says (·.isShowable = true) := by
    intro q hq
    have h : r.action.program?.all (fun q => (Program.calls q).all (·.2.isShowable)) = true := by
      decide +kernel
    rw [hq, Option.all_some, List.all_eq_true] at h
    exact fun message hmem => h _ hmem
  have hid : (p.ended? e).map (·.runId) = some 1 := by decide +kernel
  obtain ⟨result, hended, hrun⟩ := Option.map_eq_some_iff.1 hid
  have hbefore := (reached_playground_is_served {} 1 []).2.2 (by simp)
  have hafter := (reached_playground_is_served {} 1 [e]).2.2 (by simpa using hsaid)
  have hlimit : (Decimal.digitsOf result.runId.natAbs).length ≤ digitLimit := by
    rw [hrun]
    decide
  rw [hended, Option.map_some]
  exact ⟨hafter.1, congrArg some ((hbefore.2 e result hsaid hended).2 hlimit)⟩

/-- A list that holds not-a-number is said, but never shown: the run completes, and neither its request
    nor any later look at the playground is answered. -/
theorem said_list_is_not_served :
    let r : Request :=
      { method := .post, path := "/run", contentLength := some "51"
        body := Text.encodeUtf8 "\x7b\"instructions\": [\x7b\"op\": \"say\", \"message\": [NaN]\x7d]\x7d" }
    let e : Service.Event := .request r
    let p : Playground := {}
    (p.ended? e).map (fun result => (result.isCompleted, (Answer.ofResult result).isServed)) =
        some (true, false) ∧
      (p.attend e).stateResponse.isServed = false := by
  decide +kernel

end Playground

end SpriteStage
