import SpriteStage.Proofs.Run.FlatTrace
import SpriteStage.Proofs.Stage.Chronicle
import Mathlib.Data.Nat.Notation

/-!
# How much a completed run leaves

A run that completes has carried out every call of its program, as often as the loops around the call go
round.  So the program alone tells how long the trail and the log are and what the sprite says in the end,
whatever the numbers of the stage are and however the sleeps end.

## Main definitions

* `Program.callCount` counts the calls of a program
* `Program.lastSaid?` is the message that a program says last
* `Stage.Holds` relates a stage to the calls that have been carried out on it

## Main results

* `completed_run_has_the_extent_of_its_program`
-/

namespace SpriteStage

/-! ## Calls in the tree of a program -/

/-- How often a loop goes round; without such a number it does not. -/
def Value.roundCount (times : Value) : ℕ :=
  match repeatCount times with
  | .ok n => n
  | .error _ => 0

section

variable (counts : Operation → Bool)

mutual

/-- How many calls of some operations an instruction makes: a loop makes those of its body in each round. -/
def Instruction.callCount : Instruction → ℕ
  | .call op _ => if counts op then 1 else 0
  | .loop times body => times.roundCount * Program.callCount body
  | .group body => Program.callCount body
  | .fail _ | .unsupported _ => 0

/-- How many calls of some operations a program makes. -/
def Program.callCount : List Instruction → ℕ
  | [] => 0
  | i :: rest => i.callCount + Program.callCount rest

end

end

mutual

/-- The message that an instruction says last, if it says any: a loop that does not go round says none. -/
def Instruction.lastSaid? : Instruction → Option Value
  | .call op argument => if op = .say then some argument else none
  | .loop times body => if times.roundCount = 0 then none else Program.lastSaid? body
  | .group body => Program.lastSaid? body
  | .fail _ | .unsupported _ => none

/-- The message that a program says last, if it says any. -/
def Program.lastSaid? : List Instruction → Option Value
  | [] => none
  | i :: rest => (Program.lastSaid? rest).or i.lastSaid?

end

/-! ## Calls among the moments -/

/-- The call of a moment that carries out an operation. -/
def Moment.call? : Moment → Option (Operation × Value)
  | .operation op argument => some (op, argument)
  | .dispatch _ | .failure _ => none

/-- The calls of a program in the order in which they come up. -/
def Program.callsMade (p : List Instruction) : List (Operation × Value) :=
  (Program.moments p).filterMap Moment.call?

/-- The message that was said last in some calls. -/
def lastSaidOf (calls : List (Operation × Value)) : Option Value :=
  (calls.reverse.find? (·.1 = .say)).map (·.2)

theorem lastSaidOf_append (xs ys : List (Operation × Value)) :
    lastSaidOf (xs ++ ys) = (lastSaidOf ys).or (lastSaidOf xs) := by
  rw [lastSaidOf, List.reverse_append, List.find?_append, Option.map_or]
  rfl

/-- Saying the same once more does not change what was said last. -/
theorem lastSaidOf_flatten_replicate (n : ℕ) (xs : List (Operation × Value)) :
    lastSaidOf (List.replicate n xs).flatten = if n = 0 then none else lastSaidOf xs := by
  induction n with
  | zero => rfl
  | succ n ih =>
    rw [List.replicate_succ, List.flatten_cons, lastSaidOf_append, ih, if_neg n.succ_ne_zero]
    split
    · rfl
    · exact Option.or_self

/-- The moments of a loop are those of its body once a round, or a failure. -/
theorem Instruction.filterMap_call?_loop (times : Value) (body : List Instruction) :
    (Instruction.loop times body).moments.filterMap Moment.call? =
      (List.replicate times.roundCount (Program.callsMade body)).flatten := by
  rw [Instruction.moments, List.filterMap_cons_none rfl, Value.roundCount]
  cases repeatCount times with
  | error e => rfl
  | ok n =>
    dsimp only
    rw [List.filterMap_flatten, List.map_replicate]
    rfl

mutual

/-- The calls of an instruction are counted in its tree. -/
theorem Instruction.countP_callsMade (counts : Operation → Bool) : ∀ i : Instruction,
    (i.moments.filterMap Moment.call?).countP (fun call => counts call.1) = i.callCount counts
  | .call op argument => by
    rw [Instruction.callCount]
    exact List.countP_singleton
  | .loop times body => by
    rw [Instruction.filterMap_call?_loop, List.countP_flatten, List.map_replicate, List.sum_replicate,
      Program.countP_callsMade counts body, Instruction.callCount, smul_eq_mul]
  | .group body => by
    rw [Instruction.moments, Instruction.callCount]
    exact Program.countP_callsMade counts body
  | .fail message => by
    rw [Instruction.callCount]
    rfl
  | .unsupported typeName => by
    rw [Instruction.callCount]
    rfl

/-- The calls of a program are counted in its tree. -/
theorem Program.countP_callsMade (counts : Operation → Bool) : ∀ p : List Instruction,
    (Program.callsMade p).countP (fun call => counts call.1) = Program.callCount counts p
  | [] => by
    rw [Program.callCount]
    rfl
  | i :: rest => by
    rw [Program.callsMade, Program.moments, List.filterMap_append, List.countP_append,
      Instruction.countP_callsMade counts i, Program.callCount]
    exact congrArg _ (Program.countP_callsMade counts rest)

end

mutual

/-- What an instruction says last is found in its tree. -/
theorem Instruction.lastSaidOf_callsMade : ∀ i : Instruction,
    lastSaidOf (i.moments.filterMap Moment.call?) = i.lastSaid?
  | .call op argument => by
    have hcall : (Instruction.call op argument).moments.filterMap Moment.call? = [(op, argument)] := rfl
    rw [hcall, Instruction.lastSaid?]
    by_cases h : op = .say <;> simp [lastSaidOf, h]
  | .loop times body => by
    rw [Instruction.filterMap_call?_loop, lastSaidOf_flatten_replicate, Program.lastSaidOf_callsMade body,
      Instruction.lastSaid?]
  | .group body => by
    rw [Instruction.moments, Instruction.lastSaid?]
    exact Program.lastSaidOf_callsMade body
  | .fail message => by
    rw [Instruction.lastSaid?]
    rfl
  | .unsupported typeName => by
    rw [Instruction.lastSaid?]
    rfl

/-- What a program says last is found in its tree. -/
theorem Program.lastSaidOf_callsMade : ∀ p : List Instruction,
    lastSaidOf (Program.callsMade p) = Program.lastSaid? p
  | [] => by
    rw [Program.lastSaid?]
    rfl
  | i :: rest => by
    rw [Program.callsMade, Program.moments, List.filterMap_append, lastSaidOf_append,
      Instruction.lastSaidOf_callsMade i, Program.lastSaid?]
    exact congrArg (Option.or · _) (Program.lastSaidOf_callsMade rest)

end

/-! ## What calls leave on a stage -/

namespace Stage

variable {config : StageConfig} {op : Operation} {argument : Value} {s t : Stage}

/-- The change of an operation leaves the log, which gets its line later. -/
theorem log_change (h : change config op argument s = .ok t) : t.log = s.log := by
  cases op with
  | move | turn | wait =>
    obtain ⟨a, -, rfl⟩ := exists_of_map_eq_ok h
    rfl
  | say =>
    cases h
    rfl

/-- A call that succeeds does what it is meant to do, and it logs its line. -/
theorem follows_of_perform {delay : Option Value} (h : s.perform config op argument = (.ok delay, t)) :
    Follows op argument s t ∧ ∃ text, line op argument = .ok text ∧ t.log = s.log.push text := by
  rw [perform_eq] at h
  rcases hchange : change config op argument s with e | u
  · rw [hchange] at h
    cases h
  rcases htext : line op argument with e | text
  · rw [hchange, htext] at h
    cases h
  rw [hchange, htext] at h
  obtain ⟨-, rfl⟩ := Prod.mk.inj h
  have hlog : u.log = s.log := log_change hchange
  exact ⟨follows_change hchange text, text, rfl, by rw [logging, hlog]⟩

/-- What a stage holds of the calls that have been carried out on it: what it records of them, and the line
    of each of them in its log. -/
structure Holds (done : List (Operation × Value)) (s : Stage) : Prop extends Records done s where
  lines : List.Forall₂ (fun call text => line call.1 call.2 = .ok text) done s.log.toList

theorem Holds.fresh : Holds [] {} := ⟨.fresh, .nil⟩

theorem Holds.step {done : List (Operation × Value)} {delay : Option Value} (hs : Holds done s)
    (h : s.perform config op argument = (.ok delay, t)) : Holds (done ++ [(op, argument)]) t := by
  obtain ⟨hfollows, text, htext, hlog⟩ := follows_of_perform h
  refine ⟨hs.toRecords.step hfollows, ?_⟩
  rw [hlog, Array.toList_push]
  exact List.rel_append hs.lines (.cons htext .nil)

end Stage

/-- **Moments that are played to their end** have all their calls carried out on the stage. -/
theorem Moment.holds_of_play {config : StageConfig} {wakes : ℕ → Wake} {ms : List Moment} {k : ℕ}
    {s t : Scene} {delays : List Value} {done : List (Operation × Value)}
    (h : Moment.play config wakes k ms s = (delays, .ok t)) (hs : s.stage.Holds done) :
    t.stage.Holds (done ++ ms.filterMap Moment.call?) := by
  induction ms generalizing k s delays done with
  | nil =>
    cases h
    simpa using hs
  | cons m ms ih =>
    cases m with
    | dispatch i =>
      rw [play] at h
      split at h
      · cases h
      · exact ih h hs
    | failure cause => cases h
    | operation op argument =>
      rw [play] at h
      rw [List.filterMap_cons_some (rfl : call? _ = some (op, argument)), List.append_cons]
      rcases hperform : s.stage.perform config op argument with ⟨e | _ | delay, u⟩
      · rw [hperform] at h
        cases h
      · rw [hperform] at h
        exact ih h (hs.step hperform)
      · rw [hperform] at h
        dsimp only at h
        rcases hwake : (wakes k).reason with _ | ⟨message, name⟩
        · -- The sleep is over, and the other moments are played on the same stage.
          rw [hwake] at h
          obtain ⟨-, hlater⟩ := Prod.mk.inj h
          exact ih (Prod.ext rfl hlater) (hs.step hperform)
        · rw [hwake] at h
          cases h

/-! ## Runs -/

/-- **A completed run has the extent of its program.**  Whenever a run of a program completes, whatever the
    numbers of its stage are and however its sleeps end, its trail has one point more than the program makes
    moves; its log has the lines of the calls of the program in their order, as many as it makes calls, and
    then the report; and its sprite says what the program says last, or nothing if it says nothing. -/
theorem completed_run_has_the_extent_of_its_program (runId : ℤ) (config : StageConfig) (handle : String)
    (p : Program) :
    let r : Run := { runId := runId, source := .program p, config := config, handle := handle }
    ∃ course, r.start = .ok (r.launch, course) ∧
      ∀ wakes sprite log,
        (course.completeFrom wakes 0).2.result = some ⟨runId, .completed sprite log⟩ →
        sprite.trail.size = 1 + Program.callCount (· = .move) p ∧
        (∃ lines : List String, lines.length = Program.callCount (fun _ => true) p ∧
          List.Forall₂ (fun call text => Stage.line call.1 call.2 = .ok text) (Program.callsMade p) lines ∧
          log = "\n".intercalate (lines ++ [({ sprite := sprite } : Stage).report])) ∧
        sprite.speech = (Program.lastSaid? p).getD .null := by
  intro r
  refine ⟨_, rfl, fun wakes sprite log hresult => ?_⟩
  rw [Resumption.completeFrom_bind_done, Run.completeFrom_course r rfl] at hresult
  have houtcome := congrArg RunResult.outcome (Option.some.inj hresult)
  dsimp only at houtcome
  -- The run plays its moments, and a completed one has played them all.
  rcases hplayed : Moment.play r.config wakes 0 (Program.moments p) ⟨{}, r.abandoned⟩ with ⟨delays, e | t⟩
  · rw [hplayed] at houtcome
    cases houtcome
  rw [hplayed] at houtcome
  cases houtcome
  have hholds : t.stage.Holds (Program.callsMade p) := Moment.holds_of_play hplayed .fresh
  refine ⟨?_, ⟨t.stage.log.toList, ?_, hholds.lines, Stage.history_eq_intercalate t.stage⟩, ?_⟩
  · rw [hholds.size_trail, ← Program.countP_callsMade]
  · rw [Array.length_toList, hholds.size_log, ← Program.countP_callsMade, List.countP_true]
  · rw [hholds.speech, ← Program.lastSaidOf_callsMade]
    rfl

/-- Two rounds around three rounds around a message, and a message that is never said. -/
theorem nested_loops_have_their_extent :
    let p : Program := [
      .loop (.int 2) [.call .move (.int 1), .loop (.float 2.5) [.call .turn (.int 90), .call .say (.text "in")]],
      .loop (.int 0) [.call .say (.text "never")],
      .group [.call .wait (.float 0.5)]]
    let r : Run := { runId := 1, source := .program p }
    ∃ sprite log lines, r.finish = ⟨1, .completed sprite log⟩ ∧ sprite.trail.size = 3 ∧
      lines.length = 15 ∧ log = "\n".intercalate (lines ++ [({ sprite := sprite } : Stage).report]) ∧
      sprite.speech = .text "in" := by
  intro p r
  have hcompleted : r.finish.isCompleted = true := by decide +kernel
  have hid : r.finish.runId = 1 := by decide +kernel
  obtain ⟨sprite, log, hfinish⟩ : ∃ sprite log, r.finish = ⟨1, .completed sprite log⟩ := by
    rcases hresult : r.finish with ⟨runId, ⟨sprite, log⟩ | error⟩
    · rw [hresult] at hid
      exact ⟨sprite, log, congrArg (RunResult.mk · _) hid⟩
    · rw [hresult] at hcompleted
      cases hcompleted
  obtain ⟨course, hstart, hextent⟩ := completed_run_has_the_extent_of_its_program 1 {} "runtime" p
  have hcourse : (course.completeFrom (fun _ => {}) 0).2.result = some r.finish := by
    obtain ⟨-, rfl⟩ := Prod.mk.inj (Except.ok.inj hstart)
    rw [Resumption.completeFrom_bind_done]
    rfl
  rw [hfinish] at hcourse
  obtain ⟨htrail, ⟨lines, hlength, -, hlog⟩, hspeech⟩ := hextent _ sprite log hcourse
  have hcounts : Program.callCount (· = .move) p = 2 ∧ Program.callCount (fun _ => true) p = 15 := by
    decide +kernel
  rw [hcounts.1] at htrail
  rw [hcounts.2] at hlength
  exact ⟨sprite, log, lines, hfinish, htrail, hlength, hlog, hspeech⟩

end SpriteStage
