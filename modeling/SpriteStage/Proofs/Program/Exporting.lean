import SpriteStage.Export
import SpriteStage.Proofs.Json.Payload
import SpriteStage.Proofs.Service.Serving

/-!
# Exports are whole

A text that does not compile is not exported.  For any other text all three files are written, whether its
run completes or fails: what the program says are scalars, and these can be put into every file.  The files
agree with each other: the payload is read back, the listing compiles to the program, and the result is
read back, with its fields sorted.

## Main results

* `export_is_whole`
-/

namespace SpriteStage

/-! ## Answers of runs that are not disturbed -/

/-- What all answers have the answer has that comes when every sleep ends in some way. -/
theorem Resumption.Answers.completeFrom {α : Type} {P : α → Prop} {x : Resumption α}
    (h : x.Answers P) (wakes : Nat → Wake) (k : Nat) : P (x.completeFrom wakes k).2 := by
  induction x generalizing k with
  | done a => exact h
  | sleeping delay resume ih => exact ih (wakes k) (h (wakes k)) (k + 1)

theorem Run.finish_of_answers {P : RunResult → Prop} {r : Run} (h : r.course.Answers P) : P r.finish :=
  h.completeFrom _ 0

/-- The result of a compiled program is exchanged, if its number has a text. -/
theorem Payload.exchanges_finish {handle text : String} {p : Program}
    (hcompiled : (compile handle text).1 = .ok p) (config : StageConfig) {runId : Int}
    (hid : (Decimal.digitsOf runId.natAbs).length ≤ digitLimit) :
    Json.Exchanges (ofResult (Run.finish { runId := runId, source := .program p, config := config })) := by
  have hscalar := Program.isScalar_of_mem_calls p (isCompiled_of_compile hcompiled)
  have hspeaks : RunResult.Speaks (fun v => v.isShowable = true ∧ v.isKeyed = true)
      (Run.finish { runId := runId, source := .program p, config := config }) := by
    refine Run.finish_of_answers (Run.answers_speaks_of_program ⟨rfl, rfl⟩ (p := p) rfl ?_)
    intro message hmem
    have hmessage := hscalar _ hmem
    exact ⟨Value.isShowable_of_isScalar hmessage, Value.isKeyed_of_isScalar hmessage⟩
  have hnumber := Run.finish_of_answers
    (Run.answers_course { runId := runId, source := .program p, config := config })
  constructor
  · intro style
    refine writes_ofResult (by rwa [hnumber]) fun sprite log hcompleted => ?_
    obtain ⟨⟨hshowable, -⟩, line, hlogged⟩ := hspeaks sprite (by rw [hcompleted]; rfl)
    exact writes_ofValue hshowable hlogged
  · exact isKeyed_ofResult fun s hs => (hspeaks s hs).1.2

/-! ## Exports -/

namespace Export

/-- If all parts have texts, all of them are files. -/
theorem collect_of_ok {a b c : String} {r s t : String} :
    collect [(a, .ok r), (b, .ok s), (c, .ok t)] = ([⟨a, r⟩, ⟨b, s⟩, ⟨c, t⟩], none) := rfl

theorem ofSource_of_error {config : StageConfig} {runId : Int} {source : String} {e : CompileError}
    (h : (compile "runtime" source).1 = .error e) : (ofSource config runId source).1 = .error e := by
  show (compile "runtime" source).1.map _ = _
  rw [h]
  rfl

theorem ofSource_of_ok {config : StageConfig} {runId : Int} {source : String} {p : Program}
    (h : (compile "runtime" source).1 = .ok p) :
    (ofSource config runId source).1 =
      .ok (ofResult p (Run.finish { runId := runId, source := .program p, config := config })) := by
  show (compile "runtime" source).1.map _ = _
  rw [h]
  rfl

end Export

/-- **An export is all or nothing, and its files agree.**  For a text that does not compile there is no
    export, but the error.  For any other text whose integers have texts there are three files, and nothing
    goes wrong: the first is read as the payload of the program, the second compiles to the program if its
    loops are not nested too deep, and the third is read as the payload of what the run of the program ends
    with, completed or failed, with the fields in the order of their keys. -/
theorem export_is_whole (config : StageConfig) (source : String) {runId : Int}
    (hid : (Decimal.digitsOf runId.natAbs).length ≤ digitLimit) :
    (∀ e, (compile "runtime" source).1 = .error e →
      (Export.ofSource config runId source).1 = .error e) ∧
    ∀ p, (compile "runtime" source).1 = .ok p → Program.IntegersFit p →
      let result := Run.finish { runId := runId, source := .program p, config := config }
      ∃ payloadText listing resultText,
        (Export.ofSource config runId source).1 = .ok
          { result := result
            files := [⟨"program_ir.json", payloadText⟩, ⟨"program.py", listing⟩,
              ⟨"run_result.json", resultText⟩]
            error := none } ∧
        (∃ payload, Payload.ofProgram p = .ok payload ∧ Json.read payloadText = .ok payload) ∧
        (Program.loopDepth p < 99 → (compile "runtime" listing).1 = .ok p) ∧
        Json.read resultText = .ok ((Payload.ofResult result).arranged true) := by
  refine ⟨fun e he => Export.ofSource_of_error he, fun p hp hfit => ?_⟩
  intro result
  -- Each of the three files has its text, which is read back.
  obtain ⟨payload, hpayload, hexchanges⟩ := Payload.exists_exchanges_ofProgram hp hfit
  obtain ⟨payloadText, hprinted, hread⟩ := hexchanges.exists_read Export.programStyle
  obtain ⟨listing, hlisting, hback⟩ := exists_relisting (by decide) (by decide) (by decide) hp hfit
  obtain ⟨resultText, hresult, hresultRead⟩ :=
    (Payload.exchanges_finish hp config hid).exists_read Export.resultStyle
  refine ⟨payloadText, listing, resultText, ?_, ⟨payload, hpayload, ?_⟩, hback, hresultRead⟩
  · have hparts : Export.parts p result = [("program_ir.json", .ok payloadText),
        ("program.py", .ok listing), ("run_result.json", .ok resultText)] := by
      have hprogram : Export.programText p = .ok payloadText := by
        rw [Export.programText, hpayload]
        show (Json.print Export.programStyle payload).mapError _ = _
        rw [hprinted]
        rfl
      rw [Export.parts, hprogram, hlisting, Export.print, hresult]
      rfl
    rw [Export.ofSource_of_ok hp, Export.ofResult, hparts, Export.collect_of_ok]
  · exact hread.trans (congrArg Except.ok (Value.arranged_false payload))

/-- A text whose run says not-a-number in a loop and then fails is exported with all three files. -/
theorem export_is_whole_of_said_nan :
    let source := "for i in range(2):\n    runtime.say(float('nan'))\nraise RuntimeError('stop')\n"
    ∃ p payload payloadText listing resultText,
      let result := Run.finish { runId := 1, source := .program p }
      (compile "runtime" source).1 = .ok p ∧ Program.calls p ≠ [] ∧ result.status = .failed ∧
        (Export.ofSource {} 1 source).1 = .ok
          { result := result
            files := [⟨"program_ir.json", payloadText⟩, ⟨"program.py", listing⟩,
              ⟨"run_result.json", resultText⟩]
            error := none } ∧
        Payload.ofProgram p = .ok payload ∧ Json.read payloadText = .ok payload ∧
        (compile "runtime" listing).1 = .ok p ∧
        Json.read resultText = .ok ((Payload.ofResult result).arranged true) := by
  intro source
  have hsource : (compile "runtime" source).1.toOption.any (fun p =>
      Program.loopDepth p < 99 && !(Program.calls p).isEmpty &&
        (Program.calls p).all (fun call => call.2.kind ≠ .int) &&
        (Run.finish { runId := 1, source := .program p }).status = .failed) = true := by
    decide +kernel
  obtain ⟨p, hcompiled, hp⟩ := exists_of_any_toOption hsource
  simp only [Bool.and_eq_true, decide_eq_true_eq, Bool.not_eq_true', List.isEmpty_eq_false_iff,
    List.all_eq_true] at hp
  obtain ⟨⟨⟨hdepth, hcalls⟩, hkinds⟩, hfailed⟩ := hp
  have hfit : Program.IntegersFit p := fun op n hmem => absurd rfl (hkinds _ hmem)
  have hid : (Decimal.digitsOf (1 : Int).natAbs).length ≤ digitLimit := by decide
  obtain ⟨payloadText, listing, resultText, hexport, ⟨payload, hpayload, hread⟩, hback, hresult⟩ :=
    (export_is_whole {} source hid).2 p hcompiled hfit
  exact ⟨p, payload, payloadText, listing, resultText, hcompiled, hcalls, hfailed, hexport, hpayload,
    hread, hback hdepth, hresult⟩

end SpriteStage
