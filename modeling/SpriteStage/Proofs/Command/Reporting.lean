import SpriteStage.Command.Basic
import SpriteStage.Proofs.Client.Delivery
import SpriteStage.Proofs.Json.Short
import SpriteStage.Proofs.Program.Escape
import SpriteStage.Proofs.Program.Exporting

/-!
# Exported runs report what runs report

A program file that is run is compiled as a part of the run, and one whose run is exported before it.  The
reports agree if the text compiles, the integers in the program have texts, and the output has bytes for the
line about the export.  If it does not compile they agree only for a refusal, and only if the result is not
asked for as JSON: another error ends the export, and a refusal is never written as JSON there.  Where the
output has no bytes for a report, a run and its export both end without a code.

## Main results

* `Command.export_reports_run_iff`
-/

namespace SpriteStage

/-! ## Programs whose payloads are written -/

namespace Payload

mutual

/-- The arguments in a payload are those of the instruction. -/
theorem isShort_of_mem_ofInstruction : ∀ (i : Instruction) {payload : Value},
    ofInstruction i = .ok payload → payload.isShort = true → ∀ call ∈ i.calls,
      (ofValue call.2).isShort = true
  | .call op v, _, h, hshort => by
    cases h
    simpa [Instruction.calls, Value.isShort, Value.areShortFields] using hshort
  | .loop times body, _, h, hshort => by
    obtain ⟨items, hitems, h⟩ := exists_of_bind_eq_ok h
    cases h
    simp only [Value.isShort, Value.areShortFields, Bool.and_eq_true] at hshort
    exact isShort_of_mem_ofInstructions body hitems hshort.2.2.1
  | .group body, _, h, hshort => by
    obtain ⟨items, hitems, h⟩ := exists_of_bind_eq_ok h
    cases h
    simp only [Value.isShort, Value.areShortFields, Bool.and_eq_true] at hshort
    exact isShort_of_mem_ofInstructions body hitems hshort.2.1
  | .fail message, _, _, _ => by simp [Instruction.calls]
  | .unsupported typeName, _, h, _ => by cases h

theorem isShort_of_mem_ofInstructions : ∀ (p : List Instruction) {items : List Value},
    ofInstructions p = .ok items → Value.areShort items = true → ∀ call ∈ Program.calls p,
      (ofValue call.2).isShort = true
  | [], _, _, _ => by simp [Program.calls]
  | i :: rest, _, h, hshort => by
    obtain ⟨head, hhead, h⟩ := exists_of_bind_eq_ok h
    obtain ⟨tail, htail, h⟩ := exists_of_bind_eq_ok h
    cases h
    rw [Value.areShort, Bool.and_eq_true] at hshort
    intro call hcall
    rcases List.mem_append.1 hcall with hcall | hcall
    · exact isShort_of_mem_ofInstruction i hhead hshort.1 call hcall
    · exact isShort_of_mem_ofInstructions rest htail hshort.2 call hcall

end

/-- The integers of a program have texts if its payload is written. -/
theorem integersFit_of_print {style : Json.Style} {p : Program} {payload : Value} {text : String}
    (hpayload : ofProgram p = .ok payload) (htext : Json.print style payload = .ok text) :
    Program.IntegersFit p := by
  obtain ⟨items, hitems, rfl⟩ := exists_of_map_eq_ok hpayload
  intro op n hmem
  have hn := isShort_of_mem_ofInstructions p hitems (Json.isShort_of_write _ htext) _ hmem
  exact of_decide_eq_true hn

end Payload

/-! ## Exports with all their files -/

namespace Export

/-- There is no error exactly if every part has a text. -/
theorem error_collect_eq_none_iff (parts : List (String × Except FileError String)) :
    (collect parts).2 = none ↔ ∀ part ∈ parts, ∃ text, part.2 = .ok text := by
  induction parts with
  | nil => simp [collect]
  | cons part rest ih =>
    obtain ⟨name, _ | text⟩ := part
    · simp [collect]
    · simpa [collect] using ih

/-- **All files of a compiled program have texts** exactly if its integers do. -/
theorem error_ofResult_eq_none_iff {source : String} {p : Program}
    (hcompiled : (compile "runtime" source).1 = .ok p) (config : StageConfig) {runId : Int}
    (hid : (Decimal.digitsOf runId.natAbs).length ≤ digitLimit) :
    (ofResult p (Run.finish { runId := runId, source := .program p, config := config })).error =
      none ↔ Program.IntegersFit p := by
  rw [ofResult, error_collect_eq_none_iff, parts, List.forall_mem_cons]
  -- The payload alone tells whether the integers fit; the other two files follow.
  constructor
  · rintro ⟨⟨text, htext⟩, -⟩
    obtain ⟨payload, hpayload, hprinted⟩ := exists_of_bind_eq_ok htext
    exact Payload.integersFit_of_print (eq_ok_of_mapError hpayload) (eq_ok_of_mapError hprinted)
  · intro hfit
    obtain ⟨payload, hpayload, hexchanges⟩ := Payload.exists_exchanges_ofProgram hcompiled hfit
    obtain ⟨payloadText, hprinted, -⟩ := hexchanges.exists_read programStyle
    obtain ⟨listing, hlisting, -⟩ := exists_relisting (by decide) (by decide) (by decide) hcompiled hfit
    obtain ⟨resultText, hresult, -⟩ :=
      (Payload.exchanges_finish hcompiled config hid).exists_read resultStyle
    have hprogram : programText p = .ok payloadText := by
      rw [programText, hpayload]
      show (Json.print programStyle payload).mapError _ = _
      rw [hprinted]
      rfl
    exact ⟨⟨_, hprogram⟩, by simp [hlisting, print, hresult, Except.mapError]⟩

end Export

/-! ## Runs of texts -/

namespace Run

variable {text : String}

/-- The run of a text that compiles is the run of its program. -/
theorem finish_text_of_ok {p : Program} (config : StageConfig) (runId : Int)
    (h : (compile "runtime" text).1 = .ok p) :
    finish { runId := runId, source := .text text, config := config } =
      finish { runId := runId, source := .program p, config := config } := by
  have hprogram : program { runId := runId, source := .text text, config := config } =
      (.ok p, (compile "runtime" text).2) := by
    rw [program]
    simp [h, Except.mapError]
  rw [finish, course, hprogram]
  rfl

/-- The run of another text fails with the error of compiling it. -/
theorem finish_text_of_error {e : CompileError} (config : StageConfig) (runId : Int)
    (h : (compile "runtime" text).1 = .error e) :
    finish { runId := runId, source := .text text, config := config } =
      ⟨runId, .failed (e.message text.toList)⟩ := by
  have hprogram : program { runId := runId, source := .text text, config := config } =
      (.error (e.message text.toList), (compile "runtime" text).2) := by
    rw [program]
    simp [h, Except.mapError]
  rw [finish, course, hprogram]
  rfl

/-- The result of the run of a text is exchanged, whether or not the text compiles. -/
theorem exchanges_finish_text (config : StageConfig) {runId : Int}
    (hid : (Decimal.digitsOf runId.natAbs).length ≤ digitLimit) :
    Json.Exchanges (Payload.ofResult
      (finish { runId := runId, source := .text text, config := config })) := by
  cases h : (compile "runtime" text).1 with
  | ok p =>
    rw [finish_text_of_ok config runId h]
    exact Payload.exchanges_finish h config hid
  | error e =>
    rw [finish_text_of_error config runId h]
    exact ⟨fun style => Payload.writes_ofResult hid (by rintro _ _ ⟨⟩),
      Payload.isKeyed_ofResult (by rintro _ ⟨⟩)⟩

end Run

/-! ## Outcomes -/

namespace Command

section

variable {codec : Text.Codec} {line : String} {lines : List String} {files : List File}
  {ending : Except Failure Nat}

theorem printed_cons : Outcome.printed ⟨line :: lines, files, ending⟩ =
    line ++ "\n" ++ Outcome.printed ⟨lines, files, ending⟩ := by
  simp [Outcome.printed]

/-- A line with bytes is printed, and what is after it as if it stood alone. -/
theorem shownOn_cons_of_none (h : codec.encodeError? line = none) :
    let rest := Outcome.shownOn codec ⟨lines, files, ending⟩
    Outcome.shownOn codec ⟨line :: lines, files, ending⟩ = { rest with lines := line :: rest.lines } := by
  simp [Outcome.shownOn, encodable, h]

/-- A line without bytes ends a command. -/
theorem shownOn_cons_of_some {e : Text.EncodeError} (h : codec.encodeError? line = some e) :
    Outcome.shownOn codec ⟨line :: lines, files, ending⟩ =
      ⟨[], files, .error (.unwritable (.encoding e))⟩ := by
  simp [Outcome.shownOn, encodable, h]

/-- A single line is printed, or ends a command. -/
theorem shownOn_singleton (codec : Text.Codec) (line : String) (files : List File)
    (ending : Except Failure Nat) :
    (codec.encodeError? line = none ∧
      Outcome.shownOn codec ⟨[line], files, ending⟩ = ⟨[line], files, ending⟩) ∨
    ∃ e, codec.encodeError? line = some e ∧
      Outcome.shownOn codec ⟨[line], files, ending⟩ =
        ⟨[], files, .error (.unwritable (.encoding e))⟩ := by
  cases h : codec.encodeError? line with
  | none => exact .inl ⟨rfl, shownOn_cons_of_none h⟩
  | some e => exact .inr ⟨e, rfl, shownOn_cons_of_some h⟩

end

/-- How a command ends that shows a result. -/
def codeOf (result : RunResult) : Nat := if result.isCompleted then 0 else 1

/-- A result that is exchanged is shown, after whatever lines, as JSON or as its output. -/
theorem exists_showResult {result : RunResult} (h : Json.Exchanges (Payload.ofResult result))
    (json : Bool) : ∃ shown, (∀ lines files, showResult json lines files result =
        ⟨lines ++ [shown], files, .ok (codeOf result)⟩) ∧
      if json then Json.print resultStyle (Payload.ofResult result) = .ok shown
      else shown = result.output := by
  cases json with
  | false => exact ⟨result.output, fun lines files => rfl, rfl⟩
  | true =>
    obtain ⟨shown, hshown, -⟩ := h.exists_read resultStyle
    refine ⟨shown, fun lines files => ?_, hshown⟩
    rw [showResult, if_pos rfl, hshown]
    rfl

section

variable {options : RunOptions} {found : Surroundings} {source : String}

/-- The outcome of exporting a program, if nothing stands in the place of the directory. -/
theorem runAndExport_of_ok (options : RunOptions) {p : Program}
    (hcompiled : (compile "runtime" source).1 = .ok p) (hfree : found.isBlocked = false) :
    let result := Run.finish { runId := 1, source := .program p, config := configOf options.waitScale }
    ∃ files, runAndExport options found source = match (Export.ofResult p result).error with
      | some e => { files := files, ending := .error (.file e) }
      | none => showResult options.json
          [s!"Exported run trace to: {Path.resolve found.directory options.directory}"] files result := by
  intro result
  rw [runAndExport, Export.ofSource_of_ok hcompiled]
  simp only [hfree]
  exact ⟨_, rfl⟩

/-- A refusal is reported, and another error ends the export. -/
theorem runAndExport_of_error (options : RunOptions) (found : Surroundings) {e : CompileError}
    (hcompiled : (compile "runtime" source).1 = .error e) :
    (e.isRefusal = true → runAndExport options found source =
      { lines := [s!"Error: {e.message source.toList}"], ending := .ok 1 }) ∧
    (e.isRefusal = false → ∃ failure, runAndExport options found source = { ending := .error failure }) := by
  rw [runAndExport, Export.ofSource_of_error hcompiled]
  cases e with
  | script fault => exact ⟨fun _ => rfl, by rintro ⟨⟩⟩
  | refused cause span => exact ⟨fun _ => rfl, by rintro ⟨⟩⟩
  | operation error => exact ⟨by rintro ⟨⟩, fun _ => ⟨_, rfl⟩⟩
  | nullCharacter => exact ⟨by rintro ⟨⟩, fun _ => ⟨_, rfl⟩⟩

/-- What the run of a text comes to, and what it prints. -/
theorem exists_runText (options : RunOptions) (source : String) :
    let result := Run.finish { runId := 1, source := .text source, config := configOf options.waitScale }
    ∃ shown, runText options source = ⟨[shown], [], .ok (codeOf result)⟩ ∧
      (∀ lines files, showResult options.json lines files result =
        ⟨lines ++ [shown], files, .ok (codeOf result)⟩) ∧
      if options.json then Json.print resultStyle (Payload.ofResult result) = .ok shown
      else shown = result.output := by
  intro result
  have hexchanges : Json.Exchanges (Payload.ofResult result) := Run.exchanges_finish_text _ (by decide)
  obtain ⟨shown, hshown, hform⟩ := exists_showResult hexchanges options.json
  exact ⟨shown, hshown [] [], hshown, hform⟩

variable {codec : Text.Codec}

theorem shownOn_runAndExport_iff_of_ok {p : Program} (hcompiled : (compile "runtime" source).1 = .ok p)
    (hfree : found.isBlocked = false) :
    let announcement := s!"Exported run trace to: {Path.resolve found.directory options.directory}"
    let plain := (runText options source).shownOn codec
    let exported := (runAndExport options found source).shownOn codec
    (exported.printed = announcement ++ "\n" ++ plain.printed ∧ exported.ending = plain.ending) ↔
      Program.IntegersFit p ∧ codec.encodeError? announcement = none := by
  intro announcement plain exported
  have hfit := Export.error_ofResult_eq_none_iff hcompiled (configOf options.waitScale)
    (show (Decimal.digitsOf (1 : Int).natAbs).length ≤ digitLimit by decide)
  obtain ⟨shown, hplain, hshown, -⟩ := exists_runText options source
  obtain ⟨files, hexported⟩ := runAndExport_of_ok options hcompiled hfree
  rw [Run.finish_text_of_ok _ _ hcompiled] at hshown hplain
  simp only [exported, plain]
  rw [← hfit, hexported, hplain]
  -- Without the line about the export the texts differ.
  have hsilent : ∀ text, "" ≠ announcement ++ "\n" ++ text := by
    intro text h
    have hlength := congrArg String.length h
    have hend : "\n".length = 1 := rfl
    simp only [String.length_append, String.length_empty] at hlength
    omega
  cases herror : (Export.ofResult p _).error with
  | some e => exact iff_of_false (fun h => hsilent _ h.1) (by simp)
  | none =>
    cases hannounced : codec.encodeError? announcement with
    | some e =>
      simp only [hshown, List.singleton_append]
      rw [shownOn_cons_of_some hannounced]
      exact iff_of_false (fun h => hsilent _ h.1) (by simp)
    | none =>
      simp only [hshown, List.singleton_append]
      rw [shownOn_cons_of_none hannounced, printed_cons]
      exact iff_of_true ⟨rfl, rfl⟩ ⟨trivial, trivial⟩

theorem shownOn_runAndExport_iff_of_error {e : CompileError}
    (hcompiled : (compile "runtime" source).1 = .error e) :
    let plain := (runText options source).shownOn codec
    let exported := (runAndExport options found source).shownOn codec
    (exported.printed = plain.printed ∧ exported.ending.toOption = plain.ending.toOption) ↔
      (e.isRefusal = true ∧ options.json = false) ∨
        (exported.ending.toOption = none ∧ plain.ending.toOption = none) := by
  obtain ⟨shown, hplain, -, hform⟩ := exists_runText options source
  rw [Run.finish_text_of_error _ _ hcompiled] at hplain hform
  obtain ⟨hrefusal, hother⟩ := runAndExport_of_error options found hcompiled
  intro plain exported
  simp only [exported, plain, hplain]
  cases hkind : e.isRefusal with
  | false =>
    -- The export has no code, so the other run must have none either.
    obtain ⟨failure, hfailure⟩ := hother hkind
    rw [hfailure]
    rcases shownOn_singleton codec shown [] (.ok 1) with ⟨-, hshown⟩ | ⟨e, -, hshown⟩
    · rw [show codeOf _ = 1 from rfl, hshown]
      exact iff_of_false (by simp [Outcome.shownOn, Except.toOption, encodable])
        (by simp [Outcome.shownOn, Except.toOption, encodable])
    · rw [show codeOf _ = 1 from rfl, hshown]
      exact iff_of_true ⟨rfl, rfl⟩ (.inr ⟨rfl, rfl⟩)
  | true =>
    rw [hrefusal hkind]
    cases hjson : options.json with
    | false =>
      rw [hjson, if_neg Bool.false_ne_true] at hform
      rw [hform]
      exact iff_of_true ⟨rfl, rfl⟩ (.inl ⟨rfl, rfl⟩)
    | true =>
      -- The report of a refusal does not begin with a brace.
      rw [hjson, if_pos rfl] at hform
      obtain ⟨rest, hrest⟩ := Json.exists_toList_print hform
      have hne : s!"Error: {e.message source.toList}" ++ "\n" ++ "" ≠ shown ++ "\n" ++ "" := by
        intro h
        have hhead := congrArg (·.toList.head?) h
        simp [toString, hrest] at hhead
      rcases shownOn_singleton codec s!"Error: {e.message source.toList}" [] (.ok 1) with
          ⟨-, hexported⟩ | ⟨e, -, hexported⟩ <;>
        rcases shownOn_singleton codec shown [] (.ok 1) with ⟨-, hshown⟩ | ⟨e', -, hshown⟩ <;>
        rw [show codeOf _ = 1 from rfl, hexported, hshown]
      · rw [printed_cons, printed_cons]
        exact iff_of_false (fun h => hne h.1) (by simp [Except.toOption])
      · exact iff_of_false (by simp [Except.toOption]) (by simp [Except.toOption])
      · exact iff_of_false (by simp [Except.toOption]) (by simp [Except.toOption])
      · exact iff_of_true ⟨rfl, rfl⟩ (.inr ⟨rfl, rfl⟩)

end

end Command

end SpriteStage
