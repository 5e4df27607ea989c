import SpriteStage.Proofs.Program.Descent
import SpriteStage.Proofs.Program.Likeness
import SpriteStage.Proofs.Script.Abreast.Whole

/-!
# Messages quote their text

A script that cannot be part of a program is refused with a place and with the text that stands there; so
are loops reported that do not go round.  The line is one of the text, and what is quoted stands in it.  The
column counts the bytes of what comes before it, and not its characters, as the column of a text that is no
script does.

## Main definitions

* `Script.Stands` says where a part of a text stands
* `Script.Shows` says that a message ends with a place and with the text there

## Main results

* `compile_quotes_its_text` is about all refusals and all empty loops
-/

namespace SpriteStage

namespace Script

open Text (physicalLinesFrom remainder)

/-- Where a part of a text stands: in a line of the text, after the beginning of that line. -/
structure Stands (text : List Char) (line : ℕ) (before code : List Char) : Prop where
  first : 1 ≤ line
  last : line ≤ (physicalLinesFrom [] text).length
  within : before <+: ((physicalLinesFrom [] text).drop (line - 1)).headD []
  plain : ∀ c ∈ before, c ≠ '\r' ∧ c ≠ '\n'
  quoted : before ++ code <+: ((physicalLinesFrom [] text).drop (line - 1)).flatten
  nonempty : code ≠ []

/-- A message ends with a place and with the text that stands there.  The column counts bytes; these are the
    characters if all of them belong to ASCII. -/
def Shows (text : List Char) (what message : String) : Prop :=
  ∃ line column before code, Stands text line before code ∧ column = byteCount before + 1 ∧
    ((∀ c ∈ before, c.toNat < 128) → column = before.length + 1) ∧
    message = s!"{what}\nLocation: line {line}, column {column}\nCode: {String.ofList code}"

/-- Each character of ASCII is a byte. -/
theorem byteCount_of_ascii {cs : List Char} (h : ∀ c ∈ cs, c.toNat < 128) : byteCount cs = cs.length := by
  induction cs with
  | nil => rfl
  | cons c cs ih =>
    obtain ⟨hc, hcs⟩ := List.forall_mem_cons.1 h
    have hle : c.val ≤ 0x7F := UInt32.le_iff_toNat_le.2 (Nat.le_of_lt_succ hc)
    have hsize : c.utf8Size = 1 := if_pos hle
    rw [byteCount, List.map_cons, List.sum_cons, hsize, ← byteCount, ih hcs, List.length_cons, Nat.add_comm]

variable {text : List Char} {σ : Span}

/-- Before the end of what the lexer reads, the text goes on with the same character if that is not blank. -/
theorem exists_remainder_of_visible {n : ℕ} (hn : n < (Text.unifyNewlines text).length)
    (hvisible : ∀ c ∈ (readable text)[n]?, Text.isBlank c = false) :
    ∃ c cs, remainder n text = c :: cs ∧ Text.isBlank c = false := by
  have hsame : (readable text)[n]? = (Text.unifyNewlines text)[n]? := by
    rcases readable_cases text with ⟨h, -⟩ | h
    · rw [h]
    · rw [h, List.getElem?_append_left hn]
  rw [hsame, ← List.head?_drop, ← Text.unifyNewlines_remainder] at hvisible
  cases hrest : remainder n text with
  | nil =>
    have hdrop := Text.unifyNewlines_remainder n text
    rw [hrest, Text.unifyNewlines, eq_comm, List.drop_eq_nil_iff] at hdrop
    omega
  | cons c cs =>
    rw [hrest, Text.unifyNewlines_cons, List.head?_cons] at hvisible
    have hblank := hvisible _ rfl
    split at hblank
    · cases hblank
    · exact ⟨c, cs, rfl, hblank⟩

/-- **A stretch of what the lexer reads** is quoted from the text. -/
theorem Span.Marks.exists_stands (h : σ.Marks (readable text)) :
    ∃ before code, Stands text σ.start.line before code ∧ byteCount before = σ.start.offset ∧
      shown? (σ.segment text) = some (String.ofList code) := by
  obtain ⟨n, m, hlt, hm, hvisible, rfl⟩ := h
  have hleaves := leaves_place (hlt.trans hm)
  have hline := place_lt hlt hm.le
  have hsegment := Span.segment_append_of_leaves hleaves (leaves_place hm) hline.1 fun h => (hline.2 h).le
  obtain ⟨hfirst, before, hplain, hbytes, hwithin, hflatten⟩ := hleaves
  have hle : m ≤ (Text.unifyNewlines text).length := by
    rcases readable_cases text with ⟨h, -⟩ | h
    · rw [← h]
      exact hm.le
    · rw [h, List.length_append, List.length_singleton] at hm
      omega
  obtain ⟨c, cs, hrest, hblank⟩ := exists_remainder_of_visible (hlt.trans_le hle) hvisible
  -- The stretch is not empty, so it begins with the same character.
  obtain ⟨es, hes⟩ : ∃ es, Span.segment text ⟨place (readable text) n, place (readable text) m⟩ = c :: es := by
    rcases hempty : Span.segment text ⟨place (readable text) n, place (readable text) m⟩ with _ | ⟨d, es⟩
    · rw [hempty, List.nil_append] at hsegment
      have hlength := congrArg (fun cs => (Text.unifyNewlines cs).length) hsegment
      rw [Text.unifyNewlines_remainder, Text.unifyNewlines_remainder, List.length_drop,
        List.length_drop] at hlength
      omega
    · rw [hempty, hrest, List.cons_append] at hsegment
      exact ⟨es, by rw [(List.cons.inj hsegment).1]⟩
  have hne := Text.stripList_ne_nil hblank es
  refine ⟨before, Text.stripList (c :: es), ⟨hfirst, ?_, hwithin, hplain, ?_, hne⟩, hbytes, ?_⟩
  · by_contra hlast
    have hnil : (physicalLinesFrom [] text).drop ((place (readable text) n).line - 1) = [] :=
      List.drop_eq_nil_iff.2 (by dsimp only at hlast; omega)
    rw [hnil, hrest] at hflatten
    simp at hflatten
  · rw [hflatten, ← hsegment, hes]
    exact (List.prefix_append_right_inj before).2
      ((Text.prefix_stripList hblank es).trans (List.prefix_append _ _))
  · rw [hes, shown?]
    split
    · contradiction
    · rfl

theorem locationBlock_some (line column : ℤ) {code : String} (h : code ≠ "") :
    locationBlock line column (some code) =
      s!"Location: line {line}, column {max column 1}\nCode: {code}" := by
  unfold locationBlock
  split
  · contradiction
  · rename_i heq
    exact absurd (Option.some.inj heq) h
  · rename_i heq
    obtain rfl := Option.some.inj heq
    simp [toString, String.append_assoc]

/-- A message that ends with the place of a stretch, and with the text there. -/
theorem Span.message_eq {code : String} (hshown : shown? (σ.segment text) = some code) (hcode : code ≠ "")
    (what : String) : s!"{what}\n{σ.location text}" =
      s!"{what}\nLocation: line {σ.start.line}, column {σ.start.offset + 1}\nCode: {code}" := by
  have hcolumn : max ((σ.start.offset : ℤ) + 1) 1 = ((σ.start.offset + 1 : ℕ) : ℤ) := by omega
  have hlocation : σ.location text =
      s!"Location: line {σ.start.line}, column {σ.start.offset + 1}\nCode: {code}" := by
    rw [location, hshown, locationBlock_some _ _ hcode, hcolumn]
    rfl
  have hbreak : "\n" ++ "Location: line " = "\nLocation: line " := by decide
  rw [hlocation]
  simp only [toString, String.append_assoc]
  rw [← hbreak, String.append_assoc]

theorem Stands.ofList_ne {line : ℕ} {before code : List Char} (h : Stands text line before code) :
    String.ofList code ≠ "" := fun hempty =>
  h.nonempty (by simpa using congrArg String.toList hempty)

/-- A message that ends with the place of a stretch shows it. -/
theorem Span.Marks.shows (h : σ.Marks (readable text)) (what : String) :
    Shows text what s!"{what}\n{σ.location text}" := by
  obtain ⟨before, code, hstands, hbytes, hshown⟩ := h.exists_stands
  refine ⟨σ.start.line, byteCount before + 1, before, code, hstands, rfl, fun hascii => ?_, ?_⟩
  · rw [byteCount_of_ascii hascii]
  · rw [Span.message_eq hshown hstands.ofList_ne, hbytes]

end Script

variable (handle text : String)

/-- **Refusals and warnings quote the text** that they are about. -/
theorem compile_quotes_its_text :
    (∀ cause σ, (compile handle text).1 = .error (.refused cause σ) →
      Script.Shows text.toList cause.message ((CompileError.refused cause σ).message text.toList)) ∧
    ∀ σ, .emptyLoop σ ∈ (compile handle text).2 →
      Script.Shows text.toList "Loop body never executes because its range is empty."
        ((Warning.emptyLoop σ).message text.toList) := by
  by_cases hnull : text.toList.contains '\x00' = true
  · rw [compile_eq, if_pos hnull]
    exact ⟨by rintro _ _ ⟨⟩, by rintro _ ⟨⟩⟩
  rw [compile_eq, if_neg hnull]
  cases hread : Script.read text.toList with
  | error fault => exact ⟨by rintro _ _ ⟨⟩, by rintro _ ⟨⟩⟩
  | ok script =>
    obtain ⟨g, halike, hmarks⟩ := Script.exists_pairing_of_read hread
    obtain ⟨hresult, ws, ws', hws, -, hwarnings⟩ := alike_compileScript handle halike [] []
    dsimp only
    rw [hws, List.nil_append]
    refine ⟨fun cause σ herror => ?_, fun σ hσ => ?_⟩
    · rw [herror] at hresult
      cases hresult with
      | error h =>
        cases h with
        | refused hspan => exact (hmarks _ _ hspan).2.shows _
    · obtain ⟨i, hi, hσ⟩ := List.getElem_of_mem hσ
      have hwarning := hwarnings.get hi (hwarnings.length_eq ▸ hi)
      rw [List.get_eq_getElem, hσ] at hwarning
      generalize ws'.get _ = w at hwarning
      cases hwarning with
      | emptyLoop hspan => exact (hmarks _ _ hspan).2.shows _

/-- A warning about the first line and a refusal in the third one, after line ends of two kinds. -/
theorem warning_and_refusal_quote_their_text :
    let text := "for _ in range(0): pass\rfor a in range(2):\r\n    runtime.turn(a)\n"
    (∃ cause σ, (compile "runtime" text).1 = .error (.refused cause σ) ∧
      Script.Shows text.toList cause.message ((CompileError.refused cause σ).message text.toList)) ∧
    ∃ σ, .emptyLoop σ ∈ (compile "runtime" text).2 ∧
      Script.Shows text.toList "Loop body never executes because its range is empty."
        ((Warning.emptyLoop σ).message text.toList) := by
  intro text
  obtain ⟨hrefusal, hwarning⟩ := compile_quotes_its_text "runtime" text
  constructor
  · obtain ⟨e, he, hwhere⟩ := exists_of_error (x := (compile "runtime" text).1)
      (p := (· = .refused (.loopVariable "a") ⟨⟨3, 17⟩, ⟨3, 18⟩⟩)) (by decide +kernel)
    subst hwhere
    exact ⟨_, _, he, hrefusal _ _ he⟩
  · have hmem : .emptyLoop ⟨⟨1, 0⟩, ⟨1, 23⟩⟩ ∈ (compile "runtime" text).2 := by decide +kernel
    exact ⟨_, hmem, hwarning _ hmem⟩

/-- A character that is no single byte moves the column of what comes after it, but not that of a text that is
    no script. -/
theorem column_counts_bytes :
    let text := "runtime.say('é'); import os\n"
    let broken := "runtime.say('é'); import 1\n"
    let report :=
      "Invalid Python syntax: invalid syntax\nLocation: line 1, column 26\nCode: runtime.say('é'); import 1"
    (∃ cause σ, (compile "runtime" text).1 = .error (.refused cause σ) ∧
      (CompileError.refused cause σ).message text.toList =
        "Unsupported statement: Import\nLocation: line 1, column 20\nCode: import os" ∧
      ¬ "import os".toList <+: text.toList.drop (20 - 1) ∧ "import os".toList <+: text.toList.drop (19 - 1)) ∧
    ∃ e, (compile "runtime" broken).1 = .error e ∧ e.message broken.toList = report ∧
      "1".toList <+: broken.toList.drop (26 - 1) := by
  intro text broken report
  constructor
  · obtain ⟨e, he, hwhere⟩ := exists_of_error (x := (compile "runtime" text).1)
      (p := (· = .refused (.statement "Import") ⟨⟨1, 19⟩, ⟨1, 28⟩⟩)) (by decide +kernel)
    subst hwhere
    exact ⟨_, _, he, by decide +kernel, by decide +kernel, by decide +kernel⟩
  · obtain ⟨e, he, hmessage⟩ := exists_of_error (x := (compile "runtime" broken).1)
      (p := (·.message broken.toList = report)) (by decide +kernel)
    exact ⟨e, he, hmessage, by decide +kernel⟩

end SpriteStage
