import SpriteStage.Proofs.Program.Compilation
import SpriteStage.Proofs.Script.Segment

/-!
# Listings compile back

The listing of a program is a program text that compiles to the normal form of the program.  A run of
the text and a run of the program therefore take the same steps.
-/

namespace SpriteStage

open Script (Lexeme Token)
open Script.Grammar (rules block script)
open Script.Parser (Reads)

/-! ## Listings -/

section

variable {handle : List Char} {p : Program} {cs : List Char} {xs : List Lexeme}

/-- The tokens of a transcript. -/
theorem Transcript.lexemes_tokenize (hname : Text.isIdentifier handle = true)
    (hkeyword : Script.isKeyword handle = false) (h : Transcript handle 0 p cs xs) :
    (Script.tokenize cs).map Token.lexeme = xs ++ [(.finish, [])] := by
  have hgives := h.gives hname hkeyword (fun before _ => Script.Gives.finish before)
    (.inl (le_refl 0))
  rw [List.append_nil, Script.turn_self, List.nil_append] at hgives
  exact hgives _ ⟨rfl, rfl, rfl, rfl⟩ _ (Nat.lt_succ_self _)

/-- The statements of a transcript that is not empty. -/
theorem Transcript.exists_ofTokens (hname : Text.isIdentifier handle = true)
    (hkeyword : Script.isKeyword handle = false) (h : Transcript handle 0 p cs xs) (hne : cs ≠ []) :
    ∃ found, Script.ofTokens (Script.tokenize cs) = .ok found ∧ Means handle p found := by
  have hlexemes := h.lexemes_tokenize hname hkeyword
  generalize Script.tokenize cs = tokens at hlexemes ⊢
  have hlength : tokens.length = xs.length + 1 := by
    rw [← List.length_map (f := Token.lexeme), hlexemes, List.length_append, List.length_singleton]
  have hlines := h.two_le_length hne
  -- The fuel of the grammar is enough for three levels of expressions and for all blocks.
  obtain ⟨k, hk⟩ : ∃ k, tokens.length + 1 = k + 4 := ⟨tokens.length - 3, by omega⟩
  have hfuel : xs.length ≤ k + 4 := by omega
  have hstatements := (h.reads k hfuel (x := (.finish, [])) (.inr rfl) []).2
    (List.ne_nil_of_length_pos (Nat.lt_of_succ_lt hlines))
  have hscript : Reads (script (rules (k + 4)) (k + 4)) (xs ++ [(.finish, [])]) []
      (Means handle p) :=
    Script.Grammar.reads_script ((Reads.optional_some hstatements).imp fun found h => by
      obtain ⟨a, rfl, ha⟩ := h
      exact ha)
  -- The lexer has not broken off anywhere.
  have hwhole : ∀ t ∈ tokens, ∀ reason, t.kind ≠ .broken reason := by
    intro t ht reason
    have hmem : t.lexeme ∈ xs ++ [(.finish, [])] := hlexemes ▸ List.mem_map_of_mem ht
    rcases List.mem_append.1 hmem with hmem | hmem
    · exact h.whole _ hmem reason
    · have hkind : t.kind = .finish := (Prod.mk.inj (List.mem_singleton.1 hmem)).1
      rw [hkind]
      simp
  obtain ⟨found, t, heq, hfound, -⟩ := hscript { rest := tokens }
    ⟨rfl, by rw [List.append_nil]; exact hlexemes, hwhole⟩
  refine ⟨found, ?_, hfound⟩
  rw [Script.ofTokens]
  simp only [hk, heq]

theorem Script.read_nil : Script.read [] = .ok [] := by
  rfl

/-- Statements that mean a program compile to it. -/
theorem Means.compileScript {handle : String} {found : List Script.Stmt}
    (hnormal : Text.IsNormal handle.toList) (h : Means handle.toList p found) :
    Compiles (compileScript handle found) p := by
  have hstatements := h []
  rw [Script.identifier_toList hnormal] at hstatements
  refine hstatements.bind ?_
  cases p with
  | nil => exact (Compiles.warn _).bind .pure
  | cons i p => exact .pure

/-- **A transcript compiles** to its program. -/
theorem Transcript.compile {handle text : String} (hname : Text.isIdentifier handle.toList = true)
    (hnormal : Text.IsNormal handle.toList) (hkeyword : Script.isKeyword handle.toList = false)
    (h : Transcript handle.toList 0 p text.toList xs) : (compile handle text).1 = .ok p := by
  have hchars := h.isInline hname
  -- Controls other than line ends would be read in another way.
  have habsent : ∀ c : Char, c ≠ '\n' → ¬ Text.IsInline c → c ∉ text.toList :=
    fun c hc hinline hmem => (hchars c hmem).elim hc hinline
  have hread : ∃ found, Script.read text.toList = .ok found ∧ Means handle.toList p found := by
    by_cases hne : text.toList = []
    · have hp : p = [] := h.eq_nil hne
      subst hp
      rw [hne]
      exact ⟨[], Script.read_nil, .nil⟩
    · rw [Script.read, Script.readable_eq_self (habsent '\r' (by decide) (by decide))
        (h.exists_append_newline hne)]
      exact h.exists_ofTokens hname hkeyword hne
  obtain ⟨found, hfound, hmeans⟩ := hread
  have hnull : text.toList.contains '\x00' = false := by
    rw [← Bool.not_eq_true, List.contains_iff_mem]
    exact habsent '\x00' (by decide) (by decide)
  obtain ⟨ws, hcompiled⟩ := hmeans.compileScript hnormal []
  rw [SpriteStage.compile, hnull]
  simp only [Bool.false_eq_true, if_false, hfound]
  exact congrArg Prod.fst hcompiled

end

/-- The transcript of a listing. -/
theorem Listing.exists_transcript_ofProgram {handle text : String} {p : Program}
    (hdepth : Program.loopDepth p < Script.levelLimit) (hcounts : RoundsFit (Program.loopCounts p))
    (htext : ofProgram handle p = .ok text) :
    ∃ xs, Transcript handle.toList 0 (Program.normalise p) text.toList xs := by
  rw [ofProgram] at htext
  cases hlines : bodyLines handle 0 p with
  | error e => rw [hlines] at htext; cases htext
  | ok ls =>
    rw [hlines] at htext
    cases htext
    obtain ⟨xs, h⟩ := exists_transcript p hlines (by omega) hcounts .nil
    rw [List.append_nil, List.append_nil, ← toList_join] at h
    exact ⟨xs, h⟩

/-- **Listings compile back.**  The listing of a program for a handle in normal form, if there is one,
    compiles to the normal form of the program: groups are spliced into the instructions around them,
    loops carry their numbers of rounds, and every argument is the same value.  A run of the listing and a run
    of the program that nobody abandons sleep as long and end alike. -/
theorem listing_compiles_back {handle text : String} {p : Program}
    (hname : Text.isIdentifier handle.toList = true) (hnormal : Text.IsNormal handle.toList)
    (hkeyword : Script.isKeyword handle.toList = false)
    (hdepth : Program.loopDepth p < Script.levelLimit)
    (hcounts : ∀ times ∈ Program.loopCounts p, ∀ n, repeatCount times = .ok n → n < 2 ^ 63)
    (htext : Listing.ofProgram handle p = .ok text) :
    (compile handle text).1 = .ok (Program.normalise p) ∧
      ∀ (runId : Int) (config : StageConfig),
        let listed : Run := { runId := runId, source := .text text, config := config, handle := handle }
        let direct : Run := { runId := runId, source := .program p, config := config, handle := handle }
        ∃ course course' delays result, listed.start = .ok (listed.launch, course) ∧
          direct.start = .ok (direct.launch, course') ∧
          course.complete {} = (delays, listed.settle result) ∧
          course'.complete {} = (delays, direct.settle result) := by
  obtain ⟨xs, htranscript⟩ := Listing.exists_transcript_ofProgram hdepth hcounts htext
  have hcompiled := htranscript.compile hname hnormal hkeyword
  refine ⟨hcompiled, fun runId config => ?_⟩
  intro listed direct
  have hlisted : listed.program.1 = .ok (Program.normalise p) := by
    show (compile handle text).1.mapError _ = _
    rw [hcompiled]
    rfl
  -- Both runs take the steps of the normal form.
  have hsame : listed.course.complete {} = direct.course.complete {} := by
    rw [listed.complete_course hlisted rfl, direct.complete_course (p := p) rfl rfl,
      Program.steps_normalise]
  refine ⟨_, _, (direct.course.complete {}).1, (direct.course.complete {}).2, rfl, rfl, ?_, ?_⟩
  · rw [Resumption.complete_bind_done, hsame]
  · rw [Resumption.complete_bind_done]

/-- A listing with an empty loop, a group, a number of rounds that is no integer, and a negative zero. -/
theorem nested_listing_compiles_back :
    let p : Program := [.loop (.float 2.5) [.group [.loop (.int 0) [.group []],
      .call .say (.text "it's\n")], .call .move (.float (-0.0))], .fail "done"]
    let text := "for _ in range(3):\n    for _1 in range(0):\n        pass\n" ++
      "    await runtime.say(\"it's\\n\")\n    await runtime.move(-0.0)\nraise RuntimeError('done')\n"
    Listing.ofProgram "runtime" p = .ok text ∧
      (compile "runtime" text).1 = .ok [.loop (.int 3) [.loop (.int 0) [],
        .call .say (.text "it's\n"), .call .move (.float (-0.0))], .fail "done"] := by
  intro p text
  have htext : Listing.ofProgram "runtime" p = .ok text := by decide +kernel
  have hthree : repeatCount (.float 2.5) = .ok 3 := by decide +kernel
  have hzero : repeatCount (.int 0) = .ok 0 := repeatCount_natCast 0
  have hdepth : Program.loopDepth p < Script.levelLimit := by
    simp [p, Program.loopDepth, Instruction.loopDepth, Script.levelLimit]
  have hcounts : ∀ times ∈ Program.loopCounts p, ∀ n, repeatCount times = .ok n → n < 2 ^ 63 := by
    simp [p, Program.loopCounts, Instruction.loopCounts, hthree, hzero]
  have hcompiled := (listing_compiles_back (by decide) (by decide) (by decide) hdepth hcounts htext).1
  refine ⟨htext, hcompiled.trans (congrArg Except.ok ?_)⟩
  simp [p, Program.normalise, Instruction.normalise, Value.rounds, hthree, hzero]

end SpriteStage
