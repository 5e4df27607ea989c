import SpriteStage.Proofs.Program.Pointing
import SpriteStage.Proofs.Script.Joining

/-!
# Programs one after the other

A text that compiles, and whose last line ends, can be followed by another text: the program of both is that
of the one and then that of the other.  What is wrong with the second text, and what is worth a warning, is
reported as it is without the first text, but further down by the lines of the first one.

Nothing of the first text may go on in the second one.  A carriage return before a line feed is no line end of
its own; and after a backslash a carriage return and a line feed at the end of a text do end its last line,
while they continue it in any other place.  This makes no difference where the line holds the backslash only.

## Main definitions

* `Parses` says that a text is a script
* `ParsesBeforeBackslashes` says so of a text without the lines at its end that hold a backslash only
* `emptyLoopMessages` are the messages about loops that do not go round
* `Script.ShowsBelow` compares messages that show the same part of a text in two places

## Main results

* `compile_append` compiles two texts one after the other
-/

namespace SpriteStage

open Script (Span Stmt)

/-- A text is a script: it has no null character, and it can be read. -/
def Parses (text : String) : Prop :=
  '\x00' ∉ text.toList ∧ ∃ script, Script.read text.toList = .ok script

/-- A text is a script, but for lines at its end that hold a backslash only. -/
def ParsesBeforeBackslashes (text : String) : Prop :=
  ∃ s n, text.toList = s.toList ++ Script.backslashLines n ∧ (s = "" ∨ s.toList.getLast? = some '\n') ∧ Parses s

/-- The messages about the empty loops among some warnings about a text. -/
def emptyLoopMessages (text : String) (ws : List Warning) : List String :=
  ws.filterMap fun
    | .emptyLoop σ => some ((Warning.emptyLoop σ).message text.toList)
    | .noOperation => none

/-- What a warning about an empty loop says before the place. -/
def emptyLoopNotice : String := "Loop body never executes because its range is empty."

namespace Script

/-- Two messages that end with the same part of a text, which the second one shows `k` lines further down. -/
def ShowsBelow (k : ℕ) (what message message' : String) : Prop :=
  ∃ (line column : ℕ) (code : String),
    message = s!"{what}\nLocation: line {line}, column {column}\nCode: {code}" ∧
      message' = s!"{what}\nLocation: line {line + k}, column {column}\nCode: {code}"

variable {cs ds : List Char} {σ : Span}

/-- **A place of the first text** is shown in the same way with another text after it. -/
theorem Span.Marks.location_append (h : Text.EndsBefore cs ds) (hσ : σ.Marks (Text.unifyNewlines cs)) :
    σ.location (cs ++ ds) = σ.location cs := by
  obtain ⟨n, m, hlt, hm, -, rfl⟩ := hσ
  have hle := line_place_le h.getLast?_unifyNewlines hm
  rw [← h.length_physicalLinesFrom []] at hle
  rw [location, location, segment_append h (one_le_line_place (hlt.trans hm).le) (place_lt hlt hm.le).1 hle]

/-- **A place of the second text** is shown further down with the first text before it. -/
theorem Span.Marks.showsBelow (h : Text.EndsBefore cs ds) (hσ : σ.Marks (readable ds)) (what : String) :
    ShowsBelow (Text.physicalLinesFrom [] cs).length what s!"{what}\n{σ.location ds}"
      s!"{what}\n{(σ.down (Text.physicalLinesFrom [] cs).length).location (cs ++ ds)}" := by
  obtain ⟨before, code, hstands, -, hshown⟩ := hσ.exists_stands
  refine ⟨_, _, _, message_eq hshown hstands.ofList_ne what, ?_⟩
  rw [← segment_down h hstands.first] at hshown
  exact message_eq hshown hstands.ofList_ne what

end Script

/-! ## Warnings -/

section

variable {s t : String} {ws ws' : List Warning} {P : Span → Span → Prop}

theorem emptyLoopMessages_noOperation (text : String) (ws : List Warning) :
    emptyLoopMessages text (.noOperation :: ws) = emptyLoopMessages text ws := rfl

theorem emptyLoopMessages_emptyLoop (text : String) (σ : Span) (ws : List Warning) :
    emptyLoopMessages text (.emptyLoop σ :: ws) =
      s!"{emptyLoopNotice}\n{σ.location text.toList}" :: emptyLoopMessages text ws := rfl

theorem emptyLoopMessages_append (text : String) (ws ws' : List Warning) :
    emptyLoopMessages text (ws ++ ws') = emptyLoopMessages text ws ++ emptyLoopMessages text ws' :=
  List.filterMap_append

/-- **The warnings about the first text** are the same with another text after it. -/
theorem emptyLoopMessages_left (h : Text.EndsBefore s.toList t.toList)
    (hP : ∀ σ τ, P σ τ → τ = σ ∧ σ.Marks (Text.unifyNewlines s.toList))
    (hws : List.Forall₂ (Warning.Alike P) ws ws') :
    emptyLoopMessages (s ++ t) ws = emptyLoopMessages s ws' := by
  induction hws with
  | nil => rfl
  | cons hw _ ih =>
    cases hw with
    | noOperation => rw [emptyLoopMessages_noOperation (s ++ t), emptyLoopMessages_noOperation s, ih]
    | emptyLoop hσ =>
      obtain ⟨rfl, hmarks⟩ := hP _ _ hσ
      rw [emptyLoopMessages_emptyLoop (s ++ t), emptyLoopMessages_emptyLoop s, ih, String.toList_append,
        hmarks.location_append h]

/-- **The warnings about the second text** show the same further down with the first text before it. -/
theorem emptyLoopMessages_right (h : Text.EndsBefore s.toList t.toList)
    (hP : ∀ σ τ, P σ τ → τ = σ.down (Text.physicalLines s).length ∧ σ.Marks (Script.readable t.toList))
    (hws : List.Forall₂ (Warning.Alike P) ws ws') :
    List.Forall₂ (Script.ShowsBelow (Text.physicalLines s).length emptyLoopNotice) (emptyLoopMessages t ws)
      (emptyLoopMessages (s ++ t) ws') := by
  induction hws with
  | nil => exact .nil
  | cons hw _ ih =>
    cases hw with
    | noOperation =>
      rw [emptyLoopMessages_noOperation t, emptyLoopMessages_noOperation (s ++ t)]
      exact ih
    | emptyLoop hσ =>
      obtain ⟨rfl, hmarks⟩ := hP _ _ hσ
      rw [emptyLoopMessages_emptyLoop t, emptyLoopMessages_emptyLoop (s ++ t), String.toList_append]
      exact .cons (hmarks.showsBelow h emptyLoopNotice) ih

/-- Parts of a compilation that are alike in the same places do the same. -/
theorem Compiling.Alike.run_eq {α : Type} {m m' : Compiling α} (hP : ∀ σ τ, P σ τ → τ = σ)
    (h : Compiling.Alike P m m') : m'.run [] = m.run [] := by
  obtain ⟨hresult, vs, vs', hvs, hvs', hwarnings⟩ := h [] []
  refine Prod.ext ?_ ?_
  · generalize (m.run []).1 = x at hresult ⊢
    generalize (m'.run []).1 = x' at hresult ⊢
    cases hresult with
    | ok a => rfl
    | error h =>
      cases h with
      | operation e => rfl
      | refused hσ => rw [hP _ _ hσ]
  · have hsame : vs = vs' := by
      refine List.forall₂_eq_eq_eq ▸ hwarnings.imp fun w w' h => ?_
      cases h with
      | noOperation => rfl
      | emptyLoop hσ => rw [hP _ _ hσ]
    rw [hvs, hvs', hsame]

end

/-! ## Scripts -/

section

variable {handle : String} {scope : List String} {p : List Instruction}

/-- Statements that compile have forms that are known. -/
theorem ne_other_of_compileStmts {ss : List Stmt} {ws : List Warning}
    (h : (compileStmts handle scope ss).run [] = (.ok p, ws)) : ∀ x ∈ ss, ∀ form σ, x ≠ .other form σ := by
  induction ss generalizing p ws with
  | nil => exact fun x hx => absurd hx List.not_mem_nil
  | cons s ss ih =>
    obtain ⟨i, vs, q, us, hs, hss, -, -⟩ := exists_of_compileStmts_cons_ok h
    refine List.forall_mem_cons.2 ⟨?_, ih hss⟩
    rintro form σ rfl
    rw [run_compileStmt_of_not_loop _ _ _ rfl] at hs
    cases hs

/-- Statements of two scripts are compiled one after the other; `x` is what becomes of the second ones.  What is
    noted about the whole program is not about loops. -/
theorem exists_run_compileScript_append {us vs : List Stmt} {as bs : List Warning} {x : Refusable Program}
    (hus : (compileStmts handle [] us).run [] = (.ok p, as)) (hvs : (compileStmts handle [] vs).run [] = (x, bs)) :
    ∃ notes, (compileScript handle (us ++ vs)).run [] = (x.map (p ++ ·), as ++ bs ++ notes) ∧
      ∀ text, emptyLoopMessages text notes = [] := by
  rw [run_compileScript, run_compileStmts_append, hus]
  dsimp only
  rw [run_compileStmts, hvs]
  cases x with
  | error e => exact ⟨[], by rw [List.append_nil]; rfl, fun _ => rfl⟩
  | ok q =>
    refine ⟨_, rfl, fun text => ?_⟩
    split <;> rfl

/-- A script is compiled like its statements. -/
theorem exists_run_compileScript {vs : List Stmt} {bs : List Warning} {x : Refusable Program}
    (hvs : (compileStmts handle [] vs).run [] = (x, bs)) :
    ∃ notes, (compileScript handle vs).run [] = (x, bs ++ notes) ∧ ∀ text, emptyLoopMessages text notes = [] := by
  obtain ⟨notes, h, hnotes⟩ := exists_run_compileScript_append (run_compileStmts_nil handle [] []) hvs
  refine ⟨notes, h.trans ?_, hnotes⟩
  cases x <;> rfl

/-- **Two scripts one after the other** compile like each of them by itself: `as` are the warnings about the first
    one, `x` is what becomes of the second one, and `bs` are the warnings about it. -/
theorem exists_run_of_read_append {cs ds : List Char} {ss ts : List Stmt} {as bs : List Warning}
    {x : Refusable Program} (h : Text.EndsBefore cs ds) (hss : Script.read cs = .ok ss)
    (hts : Script.read ds = .ok ts)
    (hcontinued : ['\\', '\r', '\n'] <:+ cs → ∃ line n, Text.unifyNewlines cs = line ++ Script.backslashLines n ∧
      (line = [] ∨ line.getLast? = some '\n') ∧ ∃ script, Script.read line = .ok script)
    (has : (compileStmts handle [] ss).run [] = (.ok p, as)) (hbs : (compileStmts handle [] ts).run [] = (x, bs)) :
    ∃ script P Q y bs' notes, Script.read (cs ++ ds) = .ok script ∧
      (compileScript handle script).run [] = (y.map (p ++ ·), as ++ bs' ++ notes) ∧
      (∀ text, emptyLoopMessages text notes = []) ∧ List.Forall₂ (Warning.Alike P) as as ∧
      Refusable.Alike Q x y ∧ List.Forall₂ (Warning.Alike Q) bs bs' ∧
      (∀ σ τ, P σ τ → τ = σ ∧ σ.Marks (Text.unifyNewlines cs)) ∧
      ∀ σ τ, Q σ τ → τ = σ.down (Text.physicalLinesFrom [] cs).length ∧ σ.Marks (Script.readable ds) := by
  obtain ⟨rs, us, vs, P, P', Q, hread, hrs, hus, hvs, hP, hP', hQ⟩ :=
    Script.exists_of_read_append h hss hcontinued hts (ne_other_of_compileStmts has)
  have hrs' : (compileStmts handle [] rs).run [] = (.ok p, as) := by
    rw [← has, (alike_compileStmts handle [] hrs).run_eq fun σ τ hσ => (hP σ τ hσ).1]
  have hus' : (compileStmts handle [] us).run [] = (.ok p, as) := by
    rw [← hrs', (alike_compileStmts handle [] hus).run_eq hP']
  obtain ⟨-, ws, ws', hws, hws', hwarnings⟩ := alike_compileStmts handle [] hrs [] []
  rw [hrs'] at hws
  rw [has] at hws'
  obtain rfl : as = ws := hws
  obtain rfl : as = ws' := hws'
  obtain ⟨hresult, zs, bs', hzs, hbs', hwarnings'⟩ := alike_compileStmts handle [] hvs [] []
  rw [hbs] at hresult hzs
  obtain rfl : bs = zs := hzs
  obtain ⟨y, hy⟩ : ∃ y, (compileStmts handle [] vs).run [] = (y, bs') := ⟨_, Prod.ext rfl hbs'⟩
  rw [hy] at hresult
  obtain ⟨notes, hrun, hnotes⟩ := exists_run_compileScript_append hus' hy
  exact ⟨us ++ vs, P, Q, y, bs', notes, hread, hrun, hnotes, hwarnings, hresult, hwarnings', hP, hQ⟩

/-- A script is compiled. -/
theorem compile_of_read {text : String} {script : List Stmt} (hnull : '\x00' ∉ text.toList)
    (hread : Script.read text.toList = .ok script) :
    compile handle text = (compileScript handle script).run [] := by
  rw [compile_eq, if_neg (by simpa using hnull), hread]

/-- Only scripts compile. -/
theorem parses_of_compile {text : String} (h : (compile handle text).1 = .ok p) : Parses text := by
  rw [compile_eq] at h
  split at h
  · cases h
  · rename_i hnull
    split at h
    · cases h
    · rename_i script hread
      exact ⟨by simpa using hnull, script, hread⟩

end

/-! ## Texts -/

/-- **Two texts one after the other** compile to the program of the one and then that of the other, if the first
    one compiles, its last line ends, and the second one is a script.  If the second one is refused, both of them
    are refused for the same cause, and only the line is another one: it is further down by the lines of the first
    text.  The warnings about loops that do not go round are those about the first text and then those about the
    second one, further down in the same way.

    What is said of a backslash concerns texts that end with it, a carriage return and a line feed only: where it
    ends a line with anything else, this line goes on in the second text. -/
theorem compile_append (handle s t : String) {p : Program} (hs : (compile handle s).1 = .ok p)
    (hends : Text.EndsBefore s.toList t.toList)
    (hcontinued : ['\\', '\r', '\n'] <:+ s.toList →
      ParsesBeforeBackslashes (String.ofList (Text.unifyNewlines s.toList)))
    (ht : Parses t) :
    (∀ q, (compile handle t).1 = .ok q → (compile handle (s ++ t)).1 = .ok (p ++ q)) ∧
    (∀ cause σ, (compile handle t).1 = .error (.refused cause σ) →
      ∃ τ, (compile handle (s ++ t)).1 = .error (.refused cause τ) ∧
        Script.ShowsBelow (Text.physicalLines s).length cause.message
          ((CompileError.refused cause σ).message t.toList)
          ((CompileError.refused cause τ).message (s ++ t).toList)) ∧
    (∀ e, (compile handle t).1 = .error (.operation e) → (compile handle (s ++ t)).1 = .error (.operation e)) ∧
    ∃ later, emptyLoopMessages (s ++ t) (compile handle (s ++ t)).2 =
        emptyLoopMessages s (compile handle s).2 ++ later ∧
      List.Forall₂ (Script.ShowsBelow (Text.physicalLines s).length emptyLoopNotice)
        (emptyLoopMessages t (compile handle t).2) later := by
  -- Both texts are scripts, whose statements are compiled one after the other.
  obtain ⟨hnull, ss, hss⟩ := parses_of_compile hs
  obtain ⟨hnull', ts, hts⟩ := ht
  rw [compile_of_read hnull hss] at hs ⊢
  rw [compile_of_read hnull' hts]
  obtain ⟨r, as, has⟩ : ∃ r as, (compileStmts handle [] ss).run [] = (r, as) := ⟨_, _, rfl⟩
  obtain ⟨x, bs, hbs⟩ : ∃ x bs, (compileStmts handle [] ts).run [] = (x, bs) := ⟨_, _, rfl⟩
  obtain ⟨notes, hrun, hnotes⟩ := exists_run_compileScript has
  obtain ⟨notes', hrun', hnotes'⟩ := exists_run_compileScript hbs
  rw [hrun] at hs ⊢
  rw [hrun']
  obtain rfl : r = .ok p := hs
  -- The statements of both texts together differ from these in their places only.
  have hbefore (h : ['\\', '\r', '\n'] <:+ s.toList) :
      ∃ line n, Text.unifyNewlines s.toList = line ++ Script.backslashLines n ∧
        (line = [] ∨ line.getLast? = some '\n') ∧ ∃ script, Script.read line = .ok script := by
    obtain ⟨line, n, hline, hlast, -, hscript⟩ := hcontinued h
    rw [String.toList_ofList] at hline
    exact ⟨line.toList, n, hline, hlast.imp_left fun h => by rw [h]; rfl, hscript⟩
  obtain ⟨script, P, Q, y, bs', notes'', hread, hboth, hnotes'', hP', hresult, hQ', hP, hQ⟩ :=
    exists_run_of_read_append hends hss hts hbefore has hbs
  have hnull'' : '\x00' ∉ (s ++ t).toList := by
    rw [String.toList_append, List.mem_append]
    exact not_or.2 ⟨hnull, hnull'⟩
  rw [← String.toList_append] at hread
  rw [compile_of_read hnull'' hread, hboth]
  refine ⟨?_, ?_, ?_, emptyLoopMessages (s ++ t) bs', ?_, ?_⟩
  · rintro q rfl
    cases hresult
    rfl
  · rintro cause σ rfl
    cases hresult with
    | error h =>
      cases h with
      | refused hσ =>
        obtain ⟨rfl, hmarks⟩ := hQ _ _ hσ
        refine ⟨_, rfl, ?_⟩
        rw [CompileError.message, CompileError.message, String.toList_append]
        exact hmarks.showsBelow hends cause.message
  · rintro error rfl
    cases hresult with
    | error h =>
      cases h
      rfl
  · rw [emptyLoopMessages_append, emptyLoopMessages_append, emptyLoopMessages_append, hnotes, hnotes'',
      List.append_nil, List.append_nil, emptyLoopMessages_left hends hP hP']
  · rw [emptyLoopMessages_append, hnotes', List.append_nil]
    exact emptyLoopMessages_right hends hQ hQ'

/-- A text with line ends of two characters, of which the last line holds a backslash only, and a text that is
    refused in its last line. -/
theorem compile_append_import :
    let s := "for _ in range(0): pass\r\nruntime.move(1)\r\n\\\r\n"
    let t := "for _ in range(0):\n    pass\nimport os\n"
    (∃ cause σ τ, (compile "runtime" t).1 = .error (.refused cause σ) ∧
      (compile "runtime" (s ++ t)).1 = .error (.refused cause τ) ∧
      Script.ShowsBelow 3 cause.message ((CompileError.refused cause σ).message t.toList)
        ((CompileError.refused cause τ).message (s ++ t).toList)) ∧
    ∃ later, emptyLoopMessages (s ++ t) (compile "runtime" (s ++ t)).2 =
        emptyLoopMessages s (compile "runtime" s).2 ++ later ∧
      List.Forall₂ (Script.ShowsBelow 3 emptyLoopNotice) (emptyLoopMessages t (compile "runtime" t).2) later := by
  intro s t
  obtain ⟨p, hs, -⟩ := exists_of_any_toOption (x := (compile "runtime" s).1) (p := fun _ => true)
    (by decide +kernel)
  obtain ⟨e, he, hwhere⟩ := exists_of_error (x := (compile "runtime" t).1)
    (p := (· = .refused (.statement "Import") ⟨⟨3, 0⟩, ⟨3, 9⟩⟩)) (by decide +kernel)
  subst hwhere
  have hparses {text : String} (hnull : '\x00' ∉ text.toList)
      (h : (Script.read text.toList).toOption.any (fun _ => true) = true) : Parses text := by
    obtain ⟨script, hread, -⟩ := exists_of_any_toOption h
    exact ⟨hnull, script, hread⟩
  have ht : Parses t := hparses (by decide) (by decide +kernel)
  have hbefore : ParsesBeforeBackslashes (String.ofList (Text.unifyNewlines s.toList)) :=
    ⟨"for _ in range(0): pass\nruntime.move(1)\n", 1, by decide, .inr (by decide),
      hparses (by decide) (by decide +kernel)⟩
  have hends : Text.EndsBefore s.toList t.toList := .inl (by decide)
  have hlines : (Text.physicalLines s).length = 3 := by decide
  obtain ⟨-, hrefused, -, hwarnings⟩ := compile_append "runtime" s t hs hends (fun _ => hbefore) ht
  rw [hlines] at hrefused hwarnings
  obtain ⟨τ, hτ, hshows⟩ := hrefused _ _ he
  exact ⟨⟨_, _, τ, he, hτ, hshows⟩, hwarnings⟩

/-- **A backslash before a carriage return and a line feed** ends a text that compiles, but it continues the line
    if another text follows. -/
theorem not_compile_append_of_backslash :
    let s := "runtime.move(1)\\\r\n"
    let t := "runtime.turn(2)\n"
    (∃ p, (compile "runtime" s).1 = .ok p) ∧ s.toList.getLast? = some '\n' ∧
      (∃ q, (compile "runtime" t).1 = .ok q) ∧ ∀ r, (compile "runtime" (s ++ t)).1 ≠ .ok r := by
  intro s t
  have hok {text : String} (h : (compile "runtime" text).1.toOption.any (fun _ => true) = true) :
      ∃ p, (compile "runtime" text).1 = .ok p := by
    obtain ⟨p, hp, -⟩ := exists_of_any_toOption h
    exact ⟨p, hp⟩
  refine ⟨hok (by decide +kernel), by decide, hok (by decide +kernel), fun r hr => ?_⟩
  have hnone : (compile "runtime" (s ++ t)).1.toOption.isNone = true := by decide +kernel
  rw [hr] at hnone
  cases hnone

end SpriteStage
