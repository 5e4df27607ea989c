import SpriteStage.Proofs.Program.Constant
import SpriteStage.Proofs.Program.Normalization

/-!
# Transcripts

A transcript puts a program in normal form together with its listing, as characters and as lexemes.
The indents and dedents around the block of a loop are lexemes although no characters write them; that
is why the blocks of a transcript are nested as those of the program are.

## Main definitions

* `Sentence` relates what stands on a line of its own
* `Transcript` relates programs, characters and lexemes
* `Listing.textOf` are the characters of lines
-/

namespace SpriteStage

open Script (Lexeme Gives CutsOff EndsWord levelLimit turn)

/-- What stands on a line without a block, and the instruction that it leaves behind. -/
inductive Sentence (handle : List Char) : Option Instruction → List Char → List Lexeme → Prop where
  | call (op : Operation) {v : Value} {cs : List Char} {xs : List Lexeme} (h : Constant v cs xs) :
      Sentence handle (some (.call op v))
        ("await".toList ++ ' ' :: (handle ++ '.' :: (op.name.toList ++ '(' :: (cs ++ [')']))))
        ((.keyword, "await".toList) :: (.name, handle) :: (.operator, ['.']) ::
          (.name, op.name.toList) :: (.operator, ['(']) :: (xs ++ [(.operator, [')'])]))
  | fail (message : List Char) :
      Sentence handle (some (.fail (String.ofList message)))
        ("raise".toList ++ ' ' :: ("RuntimeError".toList ++ '(' :: (Text.quoteList message ++ [')'])))
        [(.keyword, "raise".toList), (.name, "RuntimeError".toList), (.operator, ['(']),
          (.text, Text.quoteList message), (.operator, [')'])]
  | pass : Sentence handle none "pass".toList [(.keyword, "pass".toList)]

/-- The characters before the block of a loop. -/
def loopHead (counter : List Char) (n : ℕ) : List Char :=
  "for".toList ++ ' ' :: (counter ++ ' ' :: ("in".toList ++ ' ' :: ("range".toList ++
    '(' :: (Decimal.digitsOf n ++ [')', ':']))))

/-- The lexemes before the block of a loop. -/
def loopLexemes (counter : List Char) (n : ℕ) : List Lexeme :=
  [(.keyword, "for".toList), (.name, counter), (.keyword, "in".toList), (.name, "range".toList),
    (.operator, ['(']), (.numeral, Decimal.digitsOf n), (.operator, [')']), (.operator, [':'])]

/-- A program in normal form, its listing `level` levels in, and the lexemes of that. -/
inductive Transcript (handle : List Char) : ℕ → Program → List Char → List Lexeme → Prop where
  | nil {level : ℕ} : Transcript handle level [] [] []
  | sentence {level : ℕ} {i : Option Instruction} {p : Program} {cs ds : List Char}
      {xs ys : List Lexeme} (hlevel : level ≤ levelLimit) (h : Sentence handle i cs xs)
      (hrest : Transcript handle level p ds ys) :
      Transcript handle level (i.toList ++ p) (List.replicate (4 * level) ' ' ++ (cs ++ '\n' :: ds))
        (xs ++ (.newline, []) :: ys)
  | loop {level n : ℕ} {counter : List Char} {body p : Program} {inner ds : List Char}
      {ws ys : List Lexeme} (hlevel : level ≤ levelLimit)
      (hcounter : Text.isIdentifier counter = true ∧ Script.isKeyword counter = false)
      (hn : n < 2 ^ 63) (hdigits : (Decimal.digitsOf n).length ≤ digitLimit)
      (hbody : Transcript handle (level + 1) body inner ws) (hinner : inner ≠ [])
      (hrest : Transcript handle level p ds ys) :
      Transcript handle level (.loop (.int n) body :: p)
        (List.replicate (4 * level) ' ' ++ (loopHead counter n ++ '\n' :: (inner ++ ds)))
        (loopLexemes counter n ++
          (.newline, []) :: (.indent, []) :: (ws ++ (.dedent, []) :: ys))

/-! ## From listings to transcripts -/

namespace Listing

/-- The characters of lines, with a line end after each. -/
def textOf (ls : List String) : List Char := ls.flatMap fun l => l.toList ++ ['\n']

theorem textOf_append (ls ms : List String) : textOf (ls ++ ms) = textOf ls ++ textOf ms :=
  List.flatMap_append

theorem textOf_cons (l : String) (ls : List String) :
    textOf (l :: ls) = l.toList ++ '\n' :: textOf ls := by
  simp [textOf]

theorem toList_join (ls : List String) : (String.join (ls.map (· ++ "\n"))).toList = textOf ls := by
  induction ls with
  | nil => rfl
  | cons l ls ih =>
    rw [textOf_cons, ← ih]
    simp

theorem toList_margin (level : ℕ) : (margin level).toList = List.replicate (4 * level) ' ' :=
  String.toList_ofList

theorem toList_loopVariable {depth : ℕ} (h : depth ≠ 0) :
    (loopVariable depth).toList = '_' :: Decimal.digitsOf depth := by
  have hdigits : (toString depth).toList = Decimal.digitsOf depth := String.toList_ofList
  rw [loopVariable, if_neg h, String.toList_append, hdigits]
  rfl

/-- The variables of loops are names. -/
theorem isName_loopVariable (depth : ℕ) :
    Text.isIdentifier (loopVariable depth).toList = true ∧
      Script.isKeyword (loopVariable depth).toList = false := by
  by_cases h : depth = 0
  · rw [loopVariable, if_pos h]
    decide
  · rw [toList_loopVariable h]
    have hparts : (Decimal.digitsOf depth).all Text.isIdentifierPart = true := by
      refine List.all_eq_true.2 fun c hc => ?_
      have hdigit := isDigit_iff.1 (Numeral.isDigits_digitsOf depth c hc)
      have hzero : '0'.toNat ≤ c.toNat := hdigit.1
      have hnine : c.toNat ≤ '9'.toNat := hdigit.2
      rw [Text.isIdentifierPart, if_pos (by omega), Bool.or_eq_true, Bool.and_eq_true]
      exact .inr ⟨decide_eq_true hzero, decide_eq_true hnine⟩
    refine ⟨by rw [Text.isIdentifier, hparts]; rfl, ?_⟩
    -- No keyword starts with an underscore.
    have hheads : ∀ w ∈ Script.keywords, w.toList.head? ≠ some '_' := by decide
    rw [← Bool.not_eq_true, Script.isKeyword, List.contains_iff_mem]
    intro hmem
    refine hheads _ hmem ?_
    rw [String.toList_ofList, List.head?_cons]

end Listing

section

variable {handle : String}

/-- Nothing is written only for nothing. -/
theorem Transcript.eq_nil {handle : List Char} {level : ℕ} {p : Program} {cs : List Char}
    {xs : List Lexeme} (h : Transcript handle level p cs xs) (hcs : cs = []) : p = [] := by
  cases h with
  | nil => rfl
  | sentence hlevel h hrest => simp at hcs
  | loop hlevel hcounter hn hdigits hbody hinner hrest => simp [loopHead] at hcs

/-- Whether every loop of a list of them goes round less than 2^63 times. -/
def RoundsFit (counts : List Value) : Prop :=
  ∀ times ∈ counts, ∀ n, repeatCount times = .ok n → n < 2 ^ 63

theorem integerText_natCast {n : ℕ} {s : String} (h : integerText n = .ok s) :
    s.toList = Decimal.digitsOf n ∧ (Decimal.digitsOf n).length ≤ digitLimit := by
  rw [integerText] at h
  split at h
  · cases h
  · rename_i hlimit
    cases h
    rw [if_neg (by omega), String.toList_ofList, Int.natAbs_natCast]
    exact ⟨rfl, not_lt.1 hlimit⟩

namespace Listing

/-- A line of its own goes before a transcript. -/
theorem exists_transcript_sentence {i : Option Instruction} {p : Program} {level : ℕ}
    {line : String} {cs ds : List Char} {xs ys : List Lexeme} (hlevel : level ≤ levelLimit)
    (h : Sentence handle.toList i cs xs) (hline : line.toList = List.replicate (4 * level) ' ' ++ cs)
    (hrest : Transcript handle.toList level p ds ys) :
    ∃ zs, Transcript handle.toList level (i.toList ++ p) (textOf [line] ++ ds) zs := by
  have htext : textOf [line] ++ ds = List.replicate (4 * level) ' ' ++ (cs ++ '\n' :: ds) := by
    rw [textOf_cons, hline]
    simp [textOf]
  rw [htext]
  exact ⟨_, .sentence hlevel h hrest⟩

/-- What is listed for a loop. -/
theorem exists_of_lines_loop {times : Value} {body : List Instruction} {level : ℕ}
    {ls : List String} (h : lines handle level (.loop times body) = .ok ls) :
    ∃ n s bs, repeatCount times = .ok n ∧ integerText n = .ok s ∧
      bodyLines handle (level + 1) body = .ok bs ∧
      ls = (margin level ++ s!"for {loopVariable level} in range({s}):") ::
        if bs.isEmpty then [margin (level + 1) ++ "pass"] else bs := by
  rw [lines] at h
  cases hn : repeatCount times with
  | error e => simp [hn, Except.mapError, bind, Except.bind] at h
  | ok n =>
  cases hs : integerText n with
  | error e => simp [hn, hs, Except.mapError, bind, Except.bind] at h
  | ok s =>
  cases hbs : bodyLines handle (level + 1) body with
  | error e => simp [hn, hs, hbs, Except.mapError, bind, Except.bind] at h
  | ok bs =>
    simp only [hn, hs, hbs, Except.mapError, bind, Except.bind, pure, Except.pure,
      Except.ok.injEq] at h
    exact ⟨n, s, bs, rfl, hs, rfl, h.symm⟩

/-- The block of a loop is never empty: `pass` stands for an empty one, and it leaves nothing
    behind. -/
theorem exists_transcript_block {body : Program} {level : ℕ} {bs : List String} {ws : List Lexeme}
    (hlevel : level ≤ levelLimit) (hbody : Transcript handle.toList level body (textOf bs) ws) :
    ∃ zs, Transcript handle.toList level body
        (textOf (if bs.isEmpty then [margin level ++ "pass"] else bs)) zs ∧
      textOf (if bs.isEmpty then [margin level ++ "pass"] else bs) ≠ [] := by
  cases bs with
  | nil =>
    have hline : (margin level ++ "pass").toList =
        List.replicate (4 * level) ' ' ++ "pass".toList := by
      rw [String.toList_append, toList_margin]
    obtain ⟨zs, hpass⟩ := exists_transcript_sentence hlevel .pass hline .nil
    rw [Option.toList_none, List.append_nil, List.append_nil] at hpass
    rw [hbody.eq_nil rfl]
    exact ⟨zs, hpass, by simp [textOf]⟩
  | cons b bs => exact ⟨ws, hbody, by simp [textOf]⟩

/-- A loop goes before a transcript. -/
theorem exists_transcript_loop {n level : ℕ} {s : String} {body p : Program} {bs : List String}
    {ds : List Char} {ws ys : List Lexeme} (hlevel : level + 1 ≤ levelLimit) (hn : n < 2 ^ 63)
    (hs : integerText n = .ok s) (hbody : Transcript handle.toList (level + 1) body (textOf bs) ws)
    (hrest : Transcript handle.toList level p ds ys) :
    ∃ zs, Transcript handle.toList level (.loop (.int n) body :: p)
      (textOf ((margin level ++ s!"for {loopVariable level} in range({s}):") ::
        if bs.isEmpty then [margin (level + 1) ++ "pass"] else bs) ++ ds) zs := by
  obtain ⟨hdigits, hlimit⟩ := integerText_natCast hs
  obtain ⟨zs, hinner, hne⟩ := exists_transcript_block hlevel hbody
  have hloop := Transcript.loop (by omega) (isName_loopVariable level) hn hlimit hinner hne hrest
  have hhead : (s!"for {loopVariable level} in range({s}):").toList =
      loopHead (loopVariable level).toList n := by
    simp [toString, loopHead, hdigits]
  rw [textOf_cons, String.toList_append, toList_margin, hhead, List.append_assoc, List.append_assoc,
    List.cons_append]
  exact ⟨_, hloop⟩

mutual

theorem exists_transcript_lines (i : Instruction) {level : ℕ} {ls : List String}
    (h : lines handle level i = .ok ls) (hlevel : level + i.loopDepth ≤ levelLimit)
    (hcounts : RoundsFit i.loopCounts) {p : Program} {ds : List Char} {ys : List Lexeme}
    (hrest : Transcript handle.toList level p ds ys) :
    ∃ zs, Transcript handle.toList level (i.normalise ++ p) (textOf ls ++ ds) zs := by
  match i with
  | .call op v =>
    rw [lines] at h
    cases hv : constant v with
    | error e => rw [hv] at h; cases h
    | ok s =>
      rw [hv] at h
      cases h
      obtain ⟨xs, hconstant⟩ := exists_constant hv
      refine exists_transcript_sentence (i := some (.call op v)) (by omega) (.call op hconstant) ?_
        hrest
      rw [String.toList_append, toList_margin]
      simp [toString]
  | .loop times body =>
    -- The body is a transcript one level further in, with nothing after it.
    obtain ⟨n, s, bs, hn, hs, hbs, rfl⟩ := exists_of_lines_loop h
    rw [Instruction.loopDepth] at hlevel
    rw [Instruction.loopCounts] at hcounts
    obtain ⟨ws, hbody⟩ := exists_transcript body hbs (by omega)
      (fun t ht => hcounts t (List.mem_cons_of_mem _ ht)) .nil
    rw [List.append_nil, List.append_nil] at hbody
    have hrounds : times.rounds = .int n := by rw [Value.rounds, hn]
    rw [Instruction.normalise, hrounds]
    exact exists_transcript_loop (by omega) (hcounts times List.mem_cons_self n hn) hs hbody hrest
  | .group body =>
    -- A group has the lines of its instructions, on its own level.
    rw [Instruction.normalise]
    exact exists_transcript body h hlevel hcounts hrest
  | .fail message =>
    rw [lines] at h
    cases h
    have hsentence : Sentence handle.toList _ _ _ := .fail message.toList
    rw [String.ofList_toList] at hsentence
    refine exists_transcript_sentence (by omega) hsentence ?_ hrest
    rw [String.toList_append, toList_margin]
    simp [toString, Text.quote]
  | .unsupported typeName => cases h

theorem exists_transcript (program : Program) {level : ℕ} {ls : List String}
    (h : bodyLines handle level program = .ok ls)
    (hlevel : level + Program.loopDepth program ≤ levelLimit)
    (hcounts : RoundsFit (Program.loopCounts program)) {p : Program} {ds : List Char}
    {ys : List Lexeme} (hrest : Transcript handle.toList level p ds ys) :
    ∃ zs, Transcript handle.toList level (Program.normalise program ++ p) (textOf ls ++ ds) zs := by
  match program with
  | [] =>
    cases h
    exact ⟨ys, hrest⟩
  | i :: program =>
    rw [bodyLines] at h
    cases hhead : lines handle level i with
    | error e => rw [hhead] at h; cases h
    | ok as =>
    cases htail : bodyLines handle level program with
    | error e => rw [hhead, htail] at h; cases h
    | ok bs =>
      rw [hhead, htail] at h
      cases h
      rw [Program.loopDepth] at hlevel
      rw [Program.loopCounts] at hcounts
      -- The transcript grows from its end: first that of the rest, then the first instruction
      -- before it.
      obtain ⟨zs, hzs⟩ := exists_transcript program htail (by omega)
        (fun t ht => hcounts t (List.mem_append_right _ ht)) hrest
      rw [Program.normalise, textOf_append, List.append_assoc, List.append_assoc]
      exact exists_transcript_lines i hhead (by omega)
        (fun t ht => hcounts t (List.mem_append_left _ ht)) hzs

end

end Listing

end

/-! ## From characters to lexemes -/

section

variable {handle : List Char} (hname : Text.isIdentifier handle = true)
  (hkeyword : Script.isKeyword handle = false)

theorem isName_operation (op : Operation) :
    Text.isIdentifier op.name.toList = true ∧ Script.isKeyword op.name.toList = false := by
  cases op <;> decide

theorem isNormal_operation (op : Operation) : Text.IsNormal op.name.toList := by
  cases op <;> decide

theorem cutsOff_operation (op : Operation) {depth : ℕ} {rest : List Char} (hrest : EndsWord rest) :
    CutsOff depth (.name, op.name.toList) rest depth :=
  cutsOff_name (isName_operation op).1 (isName_operation op).2 hrest

/-- The point before an operation is no part of a numeral or of a longer operator. -/
theorem cutsOff_point (op : Operation) {depth : ℕ} {rest : List Char} :
    CutsOff depth (.operator, ['.']) (op.name.toList ++ rest) depth := by
  cases op <;> exact Script.cutsOff_operator (by decide) (by decide) fun _ => rfl

include hname hkeyword in
/-- The lexer reads a line of its own. -/
theorem Sentence.line {i : Option Instruction} {cs rest : List Char} {xs ls : List Lexeme}
    (h : Sentence handle i cs xs) {before level : ℕ} (hnext : level ≤ before + 1)
    (hlevel : level ≤ levelLimit) (hrest : Gives true level 0 rest ls) :
    Gives true before 0 (List.replicate (4 * level) ' ' ++ (cs ++ '\n' :: rest))
      (turn before level ++ (xs ++ (.newline, []) :: ls)) := by
  have hend := Gives.newline hrest
  -- The lexemes are taken from the end of the line backwards.
  cases h with
  | call op h =>
    rename_i v ds ys
    have hclosing := Gives.lexeme Script.cutsOff_closing 0 hend
    have hopening := Gives.lexeme (Script.cutsOff_opening (by decide)) 0
      (h.gives (by decide) hclosing)
    have hoperation := Gives.lexeme (cutsOff_operation op (endsWord_of_head rfl rfl)) 0 hopening
    have hpoint := Gives.lexeme (cutsOff_point op) 0 hoperation
    have hhandle := Gives.lexeme (cutsOff_name hname hkeyword (endsWord_of_head rfl rfl)) 1 hpoint
    have hline := Gives.line (cutsOff_keyword (w := "await".toList) (by decide) (by decide)
      (endsWord_of_head rfl rfl)) hnext hlevel hhandle
    simpa using hline
  | fail message =>
    have hclosing := Gives.lexeme Script.cutsOff_closing 0 hend
    have hopening := Gives.lexeme (Script.cutsOff_opening (by decide)) 0
      (Gives.lexeme (Script.cutsOff_text message) 0 hclosing)
    have herror := Gives.lexeme (cutsOff_name (w := "RuntimeError".toList) (by decide) (by decide)
      (endsWord_of_head rfl rfl)) 1 hopening
    have hline := Gives.line (cutsOff_keyword (w := "raise".toList) (by decide) (by decide)
      (endsWord_of_head rfl rfl)) hnext hlevel herror
    simpa using hline
  | pass =>
    exact Gives.line (cutsOff_keyword (by decide) (by decide) (endsWord_of_head rfl rfl)) hnext
      hlevel hend

/-- The lexer reads the line before the block of a loop. -/
theorem gives_loopHead {counter : List Char}
    (hcounter : Text.isIdentifier counter = true ∧ Script.isKeyword counter = false) {n : ℕ}
    (hdigits : (Decimal.digitsOf n).length ≤ digitLimit) {rest : List Char} {ls : List Lexeme}
    {before level : ℕ} (hnext : level ≤ before + 1) (hlevel : level ≤ levelLimit)
    (hrest : Gives true level 0 rest ls) :
    Gives true before 0 (List.replicate (4 * level) ' ' ++ (loopHead counter n ++ '\n' :: rest))
      (turn before level ++ (loopLexemes counter n ++ (.newline, []) :: ls)) := by
  have hend := Gives.newline hrest
  have hcut : CutsOff 0 (.operator, [':']) ('\n' :: rest) 0 :=
    Script.cutsOff_operator (by decide) (by decide) fun h => absurd h (by decide)
  have hcolon := Gives.lexeme hcut 0 hend
  have hclosing := Gives.lexeme Script.cutsOff_closing 0 hcolon
  have hopening := Gives.lexeme (Script.cutsOff_opening (by decide)) 0
    ((Operand.digits hdigits).gives (by decide) hclosing)
  have hrange := Gives.lexeme (cutsOff_name (w := "range".toList) (by decide) (by decide)
    (endsWord_of_head rfl rfl)) 1 hopening
  have hin := Gives.lexeme (cutsOff_keyword (w := "in".toList) (by decide) (by decide)
    (endsWord_of_head rfl rfl)) 1 hrange
  have hname := Gives.lexeme (cutsOff_name hcounter.1 hcounter.2 (endsWord_of_head rfl rfl)) 1 hin
  have hline := Gives.line (cutsOff_keyword (w := "for".toList) (by decide) (by decide)
    (endsWord_of_head rfl rfl)) hnext hlevel hname
  simpa [loopHead, loopLexemes] using hline

include hname hkeyword in
/-- **The lexer reads a transcript** after a line of its level or of an inner one, and it reads the
    block of a loop also after the line before that block. -/
theorem Transcript.gives {level : ℕ} {p : Program} {cs : List Char} {xs : List Lexeme}
    (h : Transcript handle level p cs xs) {rest : List Char} {ls : List Lexeme}
    (hrest : ∀ before, level ≤ before → Gives true before 0 rest (turn before level ++ ls))
    {before : ℕ} (hbefore : level ≤ before ∨ (cs ≠ [] ∧ level ≤ before + 1)) :
    Gives true before 0 (cs ++ rest) (turn before level ++ (xs ++ ls)) := by
  -- By induction on the transcript; what comes after it may start from any inner level, for the
  -- block of a loop may have ended there.
  induction h generalizing rest ls before with
  | nil =>
    rcases hbefore with hbefore | ⟨hne, -⟩
    · exact hrest before hbefore
    · exact absurd rfl hne
  | @sentence level i p cs ds xs ys hlevel h htail ih =>
    have hnext : level ≤ before + 1 := by omega
    have hafter := ih hrest (.inl (le_refl level))
    rw [Script.turn_self, List.nil_append] at hafter
    have hline := h.line hname hkeyword hnext hlevel hafter
    simpa using hline
  | @loop level n counter body p inner ds ws ys hlevel hcounter hn hdigits hbody hinner htail ihbody
      ih =>
    have hnext : level ≤ before + 1 := by omega
    -- The block ends with a dedent, wherever its last line stands.
    have houter : ∀ before, level + 1 ≤ before → Gives true before 0 (ds ++ rest)
        (turn before (level + 1) ++ (.dedent, []) :: (ys ++ ls)) := by
      intro before h
      rw [← Script.turn_succ h]
      exact ih hrest (.inl (Nat.le_of_succ_le h))
    have hafter := ihbody houter (.inr ⟨hinner, le_refl (level + 1)⟩)
    have hindent : turn level (level + 1) = [(.indent, [])] := if_pos (Nat.lt_succ_self level)
    rw [hindent] at hafter
    have hline := gives_loopHead hcounter hdigits hnext hlevel hafter
    simpa using hline

end

/-! ## What a transcript is written with -/

section

variable {v : Value} {cs : List Char} {xs : List Lexeme}

theorem Operand.isInline (h : Operand v cs xs) : ∀ c ∈ cs, Text.IsInline c := by
  cases h with
  | bool b => cases b <;> exact Text.isInline_of_all rfl
  | numeral hp hpad hv h =>
    intro c hc
    rcases Script.mem_chars hp hc with hdigit | rfl | rfl | rfl | rfl
    · exact le_trans (by decide) (isDigit_iff.1 hdigit).1
    all_goals decide
  | text ds => exact fun c hc => Text.isInline_of_mem_quoteList hc
  | word ds hcs hx =>
    simp only [List.forall_mem_append, List.forall_mem_cons]
    exact ⟨Text.isInline_of_all rfl, by decide, fun c hc => Text.isInline_of_mem_quoteList hc,
      by decide, List.forall_mem_nil _⟩

theorem Constant.isInline (h : Constant v cs xs) : ∀ c ∈ cs, Text.IsInline c := by
  cases h with
  | operand h => exact h.isInline
  | negative h hw => exact List.forall_mem_cons.2 ⟨by decide, h.isInline⟩

theorem Text.isInline_of_mem_identifier {w : List Char} (hw : Text.isIdentifier w = true) {c : Char}
    (hc : c ∈ w) : Text.IsInline c := by
  have hword := Script.isWordPart_iff.1 (Text.isWordPart_of_mem_identifier hw hc)
  rw [Text.IsInline]
  omega

/-- Lexemes are whole if none of them is a place where the lexer broke off. -/
def Whole (xs : List Lexeme) : Prop := ∀ x ∈ xs, ∀ reason, x.1 ≠ .broken reason

theorem Operand.whole (h : Operand v cs xs) : Whole xs := by
  cases h <;> simp [Whole]

theorem Constant.whole (h : Constant v cs xs) : Whole xs := by
  cases h with
  | operand h => exact h.whole
  | negative h hw => exact List.forall_mem_cons.2 ⟨by simp, h.whole⟩

end

section

variable {handle : List Char} {cs : List Char} {xs : List Lexeme}

theorem Sentence.isInline {i : Option Instruction} (hname : Text.isIdentifier handle = true)
    (h : Sentence handle i cs xs) : ∀ c ∈ cs, Text.IsInline c := by
  have hhandle : ∀ c ∈ handle, Text.IsInline c := fun c hc => Text.isInline_of_mem_identifier hname hc
  cases h with
  | call op h =>
    have hop : ∀ c ∈ op.name.toList, Text.IsInline c := by
      cases op <;> exact Text.isInline_of_all rfl
    simp only [List.forall_mem_append, List.forall_mem_cons]
    exact ⟨Text.isInline_of_all rfl, by decide, hhandle, by decide, hop, by decide, h.isInline,
      by decide, List.forall_mem_nil _⟩
  | fail message =>
    simp only [List.forall_mem_append, List.forall_mem_cons]
    exact ⟨Text.isInline_of_all rfl, by decide, Text.isInline_of_all rfl, by decide,
      fun c hc => Text.isInline_of_mem_quoteList hc, by decide, List.forall_mem_nil _⟩
  | pass => exact Text.isInline_of_all rfl

theorem Sentence.whole {i : Option Instruction} (h : Sentence handle i cs xs) : Whole xs := by
  cases h with
  | call op h =>
    have hconstant := h.whole
    simp only [Whole, List.forall_mem_append, List.forall_mem_cons] at hconstant ⊢
    simpa using hconstant
  | fail message => simp [Whole]
  | pass => simp [Whole]

/-- A sentence starts with the keyword that tells what it is. -/
theorem Sentence.opens {i : Option Instruction} (h : Sentence handle i cs xs) :
    ∃ s ∈ ["await", "raise", "pass"], ∃ ys, xs = (.keyword, s.toList) :: ys := by
  cases h with
  | call op h => exact ⟨"await", by simp, _, rfl⟩
  | fail message => exact ⟨"raise", by simp, _, rfl⟩
  | pass => exact ⟨"pass", by simp, _, rfl⟩

theorem isInline_loopHead {counter : List Char} (hcounter : Text.isIdentifier counter = true)
    (n : ℕ) : ∀ c ∈ loopHead counter n, Text.IsInline c := by
  rw [loopHead]
  simp only [List.forall_mem_append, List.forall_mem_cons]
  refine ⟨Text.isInline_of_all rfl, by decide,
    fun c hc => Text.isInline_of_mem_identifier hcounter hc, by decide, Text.isInline_of_all rfl,
    by decide, Text.isInline_of_all rfl, by decide, fun c hc => ?_, by decide, by decide,
    List.forall_mem_nil _⟩
  exact le_trans (by decide) (isDigit_iff.1 (Numeral.isDigits_digitsOf n c hc)).1

variable {level : ℕ} {p : Program}

/-- **The characters of a transcript** are no controls but line ends. -/
theorem Transcript.isInline (hname : Text.isIdentifier handle = true)
    (h : Transcript handle level p cs xs) : ∀ c ∈ cs, c = '\n' ∨ Text.IsInline c := by
  have hmargin : ∀ {level : ℕ}, ∀ c ∈ List.replicate (4 * level) ' ', Text.IsInline c :=
    fun c hc => by
      rw [List.eq_of_mem_replicate hc]
      decide
  induction h with
  | nil => exact fun c hc => by cases hc
  | sentence hlevel h htail ih =>
    simp only [List.forall_mem_append, List.forall_mem_cons]
    exact ⟨fun c hc => .inr (hmargin c hc), fun c hc => .inr (h.isInline hname c hc), .inl trivial, ih⟩
  | loop hlevel hcounter hn hdigits hbody hinner htail ihbody ih =>
    simp only [List.forall_mem_append, List.forall_mem_cons]
    exact ⟨fun c hc => .inr (hmargin c hc),
      fun c hc => .inr (isInline_loopHead hcounter.1 _ c hc), .inl trivial, ihbody, ih⟩

/-- The last line of a transcript ends. -/
theorem Transcript.exists_append_newline (h : Transcript handle level p cs xs) (hne : cs ≠ []) :
    ∃ ds, cs = ds ++ ['\n'] := by
  induction h with
  | nil => exact absurd rfl hne
  | @sentence level i p cs ds xs ys hlevel h htail ih =>
    by_cases hds : ds = []
    · subst hds
      exact ⟨List.replicate (4 * level) ' ' ++ cs, by simp⟩
    · obtain ⟨es, rfl⟩ := ih hds
      exact ⟨List.replicate (4 * level) ' ' ++ (cs ++ '\n' :: es), by simp⟩
  | @loop level n counter body p inner ds ws ys hlevel hcounter hn hdigits hbody hinner htail ihbody
      ih =>
    -- The last line is that of the block if nothing comes after the loop.
    by_cases hds : ds = []
    · obtain ⟨es, rfl⟩ := ihbody hinner
      subst hds
      exact ⟨List.replicate (4 * level) ' ' ++ (loopHead counter n ++ '\n' :: es), by simp⟩
    · obtain ⟨es, rfl⟩ := ih hds
      exact ⟨List.replicate (4 * level) ' ' ++ (loopHead counter n ++ '\n' :: (inner ++ es)),
        by simp⟩

theorem Transcript.whole (h : Transcript handle level p cs xs) : Whole xs := by
  induction h with
  | nil => exact fun x hx => by cases hx
  | sentence hlevel h htail ih =>
    exact List.forall_mem_append.2 ⟨h.whole, List.forall_mem_cons.2 ⟨by simp, ih⟩⟩
  | loop hlevel hcounter hn hdigits hbody hinner htail ihbody ih =>
    simp only [Whole, List.forall_mem_append, List.forall_mem_cons] at ihbody ih ⊢
    exact ⟨by simp [loopLexemes], by simp, by simp, ihbody, by simp, ih⟩

end

end SpriteStage
