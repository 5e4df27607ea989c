import SpriteStage.Script.Token.Lexeme

/-!
# The tokens of a text

The lexer goes through a readable text with a `Cursor`, which knows the place, the indentation levels
and the open brackets.  One step of it gives the tokens of one lexeme: the indents or dedents before
it and the lexeme itself.  Lines without a lexeme give no token, and within brackets the end of a
line is none either.
-/

namespace SpriteStage.Script

/-- An open bracket. -/
structure Bracket where
  char : Char
  position : Position
  deriving DecidableEq, Repr

/-- How wide the white space at the beginning of a line is: with tabs up to the next multiple of
    eight columns, and with tabs as single columns. -/
structure Indentation where
  width : Nat := 0
  narrow : Nat := 0
  deriving DecidableEq, Repr

/-- The white space with one more character; a form feed starts anew. -/
def Indentation.widen (i : Indentation) (c : Char) : Indentation :=
  if c == ' ' then ⟨i.width + 1, i.narrow + 1⟩
  else if c == '\t' then ⟨(i.width / 8 + 1) * 8, i.narrow + 1⟩
  else {}

/-- How far the text has been read. -/
structure Cursor where
  /-- What is still to be read. -/
  rest : List Char
  position : Position := ⟨1, 0⟩
  /-- The first of the lines that are quoted with a fault at this place. -/
  firstLine : Nat := 1
  /-- Whether the line has just begun. -/
  atLineStart : Bool := true
  /-- The levels of indentation, the innermost first; the outermost one is left out. -/
  levels : List Indentation := []
  /-- The open brackets, the innermost first. -/
  brackets : List Bracket := []

/-- The most brackets that may be open at once. -/
def bracketLimit : Nat := 200

/-- The most levels of indentation. -/
def levelLimit : Nat := 99

namespace Position

/-- The place after a character.  The end of the last line is no new line. -/
def next (p : Position) (c : Char) (more : Bool) : Position :=
  if c == '\n' && more then ⟨p.line + 1, 0⟩ else ⟨p.line, p.offset + c.utf8Size⟩

end Position

namespace Cursor

/-- Goes over `n` characters. -/
def advance : Nat → Cursor → Cursor
  | 0, s => s
  | n + 1, s =>
    match s.rest with
    | [] => s
    | c :: rest =>
      advance n { s with rest := rest, position := s.position.next c !rest.isEmpty }

/-- The cursor at the end of its line, after the line end. -/
def atLineEnd (s : Cursor) : Cursor :=
  s.advance ((s.rest.takeWhile (· != '\n')).length)
  |> fun s => { s with rest := s.rest.drop 1, position := ⟨s.position.line, s.position.offset + 1⟩ }

/-- A token from the cursor `s` up to the cursor `t`. -/
def token (kind : TokenKind) (chars : List Char) (s t : Cursor) : Token :=
  ⟨kind, chars, ⟨s.position, t.position⟩, t.brackets.length, t.firstLine⟩

/-- A token without characters at a cursor. -/
def mark (kind : TokenKind) (s : Cursor) : Token := token kind [] s s

/-! ## What cannot be read -/

/-- A fault at a place of a line, as it is reported where the cursor is. -/
def faultAt (s : Cursor) (cause : Cause) (line bytes : Nat) : Fault :=
  if s.position.line ≤ line then ⟨cause, line, .within bytes, s.firstLine, s.position.line⟩
  else .inLine cause line bytes

/-- The open bracket as a fault. -/
def unclosed? (s : Cursor) : Option Fault :=
  s.brackets.head?.map fun b =>
    s.faultAt (.unclosed b.char) b.position.line (b.position.offset + 1)

/-- Stops with a fault that yields to faults of the grammar. -/
def stop (s : Cursor) (f : Fault) : Token :=
  mark (.broken { fault := f, unclosed := s.unclosed? }) s

/-- Stops with a fault at the cursor that is reported in any case. -/
def refuse (s : Cursor) (cause : Cause) : Token :=
  mark (.broken {
    fault := .inLine cause s.position.line s.position.offset, isUrgent := true }) s

/-- Stops at the end of the text. -/
def finish (s : Cursor) : Token :=
  match s.unclosed? with
  | some f => stop s f
  | none => mark .finish s

/-- Stops after a backslash that does not continue the line; the cursor is past the backslash. -/
def breakContinuation (s : Cursor) : Token :=
  match s.rest with
  | ['\n'] | [] =>
    let s := s.atLineEnd
    stop s (s.unclosed?.getD (s.faultAt .unexpectedEnd s.position.line s.position.offset))
  | _ =>
    let line := s.position.line
    stop s ⟨.afterContinuation, line, .withinLast (s.position.offset + 1), s.firstLine, line⟩

/-- Goes over a line end after a backslash, if another line follows. -/
def continued? (s : Cursor) : Option Cursor :=
  match s.rest with
  | '\n' :: _ :: _ => some (s.advance 1)
  | _ => none

/-! ## Indentation -/

/-- Measures the white space at the beginning of a line.  Where lines are continued within it, what
    comes before the first backslash counts, unless it is nothing. -/
def measure (fixed : Nat) (i : Indentation) :
    Nat → Cursor → Except Token (Indentation × Cursor)
  | 0, s => .ok (i, s)
  | fuel + 1, s =>
    match s.rest with
    | c :: _ =>
      if c == ' ' || c == '\t' || c == '\x0c' then measure fixed (i.widen c) fuel (s.advance 1)
      else if c == '\\' then
        match (s.advance 1).continued? with
        | some t =>
          measure (if fixed == 0 then i.width else fixed) i fuel
            { t with firstLine := t.position.line }
        | none => .error (breakContinuation (s.advance 1))
      else .ok (if fixed == 0 then i else ⟨fixed, fixed⟩, s)
    | [] => .ok (if fixed == 0 then i else ⟨fixed, fixed⟩, s)

/-- The dedents from the levels down to a width, and the levels that are left. -/
def dedents (s : Cursor) (width : Nat) : List Indentation → List Token × List Indentation
  | [] => ([], [])
  | level :: levels =>
    if width < level.width then
      let (tokens, left) := dedents s width levels
      (mark .dedent s :: tokens, left)
    else ([], level :: levels)

/-- Stops because of the indentation of a line. -/
def refuseIndentation (s : Cursor) (cause : Cause) : Token :=
  let s := s.atLineEnd
  stop s (s.faultAt cause s.position.line
    (if cause = .unindentMismatch then s.position.offset else 1))

/-- The indent or the dedents at the beginning of a line. -/
def indent (i : Indentation) (s : Cursor) : Except Token (List Token × Cursor) :=
  let level := s.levels.head?.getD {}
  if i.width == level.width then
    if i.narrow == level.narrow then .ok ([], s) else .error (s.refuseIndentation .mixedTabs)
  else if level.width < i.width then
    if s.levels.length ≥ levelLimit then .error (s.refuseIndentation .indentsTooDeep)
    -- What is further in with wide tabs must be so with narrow ones.
    else if i.narrow ≤ level.narrow then .error (s.refuseIndentation .mixedTabs)
    else .ok ([mark .indent s], { s with levels := i :: s.levels })
  else
    let (tokens, levels) := dedents s i.width s.levels
    let level := levels.head?.getD {}
    if i.width != level.width then .error (s.refuseIndentation .unindentMismatch)
    else if i.narrow != level.narrow then .error (s.refuseIndentation .mixedTabs)
    else .ok (tokens, { s with levels := levels })

/-! ## Lexemes -/

/-- Goes over `n` characters and gives them as a token, with the cursor after it. -/
def take (s : Cursor) (kind : TokenKind) (n : Nat) : List Token × Option Cursor :=
  let t := s.advance n
  ([token kind (s.rest.take n) s t], some t)

/-- Stops with a refusal of a lexeme that starts at the cursor. -/
def refuseLexeme (s : Cursor) (r : Refusal) : List Token × Option Cursor :=
  match r with
  | (cause, some n) => ([(s.advance n).refuse cause], none)
  | (cause, none) =>
    ([mark (.broken {
      fault := { Fault.inLine cause s.position.line 0 with
        column := .exactly (s.position.offset + 1) }
      isUrgent := true }) s], none)

/-- A bracket: an opening one is noted, a closing one has to fit the last one noted. -/
def bracket (s : Cursor) (c : Char) : List Token × Option Cursor :=
  let t := s.advance 1
  if c == '(' || c == '[' || c == '\x7b' then
    if s.brackets.length ≥ bracketLimit then ([t.refuse .bracketsTooDeep], none)
    else { t with brackets := ⟨c, s.position⟩ :: s.brackets } |> fun t =>
      ([token .operator [c] s t], some t)
  else
    match s.brackets with
    | [] => ([t.refuse (.unmatched c)], none)
    | b :: rest =>
      if (b.char, c) ∈ [('(', ')'), ('[', ']'), ('\x7b', '\x7d')] then
        let t := { t with brackets := rest }
        ([token .operator [c] s t], some t)
      else
        -- The line of the opening bracket is told only if it is another one.
        let line := if b.position.line = s.position.line then none else some b.position.line
        ([t.refuse (.mismatched c b.char line)], none)

/-- A text that starts at the cursor, after `letters` letters of its own. -/
def quotation (s : Cursor) (letters : Nat) : List Token × Option Cursor :=
  let cs := s.rest.drop letters
  let quote := cs.head?.getD '"'
  match Quotation.length quote cs with
  | .ok n => s.take .text (letters + n)
  | .error n =>
    let line := (s.advance (letters + n)).position.line
    let cause := if Quotation.quotesOf quote cs == 3 then Cause.unterminatedLongText line
      else .unterminatedText line
    ([mark (.broken {
      fault := .inLine cause s.position.line (s.position.offset + 1), isUrgent := true }) s], none)

/-- The lexeme at the cursor; `c` is its first character. -/
def lexeme (s : Cursor) (c : Char) : List Token × Option Cursor :=
  match Quotation.letters? s.rest with
  | some letters => s.quotation letters.length
  | none =>
    if isWordStart c then
      match wordLength s.rest with
      | .error r => s.refuseLexeme r
      | .ok n => s.take (if isKeyword (s.rest.take n) then .keyword else .name) n
    -- A point begins a numeral only before a digit.
    else if c.isDigit || (c == '.' && (s.rest.drop 1).head?.any Char.isDigit) then
      match Numeral.length s.rest with
      | .error r => s.refuseLexeme r
      | .ok n => s.take .numeral n
    else if "()[]\x7b\x7d".toList.contains c then s.bracket c
    else if !Text.isPrintable c then s.refuseLexeme (.nonPrintable c, some 1)
    else s.take .operator (operatorLength s.rest)

/-- The end of a line, from the cursor `s` on; the cursor `t` is before the line end itself. -/
def lineEnd (s t : Cursor) (isBlank : Bool) : List Token × Option Cursor :=
  let next := t.advance 1
  -- Behind the last line the place stays in that line.
  let firstLine := if next.rest.isEmpty then t.firstLine else next.position.line
  let next := { next with atLineStart := true, firstLine := firstLine }
  if isBlank || !s.brackets.isEmpty then ([], some next)
  else ([token .newline [] s t], some next)

/-- White space, the comment after it, and the lexeme or the line end after that. -/
def lexemeOrEnd (s : Cursor) (isBlank : Bool) : List Token × Option Cursor :=
  let s := s.advance (s.rest.takeWhile (fun c => c == ' ' || c == '\t' || c == '\x0c')).length
  let t := if s.rest.head? == some '#' then
    s.advance (s.rest.takeWhile (· != '\n')).length else s
  match t.rest with
  | [] => ([t.finish], none)
  | '\n' :: _ => lineEnd s t isBlank
  | '\\' :: _ =>
    match (t.advance 1).continued? with
    | some next => ([], some next)
    | none => ([breakContinuation (t.advance 1)], none)
  | c :: _ => t.lexeme c

/-- The tokens of one step, and the cursor after it unless the last token was among them. -/
def step (s : Cursor) : List Token × Option Cursor :=
  if s.atLineStart then
    match measure 0 {} (s.rest.length + 1) s with
    | .error t => ([t], none)
    | .ok (i, s) =>
      let s := { s with atLineStart := false }
      -- Lines without a lexeme do not count for the indentation.
      let isBlank := s.rest.head? == some '#' || s.rest.head? == some '\n'
      if isBlank || !s.brackets.isEmpty then s.lexemeOrEnd isBlank
      else
        match s.indent i with
        | .error t => ([t], none)
        | .ok (tokens, s) =>
          let (more, next) := s.lexemeOrEnd false
          (tokens ++ more, next)
  else s.lexemeOrEnd false

/-- The tokens from a cursor on.  Every step goes over a character or stops. -/
def tokens : Nat → Cursor → List Token
  | 0, s => [s.finish]
  | fuel + 1, s =>
    match s.step with
    | (ts, none) => ts
    | (ts, some next) => ts ++ tokens fuel next

end Cursor

/-- The tokens of a readable text. -/
def tokenize (cs : List Char) : List Token := Cursor.tokens (cs.length + 1) { rest := cs }

end SpriteStage.Script
