import SpriteStage.Program.Folding
import SpriteStage.Script.Remark
import SpriteStage.Value.Display

/-!
# Compiling scripts

A script becomes a program statement by statement: a call of an operation on the handle, a loop over a
range with constant bounds, or a `raise`.  Texts that stand alone and `pass` leave nothing behind.
Warnings are collected in order, also those before an error.
-/

namespace SpriteStage

/-- Compiling part of a script: it may warn, and it may fail. -/
abbrev Compiling := ExceptT CompileError (StateM (List Warning))

/-- Fails because of a part of the script. -/
def refuse {α : Type} (cause : RefusalCause) (span : Script.Span) : Compiling α :=
  throw (.refused cause span)

/-- Adds a warning. -/
def warn (w : Warning) : Compiling Unit := modify (· ++ [w])

/-- The number of integers from `start` on in steps of `step` that come before `stop`. -/
def rangeLength (start stop step : Int) : Nat :=
  if 0 < step then
    if start < stop then ((stop - start - 1) / step + 1).toNat else 0
  else
    if stop < start then ((start - stop - 1) / (-step) + 1).toNat else 0

/-- The bounds of a range, if they are integers. -/
def integers? : List Value → Option (List Int)
  | [] => some []
  | .int n :: rest => (integers? rest).map (n :: ·)
  | _ :: _ => none

/-- The length of the range with some bounds. -/
def rangeOf (span : Script.Span) (bounds : List Value) : Refusable Nat :=
  let length (start stop step : Int) : Refusable Nat :=
    let n := rangeLength start stop step
    if n ≤ Int64.maxValue.toInt then .ok n else .error (.operation .lengthRange)
  match integers? bounds with
  | some [stop] => length 0 stop 1
  | some [start, stop] => length start stop 1
  | some [start, stop, step] =>
    if step = 0 then .error (.refused .rangeStep span) else length start stop step
  | _ => .error (.refused .rangeBounds span)

/-- The number of rounds of a loop over an expression. -/
def rounds (scope : List String) (range : Script.Expr) : Refusable Nat :=
  match range with
  | .call (.name "range" _) arguments keywords span =>
    if !keywords.isEmpty then .error (.refused .rangeKeywords span)
    else if arguments.isEmpty || arguments.length > 3 then .error (.refused .rangeArguments span)
    else do rangeOf span (← arguments.mapM (constant scope))
  | range => .error (.refused .notRange range.span)

/-- The instruction of a call. -/
def callInstruction (handle : String) (scope : List String) (span : Script.Span)
    (function : Script.Expr) (arguments : List Script.Expr) (keywords : List Script.Keyword) :
    Refusable Instruction :=
  match function with
  | .attribute (.name owner _) name _ =>
    -- The owner is blamed before the name, and the name before the arguments.
    if owner ≠ handle then .error (.refused (.unknownHandle owner handle) span)
    else match Operation.ofName? name with
      | none => .error (.refused (.unknownOperation owner name) span)
      | some op =>
        if !keywords.isEmpty then .error (.refused (.operationKeywords owner name) span)
        else match arguments with
          | [argument] => (constant scope argument).map (.call op)
          | _ => .error (.refused (.operationArguments owner name) span)
  | _ => .error (.refused (.callForm handle) span)

/-- The instruction of a `raise`. -/
def failInstruction (scope : List String) (span : Script.Span) :
    Option Script.Expr → Refusable Instruction
  | none => .error (.refused .bareRaise span)
  | some (.name id _) => .ok (.fail id)
  | some (.call (.name id _) arguments keywords _) =>
    if !keywords.isEmpty || arguments.length > 1 then .error (.refused (.raiseArguments id) span)
    else match arguments with
      | [] => .ok (.fail id)
      | argument :: _ => do
        let v ← constant scope argument
        match v.plain with
        | .ok message => .ok (.fail message)
        | .error e => .error (.operation e)
  | some _ => .error (.refused .raiseForm span)

/-- The instruction of an expression that stands as a statement, unless it is a text alone. -/
def expressionInstruction (handle : String) (scope : List String) (span : Script.Span) :
    Script.Expr → Refusable (Option Instruction)
  | .literal (.value (.text _)) _ => .ok none
  | .await (.call function arguments keywords _) _ | .call function arguments keywords _ =>
    (callInstruction handle scope span function arguments keywords).map some
  | _ => .error (.refused .notCall span)

mutual

/-- The instruction of a statement inside loops with some variables. -/
def compileStmt (handle : String) (scope : List String) :
    Script.Stmt → Compiling (Option Instruction)
  | .pass _ => return none
  | .expr value span => liftExcept (expressionInstruction handle scope span value)
  | .raise exception _ span => liftExcept (some <$> failInstruction scope span exception)
  | .other form span => refuse (.statement form.name) span
  | .loop target range body otherwise span => do
    if !otherwise.isEmpty then refuse .loopElse span
    match target with
    | .name id _ =>
      -- The range is looked at before the body, but warned of after it.
      let times ← liftExcept (rounds scope range)
      let body ← compileStmts handle (id :: scope) body
      if times = 0 then warn (.emptyLoop span)
      return some (.loop (.int times) body)
    | _ => refuse .loopTarget span

/-- The instructions of statements. -/
def compileStmts (handle : String) (scope : List String) :
    List Script.Stmt → Compiling (List Instruction)
  | [] => return []
  | s :: rest => do
    let head ← compileStmt handle scope s
    return head.toList ++ (← compileStmts handle scope rest)

end

/-- The program of a script whose operations are called on `handle`. -/
def compileScript (handle : String) (script : List Script.Stmt) : Compiling Program := do
  let program ← compileStmts handle [] script
  if program.isEmpty then warn .noOperation
  return program

/-- The program that a text writes, and the warnings about it. -/
def compile (handle text : String) : Except CompileError Program × List Warning :=
  let cs := text.toList
  if cs.contains '\x00' then (.error .nullCharacter, [])
  else match Script.read cs with
    | .error fault => (.error (.script fault), [])
    | .ok script => (compileScript handle script).run []

/-- What is told while a text is compiled. -/
inductive Notice where
  /-- The reader remarks on a token. -/
  | remark (r : Script.Remark)
  /-- The compiler warns of a statement, or of the whole program. -/
  | warning (w : Warning)
  deriving DecidableEq, Repr

/-- All that is told while a text is compiled that can be read: first by the reader, then by the compiler. -/
def notices (handle text : String) : List Notice :=
  (Script.remarks text.toList).map .remark ++ (compile handle text).2.map .warning

end SpriteStage
