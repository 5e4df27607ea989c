import SpriteStage.Program.Instruction
import SpriteStage.Script.Report

/-!
# Why a script is no program

A program is a script of few forms.  Each cause for which another script is refused is a constructor;
a refusal names the part of the script that it is about.
-/

namespace SpriteStage

/-- Why a part of a script cannot be part of a program. -/
inductive RefusalCause where
  -- Statements
  | statement (form : String)
  | notCall
  | callForm (handle : String)
  | unknownHandle (owner handle : String)
  | unknownOperation (owner name : String)
  | operationKeywords (owner name : String)
  | operationArguments (owner name : String)
  | loopElse
  | loopTarget
  | bareRaise
  | raiseArguments (name : String)
  | raiseForm
  -- Ranges
  | notRange
  | rangeKeywords
  | rangeArguments
  | rangeBounds
  | rangeStep
  -- Constants
  | constant (shown : String)
  | unaryOperator (name : String)
  | binaryOperator (name : String)
  | functionCall
  | loopVariable (name : String)
  | unknownVariable (name : String)
  | expression (form : String)
  | exponentSize
  | integerSize
  | textSize
  | formatting
  | operation (error : OperationError)
  deriving DecidableEq, Repr

/-- The wording of a cause. -/
def RefusalCause.message : RefusalCause → String
  | .statement form => s!"Unsupported statement: {form}"
  | .notCall => "Only runtime operation calls are allowed as expression statements."
  | .callForm handle =>
    s!"Unsupported call statement. Programs may only call {handle}.<operation>(...)."
  | .unknownHandle owner handle =>
    s!"Unknown runtime handle '{owner}'. Operations must be called on '{handle}'."
  | .unknownOperation owner name =>
    s!"Unsupported runtime operation '{owner}.{name}(...)'. Supported operations: " ++
      ", ".intercalate (Operation.all.map Operation.name) ++ "."
  | .operationKeywords owner name => s!"{owner}.{name}(...) does not accept keyword arguments."
  | .operationArguments owner name => s!"{owner}.{name}(...) expects exactly one argument."
  | .loopElse => "for-else is not supported."
  | .loopTarget => "for loop target must be a simple name."
  | .bareRaise => "Bare 'raise' is not supported."
  | .raiseArguments name => s!"raise {name}(...) accepts at most one message argument."
  | .raiseForm => "raise must name an exception, e.g. raise RuntimeError('...')."
  | .notRange => "for loops must iterate over range(...) with constant bounds."
  | .rangeKeywords => "range(...) does not accept keyword arguments."
  | .rangeArguments => "range(...) expects one to three arguments."
  | .rangeBounds => "range(...) arguments must be integer constants."
  | .rangeStep => "range(...) step must not be zero."
  | .constant shown => s!"Unsupported constant value: {shown}"
  | .unaryOperator name => s!"Unsupported unary operator: {name}"
  | .binaryOperator name => s!"Unsupported binary operator: {name}"
  | .functionCall =>
    "Function calls are not allowed in operation arguments " ++
      "(only float('nan') and float('inf') literals)."
  | .loopVariable name => s!"Loop variable '{name}' cannot be used in operation arguments."
  | .unknownVariable name => s!"Unknown variable '{name}'."
  | .expression form => s!"Unsupported expression: {form}"
  | .exponentSize => "Exponent is too large."
  | .integerSize => "Constant value is too large."
  | .textSize => "String constant is too long."
  | .formatting => "String formatting is not supported."
  | .operation e => s!"Invalid constant expression: {e.message}"

/-- Why a text is no program. -/
inductive CompileError where
  /-- The text is no script. -/
  | script (fault : Script.Fault)
  /-- A part of the script cannot be part of a program. -/
  | refused (cause : RefusalCause) (span : Script.Span)
  /-- A value that the program needs cannot be found. -/
  | operation (error : OperationError)
  /-- The text has a null character. -/
  | nullCharacter
  deriving DecidableEq

/-- The wording of an error in a text. -/
def CompileError.message (text : List Char) : CompileError → String
  | .script fault => fault.message text
  | .refused cause span => s!"{cause.message}\n{span.location text}"
  | .operation e => e.message
  | .nullCharacter => "source code string cannot contain null bytes"

/-- What is worth a warning in a program. -/
inductive Warning where
  /-- The loop goes no rounds. -/
  | emptyLoop (span : Script.Span)
  /-- The program has no instruction. -/
  | noOperation
  deriving DecidableEq, Repr

/-- The wording of a warning about a text. -/
def Warning.message (text : List Char) : Warning → String
  | .emptyLoop span =>
    s!"Loop body never executes because its range is empty.\n{span.location text}"
  | .noOperation =>
    "Program contains no runtime operations; running it only reports the initial sprite state."

end SpriteStage
