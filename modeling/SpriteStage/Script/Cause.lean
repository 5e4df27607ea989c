import SpriteStage.Value.Error

/-!
# Why a text is no script

The causes for which the lexer and the grammar refuse a text, and their wording.
-/

namespace SpriteStage.Script

/-- The kinds of numerals that are told apart in messages. -/
inductive Radix where
  | decimal
  | hexadecimal
  | octal
  | binary
  | imaginary
  deriving DecidableEq, Repr

/-- The name of a kind of numerals. -/
def Radix.name : Radix → String
  | .decimal => "decimal"
  | .hexadecimal => "hexadecimal"
  | .octal => "octal"
  | .binary => "binary"
  | .imaginary => "imaginary"

/-- Why a text is no script. -/
inductive Cause where
  -- Characters
  | nonPrintable (c : Char)
  | invalidCharacter (c : Char)
  | invalidNumeral (radix : Radix)
  | invalidDigit (digit : Char) (radix : Radix)
  | leadingZeros
  | numeralTooLong (digits : Nat)
  | unterminatedText (line : Nat)
  | unterminatedLongText (line : Nat)
  | afterContinuation
  | unexpectedEnd
  -- Brackets
  | unclosed (bracket : Char)
  | unmatched (bracket : Char)
  /-- The opening bracket's line is named if it is another one. -/
  | mismatched (closing opening : Char) (line : Option Nat)
  | bracketsTooDeep
  -- Indentation
  | unexpectedIndent
  | unexpectedUnindent
  | unindentMismatch
  | mixedTabs
  | indentsTooDeep
  /-- The body of a statement is missing; `what` is how the statement is called. -/
  | missingBlock (what : String) (line : Nat)
  | missingSomeBlock
  -- Texts
  | mixedBytes
  | nonAsciiBytes
  | undecodableText (reason : String)
  | undecodableBytes (position : Nat)
  -- Grammar
  | invalid
  | expected (token : String)
  | forgottenComma
  | missingElse
  | missingParentheses (name : String)
  | missingHandler
  | mixedHandlers
  | missingHandlerTypes
  | unparenthesizedHandlers
  | positionalAfterKeyword
  | positionalAfterUnpacking
  | iterableAfterUnpacking
  | unparenthesizedGenerator
  | equalityInArgument
  | assignmentInArgument
  | assignTo (target : String)
  | assignToHere (target : String)
  | assignToYield
  | equalityExpected
  | deleteOf (target : String)
  | augmentedTarget (target : String)
  | annotatedTarget (target : String)
  | annotatedGroup
  | namedTarget (target : String)
  | starredComprehension
  | unparenthesizedTarget
  | unpackedComprehension
  | starredGroup
  | doubleStarredGroup
  | trailingComma
  | missingValue
  | missingColon
  | starredValue
  | nonDefaultAfterDefault
  | bareStar
  deriving DecidableEq, Repr

/-- The code point of a character in at least four hexadecimal digits. -/
def codePoint (c : Char) : String :=
  let digits := (Nat.toDigits 16 c.toNat).map Char.toUpper
  String.ofList (List.replicate (4 - digits.length) '0' ++ digits)

/-- The wording of a cause. -/
def Cause.message : Cause → String
  | .nonPrintable c => s!"invalid non-printable character U+{codePoint c}"
  | .invalidCharacter c => s!"invalid character '{c}' (U+{codePoint c})"
  | .invalidNumeral radix => s!"invalid {radix.name} literal"
  | .invalidDigit digit radix => s!"invalid digit '{digit}' in {radix.name} literal"
  | .leadingZeros => 
    "leading zeros in decimal integer literals are not permitted; use an 0o prefix for octal " ++
      "integers"
  | .numeralTooLong digits =>
    (OperationError.digitCount digits).message ++ " - Consider hexadecimal for huge integer " ++
      "literals to avoid decimal conversion limits."
  | .unterminatedText line => s!"unterminated string literal (detected at line {line})"
  | .unterminatedLongText line =>
    s!"unterminated triple-quoted string literal (detected at line {line})"
  | .afterContinuation => "unexpected character after line continuation character"
  | .unexpectedEnd => "unexpected EOF while parsing"
  | .unclosed bracket => s!"'{bracket}' was never closed"
  | .unmatched bracket => s!"unmatched '{bracket}'"
  | .mismatched closing opening line =>
    s!"closing parenthesis '{closing}' does not match opening parenthesis '{opening}'" ++
      (match line with
        | some line => s!" on line {line}"
        | none => "")
  | .bracketsTooDeep => "too many nested parentheses"
  | .unexpectedIndent => "unexpected indent"
  | .unexpectedUnindent => "unexpected unindent"
  | .unindentMismatch => "unindent does not match any outer indentation level"
  | .mixedTabs => "inconsistent use of tabs and spaces in indentation"
  | .indentsTooDeep => "too many levels of indentation"
  | .missingBlock what line => s!"expected an indented block after {what} on line {line}"
  | .missingSomeBlock => "expected an indented block"
  | .mixedBytes => "cannot mix bytes and nonbytes literals"
  | .nonAsciiBytes => "bytes can only contain ASCII literal characters"
  | .undecodableText reason => s!"(unicode error) 'unicodeescape' codec can't decode {reason}"
  | .undecodableBytes position => s!"(value error) invalid \\x escape at position {position}"
  | .invalid => "invalid syntax"
  | .expected token => s!"expected '{token}'"
  | .forgottenComma => "invalid syntax. Perhaps you forgot a comma?"
  | .missingElse => "expected 'else' after 'if' expression"
  | .missingParentheses name =>
    s!"Missing parentheses in call to '{name}'. Did you mean {name}(...)?"
  | .missingHandler => "expected 'except' or 'finally' block"
  | .mixedHandlers => "cannot have both 'except' and 'except*' on the same 'try'"
  | .missingHandlerTypes => "expected one or more exception types"
  | .unparenthesizedHandlers => "multiple exception types must be parenthesized"
  | .positionalAfterKeyword => "positional argument follows keyword argument"
  | .positionalAfterUnpacking => "positional argument follows keyword argument unpacking"
  | .iterableAfterUnpacking => "iterable argument unpacking follows keyword argument unpacking"
  | .unparenthesizedGenerator => "Generator expression must be parenthesized"
  | .equalityInArgument => "expression cannot contain assignment, perhaps you meant \"==\"?"
  | .assignmentInArgument | .equalityExpected =>
    "invalid syntax. Maybe you meant '==' or ':=' instead of '='?"
  | .assignTo target => s!"cannot assign to {target}"
  | .assignToHere target =>
    s!"cannot assign to {target} here. Maybe you meant '==' instead of '='?"
  | .assignToYield => "assignment to yield expression not possible"
  | .deleteOf target => s!"cannot delete {target}"
  | .augmentedTarget target => s!"'{target}' is an illegal expression for augmented assignment"
  | .annotatedTarget target => s!"only single target (not {target}) can be annotated"
  | .annotatedGroup => "illegal target for annotation"
  | .namedTarget target => s!"cannot use assignment expressions with {target}"
  | .starredComprehension => "iterable unpacking cannot be used in comprehension"
  | .unparenthesizedTarget => "did you forget parentheses around the comprehension target?"
  | .unpackedComprehension => "dict unpacking cannot be used in dict comprehension"
  | .starredGroup => "cannot use starred expression here"
  | .doubleStarredGroup => "cannot use double starred expression here"
  | .trailingComma => "trailing comma not allowed without surrounding parentheses"
  | .missingValue => "expression expected after dictionary key and ':'"
  | .missingColon => "':' expected after dictionary key"
  | .starredValue => "cannot use a starred expression in a dictionary value"
  | .nonDefaultAfterDefault => "non-default argument follows default argument"
  | .bareStar => "named arguments must follow bare *"

end SpriteStage.Script
