import SpriteStage.Script.Literal
import SpriteStage.Value.Arithmetic

/-!
# The tree of a script

Expressions and statements with the stretches of text that they span.  What a program may use has
constructors of its own; the rest of the language keeps its form only, with those parts that tell
whether something can be assigned to it.
-/

namespace SpriteStage.Script

/-- The operators between two operands. -/
inductive Infix where
  | arithmetic (op : BinaryOp)
  | matrix
  | shiftLeft
  | shiftRight
  | bitOr
  | bitXor
  | bitAnd
  deriving DecidableEq, Repr

/-- The name of an operator that programs may not use, in messages. -/
def Infix.name : Infix → String
  | .arithmetic .add => "Add"
  | .arithmetic .sub => "Sub"
  | .arithmetic .mul => "Mult"
  | .arithmetic .div => "Div"
  | .arithmetic .floorDiv => "FloorDiv"
  | .arithmetic .mod => "Mod"
  | .arithmetic .pow => "Pow"
  | .matrix => "MatMult"
  | .shiftLeft => "LShift"
  | .shiftRight => "RShift"
  | .bitOr => "BitOr"
  | .bitXor => "BitXor"
  | .bitAnd => "BitAnd"

/-- The operators before one operand. -/
inductive Sign where
  | arithmetic (op : UnaryOp)
  | invert
  | negation
  deriving DecidableEq, Repr

/-- The name of an operator that programs may not use, in messages. -/
def Sign.name : Sign → String
  | .arithmetic .plus => "UAdd"
  | .arithmetic .minus => "USub"
  | .invert => "Invert"
  | .negation => "Not"

/-- The forms of expressions that no program may use. -/
inductive Form where
  | boolOp
  | namedExpr
  | ifExp
  | lambda
  | dict
  | set
  | listComp
  | setComp
  | dictComp
  | generator
  | yield
  | yieldFrom
  /-- A chain of comparisons, whose only part is the first operand; the flag tells whether the first
      operator is `in`. -/
  | compare (startsWithIn : Bool)
  | template
  | subscript
  | starred
  | list
  | tuple
  | slice
  deriving DecidableEq, Repr

/-- The name of a form in messages. -/
def Form.name : Form → String
  | .boolOp => "BoolOp"
  | .namedExpr => "NamedExpr"
  | .ifExp => "IfExp"
  | .lambda => "Lambda"
  | .dict => "Dict"
  | .set => "Set"
  | .listComp => "ListComp"
  | .setComp => "SetComp"
  | .dictComp => "DictComp"
  | .generator => "GeneratorExp"
  | .yield => "Yield"
  | .yieldFrom => "YieldFrom"
  | .compare _ => "Compare"
  | .template => "JoinedStr"
  | .subscript => "Subscript"
  | .starred => "Starred"
  | .list => "List"
  | .tuple => "Tuple"
  | .slice => "Slice"

/-- An argument after a name and `=`, or after `**`. -/
structure Keyword where
  /-- The name; nothing after `**`. -/
  name : Option String
  span : Span
  deriving DecidableEq, Repr

/-- An expression. -/
inductive Expr where
  | literal (value : Literal) (span : Span)
  | name (id : String) (span : Span)
  | sign (op : Sign) (operand : Expr) (span : Span)
  | binary (op : Infix) (left right : Expr) (span : Span)
  | attribute (owner : Expr) (name : String) (span : Span)
  | call (function : Expr) (arguments : List Expr) (keywords : List Keyword) (span : Span)
  | await (operand : Expr) (span : Span)
  | other (form : Form) (parts : List Expr) (span : Span)
  deriving Inhabited

/-- The stretch of text of an expression. -/
def Expr.span : Expr → Span
  | .literal _ s | .name _ s | .sign _ _ s | .binary _ _ _ s | .attribute _ _ s | .call _ _ _ s
  | .await _ s | .other _ _ s => s

/-- The forms of statements that no program may use. -/
inductive StmtForm where
  | functionDef
  | asyncFunctionDef
  | classDef
  | return
  | delete
  | assign
  | augAssign
  | annAssign
  | asyncFor
  | while
  | if
  | with
  | asyncWith
  | match
  | try
  | tryStar
  | assert
  | import
  | importFrom
  | global
  | nonlocal
  | break
  | continue
  deriving DecidableEq, Repr

/-- The name of a form in messages. -/
def StmtForm.name : StmtForm → String
  | .functionDef => "FunctionDef"
  | .asyncFunctionDef => "AsyncFunctionDef"
  | .classDef => "ClassDef"
  | .return => "Return"
  | .delete => "Delete"
  | .assign => "Assign"
  | .augAssign => "AugAssign"
  | .annAssign => "AnnAssign"
  | .asyncFor => "AsyncFor"
  | .while => "While"
  | .if => "If"
  | .with => "With"
  | .asyncWith => "AsyncWith"
  | .match => "Match"
  | .try => "Try"
  | .tryStar => "TryStar"
  | .assert => "Assert"
  | .import => "Import"
  | .importFrom => "ImportFrom"
  | .global => "Global"
  | .nonlocal => "Nonlocal"
  | .break => "Break"
  | .continue => "Continue"

/-- A statement. -/
inductive Stmt where
  | expr (value : Expr) (span : Span)
  | pass (span : Span)
  | loop (target range : Expr) (body otherwise : List Stmt) (span : Span)
  /-- The cause is what comes after `from`. -/
  | raise (exception cause : Option Expr) (span : Span)
  | other (form : StmtForm) (span : Span)
  deriving Inhabited

/-- The stretch of text of a statement. -/
def Stmt.span : Stmt → Span
  | .expr _ s | .pass s | .loop _ _ _ _ s | .raise _ _ s | .other _ s => s

/-! ## Expressions in messages -/

/-- How an expression is called where it cannot stand. -/
def Expr.called : Expr → String
  | .literal (.value .null) _ => "None"
  | .literal (.value (.bool b)) _ => if b then "True" else "False"
  | .literal .ellipsis _ => "ellipsis"
  | .literal _ _ => "literal"
  | .name _ _ => "name"
  | .sign _ _ _ | .binary _ _ _ _ => "expression"
  | .attribute _ _ _ => "attribute"
  | .call _ _ _ _ => "function call"
  | .await _ _ => "await expression"
  | .other form _ _ =>
    match form with
    | .boolOp => "expression"
    | .namedExpr => "named expression"
    | .ifExp => "conditional expression"
    | .lambda => "lambda"
    | .dict => "dict literal"
    | .set => "set display"
    | .listComp => "list comprehension"
    | .setComp => "set comprehension"
    | .dictComp => "dict comprehension"
    | .generator => "generator expression"
    | .yield | .yieldFrom => "yield expression"
    | .compare _ => "comparison"
    | .template => "f-string expression"
    | .subscript => "subscript"
    | .starred => "starred"
    | .list => "list"
    | .tuple => "tuple"
    | .slice => "slice"

/-- What a list of targets stands before. -/
inductive TargetUse where
  | assignment
  | deletion
  | iteration
  deriving DecidableEq, Repr

mutual

/-- The part of an expression that keeps it from being a target. -/
def Expr.intruder? (use : TargetUse) : Expr → Option Expr
  | .name .. | .attribute .. => none
  | .other .subscript .. => none
  | .other .list parts _ | .other .tuple parts _ => intruderOf? use parts
  | .other .starred parts s =>
    if use = .deletion then some (.other .starred parts s) else intruderOf? use parts
  | .other (.compare startsWithIn) parts s =>
    if use = .iteration then
      if startsWithIn then intruderOf? use parts else none
    else some (.other (.compare startsWithIn) parts s)
  | e => some e

/-- The first part of expressions that keeps them from being targets. -/
def Expr.intruderOf? (use : TargetUse) : List Expr → Option Expr
  | [] => none
  | e :: rest =>
    match e.intruder? use with
    | some part => some part
    | none => intruderOf? use rest

end

end SpriteStage.Script
