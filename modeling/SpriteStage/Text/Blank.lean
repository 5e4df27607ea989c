/-!
# Blanks and lines

Blanks are the characters that stripping removes; line ends are the characters that split a text
into lines.  Both sets go beyond ASCII.
-/

namespace SpriteStage.Text

/-- Whether a character is blank: the ASCII controls from tab to carriage return and from file to
    unit separator, the spaces of Unicode, and its next-line, line and paragraph separators. -/
def isBlank (c : Char) : Bool :=
  let n := c.toNat
  (9 ≤ n && n ≤ 13) || (0x1C ≤ n && n ≤ 0x20) || n == 0x85 || n == 0xA0 || n == 0x1680
    || (0x2000 ≤ n && n ≤ 0x200A) || n == 0x2028 || n == 0x2029 || n == 0x202F || n == 0x205F
    || n == 0x3000

/-- Every whitespace character of ASCII is blank. -/
theorem isBlank_of_isWhitespace {c : Char} (h : c.isWhitespace = true) : isBlank c = true := by
  simp only [Char.isWhitespace, Bool.or_eq_true, decide_eq_true_eq] at h
  rcases h with ((h | h) | h) | h <;> subst h <;> decide

/-- The characters without the blanks at both ends. -/
def stripList (cs : List Char) : List Char :=
  ((cs.dropWhile isBlank).reverse.dropWhile isBlank).reverse

/-- A text without the blanks at both ends. -/
def strip (s : String) : String := String.ofList (stripList s.toList)

/-- Whether a character ends a line.  A carriage return with a line feed is one end. -/
def isLineEnd (c : Char) : Bool :=
  let n := c.toNat
  (10 ≤ n && n ≤ 13) || (0x1C ≤ n && n ≤ 0x1E) || n == 0x85 || n == 0x2028 || n == 0x2029

/-- The lines of a text without their ends, `line` being the reversed beginning of the first one.
    A last line is there only if it has a character. -/
def linesFrom (line : List Char) : List Char → List (List Char)
  | [] => if line.isEmpty then [] else [line.reverse]
  | '\r' :: '\n' :: rest => line.reverse :: linesFrom [] rest
  | c :: rest => if isLineEnd c then line.reverse :: linesFrom [] rest else linesFrom (c :: line) rest

/-- The lines of a text without their ends. -/
def lines (s : String) : List (List Char) := linesFrom [] s.toList

/-- Line ends of the three usual kinds, `\r\n`, `\r` and `\n`, all written as `\n`. -/
def unifyNewlines : List Char → List Char
  | [] => []
  | '\r' :: '\n' :: rest => '\n' :: unifyNewlines rest
  | '\r' :: rest => '\n' :: unifyNewlines rest
  | c :: rest => c :: unifyNewlines rest

/-- The physical lines of a text with their ends; only `\r\n`, `\r` and `\n` end one. -/
def physicalLinesFrom (line : List Char) : List Char → List (List Char)
  | [] => if line.isEmpty then [] else [line.reverse]
  | '\r' :: '\n' :: rest => ('\n' :: '\r' :: line).reverse :: physicalLinesFrom [] rest
  | '\r' :: rest => ('\r' :: line).reverse :: physicalLinesFrom [] rest
  | '\n' :: rest => ('\n' :: line).reverse :: physicalLinesFrom [] rest
  | c :: rest => physicalLinesFrom (c :: line) rest

/-- The physical lines of a text with their ends. -/
def physicalLines (s : String) : List (List Char) := physicalLinesFrom [] s.toList

/-- The physical lines of a text put together are the text. -/
theorem flatten_physicalLinesFrom (line cs : List Char) :
    (physicalLinesFrom line cs).flatten = line.reverse ++ cs := by
  fun_induction physicalLinesFrom line cs <;> simp_all

end SpriteStage.Text
