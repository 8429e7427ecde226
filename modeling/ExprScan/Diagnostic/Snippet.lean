import ExprScan.Fault
import ExprScan.Text.Pad

/-!
# Snippets

A line of source with its number, and a row of carets under the columns in question. Both rows
start with a gutter of the same width. Columns that come from a text are always within reach;
columns from elsewhere may be too far to the right for a row of carets.
-/

namespace ExprScan

/-- A line of source and the columns to underline. Columns start at 1. -/
structure Snippet where
  /-- The text of the line. -/
  line : String
  /-- The number of the line. -/
  lineNumber : Nat
  /-- The first column underlined. -/
  startColumn : Nat
  /-- The column just after the last one underlined. -/
  endColumn : Nat
  deriving DecidableEq, Repr

namespace Snippet

/-- What separates the gutter from the text. -/
def bar : List Char := [' ', '|', ' ']

/-- The number of characters before the bar: the digits of the line number, three at least. -/
def gutterWidth (s : Snippet) : Nat := max 3 (Text.decimal s.lineNumber).length

/-- The row that shows the line. -/
def sourceRow (s : Snippet) : List Char :=
  Text.padLeft s.gutterWidth ' ' (Text.decimal s.lineNumber) ++ bar ++ s.line.toList

/-- How many characters stand before the first caret. -/
def indent (s : Snippet) : Nat := s.startColumn - 1

/-- How many carets there are: one at least. -/
def caretCount (s : Snippet) : Nat := max 1 (s.endColumn - s.startColumn)

/-- The row of carets. -/
def caretRow (s : Snippet) : List Char :=
  List.replicate s.gutterWidth ' ' ++ bar ++ List.replicate s.indent ' ' ++
    List.replicate s.caretCount '^'

/-- The two rows. -/
def rows (s : Snippet) : String := String.ofList (s.sourceRow ++ ['\n'] ++ s.caretRow)

/-- A text has fewer bytes than this. -/
def textLimit : Nat := Nat.pow 2 63

/-- Whether the spaces before the carets, and the carets, are few enough for a text. -/
def isInReach (s : Snippet) : Bool := s.indent < textLimit && s.caretCount < textLimit

/-- The two rows, for columns that may come from anywhere. -/
def render (s : Snippet) : Except Fault String :=
  if s.isInReach then .ok s.rows else .error .outOfReach

end Snippet

end ExprScan
