import ExprScan.Toml.Reader

/-!
# Blanks and comments

Blanks within a line are spaces and tabs. A comment goes from a number sign to the end of the
line; it holds no control character but the tab. A line ends in a line feed, with or without a
carriage return before it.
-/

namespace ExprScan.Toml

open Reader

/-- A blank within a line. -/
def isBlank (c : Char) : Bool := c == ' ' || c == '\t'

/-- A character that comments and strings can hold as it is: no control but the tab. -/
def isPlain (c : Char) : Bool := c == '\t' || (' ' ≤ c && c != '\x7f')

/-- Blanks within a line. -/
def blanks : Reader Unit := do let _ ← run isBlank

/-- The end of a line. -/
def newline : Reader Unit := either (char '\n') (chars ['\r', '\n'])

/-- A comment, without the end of its line. -/
def comment : Reader Unit := do
  char '#'
  let _ ← run isPlain

/-- The end of a statement: blanks, perhaps a comment, and the end of the line or of the text. -/
def lineEnd : Reader Unit := do
  blanks
  let _ ← attempt comment
  either newline atEnd

/-- What may stand around the items of a list: blanks, comments and ends of lines. -/
def gap : Reader Unit := do
  blanks
  let _ ← many do
    let _ ← attempt comment
    newline
    blanks

end ExprScan.Toml
