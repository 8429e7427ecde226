import ExprScan.Report.Located
import ExprScan.Text.Blank
import ExprScan.Text.Pad

/-!
# The listing of tokens

One line for each token: its place, its label and its text, the first two in columns of fixed
width. White space at the end of a line is dropped, also if it belongs to the token.
-/

namespace ExprScan

/-- A place as line and column with a colon between them. -/
def Position.render (p : Position) : List Char :=
  Text.decimal p.line ++ [':'] ++ Text.decimal p.column

/-- The line for a token. -/
def LocatedToken.line (t : LocatedToken) : List Char :=
  Text.trimEnd (Text.padRight 8 t.position.render ++
    Text.padRight 12 t.token.kind.label.toList ++ t.token.text.toList)

/-- The lines for tokens, each ended by a line feed. -/
def listing (ts : List LocatedToken) : String :=
  String.ofList (ts.flatMap fun t => t.line ++ ['\n'])

end ExprScan
