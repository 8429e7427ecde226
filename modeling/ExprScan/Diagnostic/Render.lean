import ExprScan.Diagnostic.Basic
import ExprScan.Diagnostic.Snippet
import ExprScan.Source.File

/-!
# Diagnostics as text

A diagnostic is shown as a block: a header with level, code and message, the place, the line of
source with carets under the span, and a line for each piece of advice. Blocks are separated by an
empty line.
-/

namespace ExprScan.Diagnostic

/-- The first line of a block. -/
def header (d : Diagnostic) : String :=
  match d.code with
  | some code => d.level.label ++ "[" ++ code.render ++ "]: " ++ d.message
  | none => d.level.label ++ ": " ++ d.message

/-- The line that names the place of a diagnostic. -/
def place (d : Diagnostic) (f : SourceFile) : String :=
  let p := f.position d.span.start
  "  --> " ++ f.name ++ ":" ++ toString p.line ++ ":" ++ toString p.column

/-- The line in which the span starts, with the columns that the span covers. A span that goes on
after the line is underlined to the end of the line. -/
def snippet? (d : Diagnostic) (f : SourceFile) : Option Snippet := do
  let start := f.position d.span.start
  let stop := f.position d.span.stop
  let text ← f.lineAt? start.line
  let endColumn := if stop.line = start.line then stop.column else text.length + 1
  return ⟨text, start.line, start.column, endColumn⟩

/-- The line for a piece of advice. -/
def helpLine (advice : String) : String := "  = " ++ Level.help.label ++ ": " ++ advice

/-- A diagnostic as a block of lines. -/
def render (d : Diagnostic) (f : SourceFile) : String :=
  d.header ++ "\n" ++ d.place f ++ "\n" ++
    ((d.snippet? f).elim "" fun s => s.rows ++ "\n") ++
    String.join (d.helps.map fun advice => helpLine advice ++ "\n")

/-- Several diagnostics, an empty line between two blocks. -/
def renderAll (ds : List Diagnostic) (f : SourceFile) : String :=
  String.intercalate "\n" (ds.map (·.render f))

end ExprScan.Diagnostic
