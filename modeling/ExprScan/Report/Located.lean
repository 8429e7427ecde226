import ExprScan.Diagnostic.Basic
import ExprScan.Source.File
import ExprScan.Token.Basic

/-!
# Tokens and diagnostics with their places

For a report, tokens and diagnostics get the line and column at which they start, and diagnostics
the text that they are about. A diagnostic whose span does not fit the text has no such text, and
then there is no report at all.
-/

namespace ExprScan

/-- A token and where it stands. -/
structure LocatedToken where
  /-- The token. -/
  token : Token
  /-- Where it starts. -/
  position : Position
  deriving DecidableEq, Repr

/-- A diagnostic, where its span starts and what it covers. -/
structure LocatedDiagnostic where
  /-- The diagnostic. -/
  diagnostic : Diagnostic
  /-- Where its span starts. -/
  position : Position
  /-- The text that its span covers. -/
  text : String
  deriving DecidableEq, Repr

/-- The token with its place in a file. -/
def Token.locate (t : Token) (f : SourceFile) : LocatedToken := ⟨t, f.position t.offset⟩

/-- The diagnostic with its place in a file. -/
def Diagnostic.locate (d : Diagnostic) (f : SourceFile) : Except SourceError LocatedDiagnostic := do
  return ⟨d, f.position d.span.start, ← f.extract d.span⟩

/-- The diagnostics with their places, or the error of the first that does not fit. -/
def Diagnostic.locateAll (ds : List Diagnostic) (f : SourceFile) :
    Except SourceError (List LocatedDiagnostic) := ds.mapM (·.locate f)

end ExprScan
