import ExprScan.Config.Basic
import ExprScan.Failure
import ExprScan.Text.Blank

/-!
# Options over a configuration

Options add to the settings of a configuration: names of functions, without white space around
them, and the wish not to validate. A name of white space only is refused, wherever it stands.
-/

namespace ExprScan

/-- What options say about a scan and its report. -/
structure Options where
  /-- More names of functions. -/
  functions : List String := []
  /-- Whether diagnostics are unwanted. -/
  noValidate : Bool := false
  /-- The format of the report, if one is chosen. -/
  format : Option Format := none
  deriving DecidableEq, Repr

namespace Options

/-- Adds the name of a function, without white space around it. -/
def addFunction (s : Settings) (name : String) : Except Failure Settings :=
  let trimmed := String.ofList (Text.trim name.toList)
  if trimmed.isEmpty then .error (.validation "empty function name")
  else .ok (s.withFunction trimmed)

/-- The settings with what the options add. -/
def apply (o : Options) (s : Settings) : Except Failure Settings := do
  let s ← o.functions.foldlM addFunction s
  return if o.noValidate then s.withValidate false else s

end Options

end ExprScan
