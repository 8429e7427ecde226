import ExprScan.Scan.NameSet

/-!
# Settings of a scan
-/

namespace ExprScan

/-- What a scan depends on besides the text. -/
structure Settings where
  /-- Whether diagnostics are reported. -/
  validate : Bool := true
  /-- The words that are names of functions. -/
  functions : NameSet := .empty
  deriving DecidableEq, Repr

namespace Settings

/-- Adds the name of a function. -/
def withFunction (s : Settings) (name : String) : Settings :=
  { s with functions := s.functions.insert name }

/-- Sets whether diagnostics are reported. -/
def withValidate (s : Settings) (validate : Bool) : Settings := { s with validate }

end Settings

end ExprScan
