import ExprScan.Source.Error

/-!
# Failures of a command

Why a command does not succeed, the message for it and the exit code. Problems found in the
scanned text are not failures of the tool: they have an exit code of their own.
-/

namespace ExprScan

/-- Why a command does not succeed. -/
inductive Failure where
  /-- The configuration cannot be used. -/
  | config (reason : String)
  /-- The source file cannot be read. -/
  | file (reason : String)
  /-- The options do not fit together. -/
  | validation (reason : String)
  /-- A check found problems. -/
  | problems (count : Nat)
  /-- Reading or writing failed. -/
  | io (reason : String)
  /-- A diagnostic does not fit its source. -/
  | source (error : SourceError)
  deriving DecidableEq, Repr

namespace Failure

/-- The failure as a sentence. -/
def message : Failure → String
  | .config reason => "Configuration error: " ++ reason
  | .file reason => "File operation failed: " ++ reason
  | .validation reason => "Validation error: " ++ reason
  | .problems count => toString count ++ " problem(s) found"
  | .io reason => "IO error: " ++ reason
  | .source error => "Source error: " ++ error.message

/-- The exit code of a command that fails: 1 for problems in the text, 2 for all else. -/
def exitCode : Failure → Nat
  | .problems _ => 1
  | _ => 2

end Failure

end ExprScan
