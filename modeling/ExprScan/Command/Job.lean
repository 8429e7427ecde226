import ExprScan.Command.Options
import ExprScan.Diagnostic.Render
import ExprScan.Host.Basic
import ExprScan.Report.Encoding
import ExprScan.Report.Listing
import ExprScan.Scan.Tokenize

/-!
# Jobs

A job is a source with settings and a format. It can be done in two ways: the tokens are listed,
or the source is checked. Listing succeeds whatever the source; a check finds problems or none.
-/

namespace ExprScan

variable {m : Type → Type} [Monad m]

/-- Where the source comes from. -/
structure SourceChoice where
  /-- The source itself. -/
  expression : Option String := none
  /-- The path of a file that holds the source. -/
  file : Option String := none
  deriving DecidableEq, Repr

/-- The name of a source that is no file. -/
def inlineName : String := "<expr>"

/-- Reads the source. There must be exactly one. -/
def SourceChoice.load (c : SourceChoice) (host : Host m) : m (Except Failure SourceFile) :=
  match c.expression, c.file with
  | some text, none => return .ok (.ofContent inlineName text)
  | none, some path => do
    match ← host.read path with
    | .ok text => return .ok (.ofContent path text)
    | .error e => return .error (.file (path ++ ": " ++ e.message))
  | _, _ => return .error (.validation "pass either an expression or --file, not both")

/-- A source, how to scan it and how to report. -/
structure Job where
  /-- The source. -/
  file : SourceFile
  /-- How to scan it. -/
  settings : Settings
  /-- How to report. -/
  format : Format
  deriving DecidableEq, Repr

namespace Job

/-- Makes a job out of a choice of source, options and a configuration. The source is read before
the options are looked at. -/
def prepare (host : Host m) (source : SourceChoice) (options : Options) (config : Config) :
    m (Except Failure Job) := do
  match ← source.load host with
  | .error e => return .error e
  | .ok file =>
    match options.apply config.settings with
    | .error e => return .error e
    | .ok settings => return .ok ⟨file, settings, options.format.getD config.format⟩

/-- The outcome of the scan. -/
def scan (j : Job) : Scan := tokenize j.settings j.file.content

/-- The diagnostics with their places. -/
def located (j : Job) : Except Failure (List LocatedDiagnostic) :=
  (Diagnostic.locateAll j.scan.diagnostics j.file).mapError .source

/-- What the listing prints on the standard output and on the standard error output. -/
def list (j : Job) : Except Failure (String × String) :=
  let tokens := j.scan.tokens.map (·.locate j.file)
  match j.format with
  | .text => return (listing tokens, Diagnostic.renderAll j.scan.diagnostics j.file)
  | .json => do
    let ds ← j.located
    return ((listingReport j.file.name tokens ds).pretty 0 ++ "\n", "")

/-- What the check prints, and the number of problems. -/
def check (j : Job) : Except Failure (String × Nat) := do
  let out ←
    match j.format with
    | .text =>
      pure (if j.scan.isClean then j.file.name ++ ": ok\n"
        else Diagnostic.renderAll j.scan.diagnostics j.file)
    | .json => do
      let ds ← j.located
      pure ((checkReport j.file.name ds).pretty 0 ++ "\n")
  return (out, j.scan.diagnostics.length)

end Job

end ExprScan
