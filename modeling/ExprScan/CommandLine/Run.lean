import ExprScan.CommandLine.Parse
import ExprScan.Config.Load

/-!
# Running a command

A command line is read, the configuration is loaded, the job is prepared and done. What is printed
and the exit code are the outcome; printing is left to the caller.
-/

namespace ExprScan.CommandLine

variable {m : Type → Type} [Monad m]

/-- How a run ends. -/
inductive Outcome where
  /-- The command line made no sense. -/
  | usageError
  /-- The command ran, or answered a question. -/
  | finished (exitCode : Nat) (out err : String)
  deriving DecidableEq, Repr

/-- What a job printed, and why it does not count as a success. -/
structure Result where
  /-- What goes to the standard output. -/
  out : String
  /-- What goes to the standard error output. -/
  err : String
  /-- What was found wrong. -/
  failure : Option Failure
  deriving DecidableEq, Repr

/-- A failure without output. -/
def Result.ofFailure (f : Failure) : Result := ⟨"", "", some f⟩

/-- Does a job. Listing never fails on account of the source; a check fails if it finds
problems. -/
def Command.execute (j : Job) : Command → Result
  | .lex =>
    match j.list with
    | .ok (out, err) => ⟨out, err, none⟩
    | .error f => .ofFailure f
  | .check =>
    match j.check with
    | .ok (out, count) => ⟨out, "", if 0 < count then some (.problems count) else none⟩
    | .error f => .ofFailure f

/-- The outcome of a result. Problems in the source have been printed already; any other failure
gets a line of its own. -/
def Result.outcome (r : Result) : Outcome :=
  match r.failure with
  | none => .finished 0 r.out r.err
  | some (.problems count) => .finished (Failure.exitCode (.problems count)) r.out r.err
  | some f => .finished f.exitCode r.out (r.err ++ "error: " ++ f.message ++ "\n")

/-- Does what is requested. The configuration is loaded before the source is read. -/
def Request.execute (r : Request) (host : Host m) (searchPaths : List String) : m Result := do
  let config ←
    match r.config with
    | some path => Config.loadFrom host path
    | none => Config.search host searchPaths
  match config with
  | .error f => return .ofFailure f
  | .ok config =>
    match ← Job.prepare host r.source r.options config with
    | .error f => return .ofFailure f
    | .ok job => return r.command.execute job

/-- The name of the program. -/
def programName : String := "govalt"

/-- The version of the program. -/
def programVersion : String := "0.0.3"

/-- The answer to a question for the version. -/
def versionLine (command : Option Command) : String :=
  programName ++ command.elim "" ("-" ++ ·.label) ++ " " ++ programVersion ++ "\n"

/-- The answer to a question for help. -/
def helpLine : String := "Usage: " ++ programName ++ " [OPTIONS] <COMMAND>\n"

/-- Runs a command line. -/
def run (host : Host m) (env : Environment) (searchPaths words : List String) : m Outcome := do
  match parse env words with
  | .error .usage => return .usageError
  | .error .help => return .finished 0 helpLine ""
  | .error (.version command) => return .finished 0 (versionLine command) ""
  | .ok request => return (← request.execute host searchPaths).outcome

end ExprScan.CommandLine
