import ExprScan.Command.Job
import ExprScan.CommandLine.Flag

/-!
# Reading the command line

Words are read from left to right: flags, the command, flags again and the expression. A question
for the version or for help ends the reading at once, an error before it excepted. In place of the
command, help can be asked for by a word, after which there is nothing but the command it is wanted
on. After two dashes on their own no word is a flag. What a flag does not say may come from the
environment, separately for the words before the command and for those after it.

## The model

A flag with its value in a word of its own stays pending until the next word is understood, and is
looked at only then. So a value that is not fit, right before the command, does not keep the
command from answering a question for the version.
-/

namespace ExprScan.CommandLine

/-- Why the reading ends before there is a request. -/
inductive Stop where
  /-- The words make no sense. -/
  | usage
  /-- Help is wanted. -/
  | help
  /-- The version is wanted, of a command if one was given. -/
  | version (command : Option Command)
  deriving DecidableEq, Repr

/-- What the environment says instead of flags. -/
structure Environment where
  /-- In place of `verbose`. -/
  verbose : Option String := none
  /-- In place of `config`. -/
  config : Option String := none
  /-- In place of `noColor`. -/
  noColor : Option String := none
  deriving DecidableEq, Repr

/-- What was read so far, before the command or after it. -/
structure Reading where
  /-- The flags with their values, in order. -/
  given : List (Flag × String) := []
  /-- A flag whose value was the last word. -/
  pending : Option (Flag × String) := none
  /-- The expression. -/
  expression : Option String := none
  deriving DecidableEq, Repr

namespace Reading

/-- The values of a flag, in order. -/
def values (r : Reading) (f : Flag) : List String :=
  (r.given.filter (·.1 == f)).map Prod.snd

/-- Whether a flag was given. -/
def has (r : Reading) (f : Flag) : Bool := r.given.any (·.1 == f)

/-- Notes a flag with a value, unless it is there already or the value is not fit. -/
def note (r : Reading) (f : Flag) (value : String) : Except Stop Reading :=
  if (r.has f && !f.isRepeatable) || !f.accepts value then .error .usage
  else .ok { r with given := r.given ++ [(f, value)] }

/-- Notes what is pending. -/
def settle (r : Reading) : Except Stop Reading :=
  match r.pending with
  | none => .ok r
  | some (f, value) => { r with pending := none }.note f value

/-- Notes a flag without a value, or answers it. -/
def raise (command : Option Command) (r : Reading) (f : Flag) : Except Stop Reading := do
  let r ← r.settle
  match f with
  | .help => throw .help
  | .version => throw (.version command)
  | f => r.note f ""

/-- Notes a flag with a value in the same word. -/
def attach (r : Reading) (f : Flag) (value : String) : Except Stop Reading := do
  let r ← r.settle
  r.note f value

/-- Notes the expression. There is at most one, and none before the command. -/
def operand (command : Option Command) (r : Reading) (word : String) : Except Stop Reading := do
  let r ← r.settle
  if command.isNone || r.expression.isSome then throw .usage
  return { r with expression := some word }

/-- A long flag, after its dashes. The flag is returned if it waits for its value. -/
def long (command : Option Command) (r : Reading) (word : List Char) :
    Except Stop (Reading × Option Flag) :=
  let name := String.ofList (word.takeWhile (· != '='))
  match Flag.ofLong? command name, word.dropWhile (· != '=') with
  | none, _ => throw .usage
  | some f, [] => do
    if f.takesValue then return (← r.settle, some f) else return (← r.raise command f, none)
  | some f, _ :: value => do
    if f.takesValue then return (← r.attach f (String.ofList value), none) else throw .usage

/-- Letters after a single dash. The first that takes a value takes the rest of the word, without
an equals sign at its front; if there is no rest, the flag is returned and waits for its value. -/
def cluster (command : Option Command) (r : Reading) :
    List Char → Except Stop (Reading × Option Flag)
  | [] => return (r, none)
  | letter :: rest =>
    match Flag.ofLetter? command letter with
    | none => throw .usage
    | some f =>
      if f.takesValue then
        match rest with
        | [] => do return (← r.settle, some f)
        | '=' :: value => do return (← r.attach f (String.ofList value), none)
        | value => do return (← r.attach f (String.ofList value), none)
      else do
        cluster command (← r.raise command f) rest

end Reading

/-- Whether a word is written like a flag. A single dash is not. -/
def isDashed : List Char → Bool
  | '-' :: _ :: _ => true
  | _ => false

/-- Whether the words after the word for help name something that there is help on. -/
def isTopic : List String → Bool
  | [] => true
  | [word] => word == "help" || (Command.ofLabel? word).isSome
  | _ => false

/-- Reads words up to a command, or to the end after a command. `literal` says whether two dashes
went before, `awaiting` is the flag that waits for its value. -/
def readWords (command : Option Command) :
    (literal : Bool) → (awaiting : Option Flag) → Reading → List String →
      Except Stop (Reading × Option (Command × List String))
  | _, some _, _, [] => throw .usage
  | _, none, r, [] => return (r, none)
  | literal, some f, r, word :: words =>
    if isDashed word.toList then throw .usage
    else readWords command literal none { r with pending := some (f, word) } words
  | true, none, r, word :: words => do
    readWords command true none (← r.operand command word) words
  | false, none, r, word :: words =>
    match if command.isNone then Command.ofLabel? word else none with
    | some found => return (r, some (found, words))
    | none =>
      match word.toList with
      | ['-', '-'] => readWords command true none r words
      | '-' :: '-' :: name => do
        let (r, awaiting) ← r.long command name
        readWords command false awaiting r words
      | '-' :: c :: cs => do
        let (r, awaiting) ← r.cluster command (c :: cs)
        readWords command false awaiting r words
      | _ => do
        if command.isNone && word == "help" then throw (if isTopic words then .help else .usage)
        readWords command false none (← r.operand command word) words

namespace Environment

/-- Whether a truth value from the environment is one, if there is one. -/
def isTruth : Option String → Bool
  | none => true
  | some value => value == "true" || value == "false"

/-- Whether what the environment says is fit, wherever the words do not say it. -/
def fits (env : Environment) (r : Reading) : Bool :=
  (r.has .verbose || isTruth env.verbose) && (r.has .noColor || isTruth env.noColor) &&
    (r.has .config || env.config.all (!·.isEmpty))

end Environment

/-- What is to be done. -/
structure Request where
  /-- The command. -/
  command : Command
  /-- The path of the configuration, if one is named. -/
  config : Option String
  /-- Where the source comes from. -/
  source : SourceChoice
  /-- The options for the scan and its report. -/
  options : Options
  deriving DecidableEq, Repr

/-- Where the source comes from, according to the words after the command. -/
def Reading.source (r : Reading) : SourceChoice := ⟨r.expression, (r.values .file).head?⟩

/-- The options in the words after the command. -/
def Reading.options (r : Reading) : Options where
  functions := r.values .function
  noValidate := r.has .noValidate
  format := (r.values .format).head?.bind Format.ofLabel?

/-- Notes what is pending and looks at the environment. -/
def Reading.close (env : Environment) (r : Reading) : Except Stop Reading := do
  let r ← r.settle
  if env.fits r then return r else throw .usage

/-- The request that the words make. A flag after the command counts more than one before it, and
both count more than the environment. -/
def parse (env : Environment) (words : List String) : Except Stop Request := do
  let (outer, found) ← readWords none false none {} words
  match found with
  | none => throw .usage
  | some (command, rest) =>
    let (inner, _) ← readWords (some command) false none {} rest
    let inner ← inner.close env
    if inner.source.expression.isSome == inner.source.file.isSome then throw .usage
    let outer ← outer.close env
    return {
      command
      config := ((inner.values .config).head?.or (outer.values .config).head?).or env.config
      source := inner.source
      options := inner.options }

end ExprScan.CommandLine
