import ExprScan.Config.Basic

/-!
# Flags

What can be given on the command line with a leading dash, by a long name after two dashes or by a
letter after one. Some flags are known before the command as well as after it, others only after
it.
-/

namespace ExprScan.CommandLine

/-- The commands. -/
inductive Command where
  /-- List the tokens of a source. -/
  | lex
  /-- Check a source. -/
  | check
  deriving DecidableEq, Repr

/-- The word for a command. -/
def Command.label : Command → String
  | .lex => "lex"
  | .check => "check"

/-- The command that a word stands for. -/
def Command.ofLabel? (word : String) : Option Command :=
  if word = "lex" then some .lex
  else if word = "check" then some .check
  else none

/-- What can be given with a leading dash. -/
inductive Flag where
  /-- Say more about the work. -/
  | verbose
  /-- The path of the configuration. -/
  | config
  /-- No colours in messages. -/
  | noColor
  /-- The path of the source. -/
  | file
  /-- One more name of a function. -/
  | function
  /-- No diagnostics. -/
  | noValidate
  /-- The format of the report. -/
  | format
  /-- How to use the program. -/
  | help
  /-- Which version the program is. -/
  | version
  deriving DecidableEq, Repr

namespace Flag

/-- Whether a flag is known only after the command. -/
def isLocal : Flag → Bool
  | .file | .function | .noValidate | .format => true
  | .verbose | .config | .noColor | .help | .version => false

/-- Whether a flag comes with a value. -/
def takesValue : Flag → Bool
  | .config | .file | .function | .format => true
  | .verbose | .noColor | .noValidate | .help | .version => false

/-- Whether a flag may be given more than once. -/
def isRepeatable : Flag → Bool
  | .function => true
  | _ => false

/-- Whether a value can be given to a flag: paths are not empty, and formats have names. -/
def accepts (value : String) : Flag → Bool
  | .config | .file => !value.isEmpty
  | .format => (Format.ofLabel? value).isSome
  | _ => true

/-- The long names. -/
def longNames : List (String × Flag) :=
  [("verbose", .verbose), ("config", .config), ("no-color", .noColor), ("file", .file),
   ("function", .function), ("no-validate", .noValidate), ("format", .format), ("help", .help),
   ("version", .version)]

/-- The letters. -/
def letters : List (Char × Flag) :=
  [('v', .verbose), ('c', .config), ('f', .file), ('F', .function), ('h', .help), ('V', .version)]

/-- Whether a flag is known at a place, given the command before it. -/
def isKnown (command : Option Command) (f : Flag) : Bool := command.isSome || !f.isLocal

/-- The flag of a long name. -/
def ofLong? (command : Option Command) (name : String) : Option Flag :=
  (longNames.lookup name).filter (·.isKnown command)

/-- The flag of a letter. -/
def ofLetter? (command : Option Command) (letter : Char) : Option Flag :=
  (letters.lookup letter).filter (·.isKnown command)

end Flag

end ExprScan.CommandLine
