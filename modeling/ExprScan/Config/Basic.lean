import ExprScan.Config.Value
import ExprScan.Scan.Settings

/-!
# Configurations

A configuration has the settings of the scan and the format of reports. It is decoded from a table
of tables: names that are not known are ignored, those that are missing get their defaults, and a
value of the wrong kind makes the whole configuration invalid. A record may also be written as the
list of its fields in order.
-/

namespace ExprScan

/-- The formats of reports. -/
inductive Format where
  /-- Lines for people. -/
  | text
  /-- One object for programs. -/
  | json
  deriving DecidableEq, Repr

/-- The word for a format. -/
def Format.label : Format → String
  | .text => "text"
  | .json => "json"

/-- The format that a word stands for. -/
def Format.ofLabel? (word : String) : Option Format :=
  if word = "text" then some .text
  else if word = "json" then some .json
  else none

/-- What can be configured. -/
structure Config where
  /-- The settings of the scan. -/
  settings : Settings := {}
  /-- The format of reports. -/
  format : Format := .text
  deriving DecidableEq, Repr

namespace Config

/-! ### Decoding -/

/-- A truth value. -/
def Value.bool? : Value → Option Bool
  | .bool b => some b
  | _ => none

/-- A text. -/
def Value.text? : Value → Option String
  | .text s => some s
  | _ => none

/-- The items of a list. -/
def Value.list? : Value → Option (List Value)
  | .list items => some items
  | _ => none

/-- The fields of a record, given their names in order. A date is a record too, but none of its
fields has a name that a setting could have. -/
def Value.record? (dialect : Dialect) (names : List String) :
    Value → Option (List (String × Value))
  | .table entries => some entries
  | .date => some []
  | .list items =>
    if dialect.spareItems || items.length ≤ names.length then some (names.zip items) else none
  | _ => none

/-- A field of a record, or a default if the record has none of this name. -/
def field {α : Type} (fields : List (String × Value)) (name : String)
    (decode : Value → Option α) (default : α) : Option α :=
  match fields.lookup name with
  | some v => decode v
  | none => some default

/-- The names in a list of texts. -/
def decodeNames (v : Value) : Option NameSet := do
  let items ← v.list?
  return .ofList (← items.mapM Value.text?)

/-- The settings in a record. -/
def decodeSettings (dialect : Dialect) (v : Value) : Option Settings := do
  let fields ← v.record? dialect ["validate", "functions"]
  let validate ← field fields "validate" Value.bool? true
  let functions ← field fields "functions" decodeNames .empty
  return { validate, functions }

/-- A format, as its word or as a table from its word to nothing. -/
def decodeFormat (dialect : Dialect) : Value → Option Format
  | .text word => Format.ofLabel? word
  | .table [(word, v)] => if dialect.isNothing v then Format.ofLabel? word else none
  | _ => none

/-- The format in the record of what concerns output. -/
def decodeOutput (dialect : Dialect) (v : Value) : Option Format := do
  let fields ← v.record? dialect ["format"]
  field fields "format" (decodeFormat dialect) .text

/-- The configuration in a record. -/
def decode (dialect : Dialect) (v : Value) : Option Config := do
  let fields ← v.record? dialect ["lexer", "output"]
  let settings ← field fields "lexer" (decodeSettings dialect) {}
  let format ← field fields "output" (decodeOutput dialect) .text
  return { settings, format }

end Config

end ExprScan
