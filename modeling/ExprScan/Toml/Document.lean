import ExprScan.Toml.Number
import ExprScan.Toml.Table

/-!
# Documents

A document is a sequence of lines: assignments, and headers that open a table for the assignments
after them. A value is a string, a number, a truth value, a date, a list or a table on one line.
-/

namespace ExprScan.Toml

open Reader Config

/-! ### Values -/

/-- A truth value. -/
def boolean : Reader Bool :=
  either (do chars ['t', 'r', 'u', 'e']; return true)
    (do chars ['f', 'a', 'l', 's', 'e']; return false)

/-- A value that has no parts. -/
def simpleValue : Reader Value :=
  either (Value.text <$> string)
    (either (Value.bool <$> boolean)
      (either (do date; return .date) (do number; return .number)))

/-- A list, given how to read its items. A comma may follow the last one. -/
def list (item : Reader Value) : Reader Value := do
  char '['
  let items ← attempt (sepBy1 (do gap; let v ← item; gap; return v) (char ','))
  if items.isSome then
    let _ ← attempt (char ',')
  gap
  char ']'
  return .list (items.getD [])

/-- An assignment, given how to read its value. -/
def assignment (value : Reader Value) : Reader (List String × Value) := do
  let k ← key
  char '='
  blanks
  let v ← value
  return (k, v)

/-- A table on one line, given how to read its values. No comma follows the last one. -/
def inlineTable (value : Reader Value) : Reader Value := do
  char '\x7b'
  blanks
  let entry : Reader (List String × Value) := do
    let a ← assignment value
    blanks
    return a
  let assignments ← attempt (sepBy1 entry (char ','))
  char '\x7d'
  match Entries.assignAll [] (assignments.getD []) with
  | some es => return .table (entriesToValues es)
  | none => failure

/-- A value with lists and tables nested up to a depth. -/
def valueUpTo : Nat → Reader Value
  | 0 => simpleValue
  | depth + 1 =>
    either simpleValue (either (list (valueUpTo depth)) (inlineTable (valueUpTo depth)))

/-- A value. -/
def value : Reader Value := valueUpTo (nestingLimit - 1)

/-! ### Lines -/

/-- What opens a table for the assignments after it. -/
structure Header where
  /-- The parts of the name. -/
  path : List String
  /-- Whether it opens one more table each time it occurs. -/
  repeats : Bool

/-- A line that says something. -/
inductive Statement where
  /-- A value for a key. -/
  | assign (key : List String) (v : Value)
  /-- A header. -/
  | header (h : Header)

/-- A header. -/
def headerLine : Reader Statement :=
  either
    (do chars ['[', '[']; let path ← key; chars [']', ']']; return .header ⟨path, true⟩)
    (do char '['; let path ← key; char ']'; return .header ⟨path, false⟩)

/-- An assignment. -/
def assignmentLine : Reader Statement := do
  let (k, v) ← assignment value
  return .assign k v

/-- A line: empty, a comment, or a statement with what may follow it. -/
def line : Reader (Option Statement) := do
  blanks
  either
    (do
      let s ← either headerLine assignmentLine
      lineEnd
      return some s)
    (either
      (do newline; return none)
      (do comment; either newline atEnd; return none))

/-- All statements of a document. A byte order mark may stand before them. -/
def statements : Reader (List Statement) := do
  let _ ← attempt (char '\uFEFF')
  let lines ← many line
  blanks
  atEnd
  return lines.filterMap id

/-! ### Tables -/

/-- The assignments that follow a header, with the header. -/
structure Block where
  /-- What opens the block; nothing does for the first. -/
  opening : Option Header
  /-- The assignments in the block. -/
  assignments : List (List String × Value)

/-- Divides statements at the headers. The first block has none. -/
def blocks : List Statement → Block × List Block
  | [] => (⟨none, []⟩, [])
  | .assign k v :: rest =>
    let (first, others) := blocks rest
    ({ first with assignments := (k, v) :: first.assignments }, others)
  | .header h :: rest =>
    let (first, others) := blocks rest
    (⟨none, []⟩, { first with opening := some h } :: others)

/-- Adds a block to the tables of a document. -/
def addBlock (root : Entries) (b : Block) : Option Entries :=
  match b.opening with
  | none => root.assignAll b.assignments
  | some ⟨path, false⟩ => root.atHeader (declare b.assignments) path
  | some ⟨path, true⟩ => root.atHeader (declareNext b.assignments) path

/-- The table that a document describes, if it is a document. -/
def parse? (source : String) : Option Value := do
  let (ss, _) ← statements source.toList
  let (first, others) := blocks ss
  let root ← (first :: others).foldlM addBlock []
  return .table (entriesToValues root)

end ExprScan.Toml
