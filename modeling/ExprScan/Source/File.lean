import ExprScan.Source.Error
import ExprScan.Span
import ExprScan.Text.Blank
import ExprScan.Text.Quoted
import ExprScan.Text.Utf8

/-!
# Source files and their lines

A source file is a named text with a table of the offsets at which its lines start. Lines end at a
line feed. From the table, an offset gets its line and column, and a line its text.

## The model

The table is computed once and is part of the file; a proof field says that it is the table of the
content. A line is found in it by halving, which is right because the line starts increase.
-/

namespace ExprScan

/-! ### The line table -/

/-- The offsets just after the line feeds of a text that itself starts at `offset`. -/
def lineStartsAfter (offset : Nat) : List Char → List Nat
  | [] => []
  | c :: cs =>
    if c == '\n' then (offset + c.utf8Size) :: lineStartsAfter (offset + c.utf8Size) cs
    else lineStartsAfter (offset + c.utf8Size) cs

/-- The offsets at which the lines of a text start. The first line starts at 0. -/
def lineTable (content : String) : Array Nat := (0 :: lineStartsAfter 0 content.toList).toArray

/-- The last index from `low` and before `high` at which a table of increasing numbers has a number
of at most `n`, provided that the number at `low` is one. -/
def lastAtMost (table : Array Nat) (n low high : Nat) : Nat :=
  if high ≤ low + 1 then low
  else if table.getD ((low + high) / 2) 0 ≤ n then lastAtMost table n ((low + high) / 2) high
  else lastAtMost table n low ((low + high) / 2)
termination_by high - low

/-! ### Files -/

/-- A place in a text for people: both numbers start at 1. -/
structure Position where
  /-- The number of the line. -/
  line : Nat
  /-- The number of the character within the line. -/
  column : Nat
  deriving DecidableEq, Repr

/-- A named text with its line table. -/
structure SourceFile where
  /-- The name under which the text is reported. -/
  name : String
  /-- The text. -/
  content : String
  /-- The offsets at which lines start. -/
  lineStarts : Array Nat
  /-- The table is that of the text. -/
  lineStarts_eq : lineStarts = lineTable content
  deriving DecidableEq, Repr

namespace SourceFile

/-- A file with its line table. -/
def ofContent (name content : String) : SourceFile := ⟨name, content, lineTable content, rfl⟩

/-- The number of bytes of the text. -/
def size (f : SourceFile) : Nat := Text.size f.content

/-- The number of lines: one more than there are line feeds. -/
def lineCount (f : SourceFile) : Nat := f.lineStarts.size

/-- The offset at which a line starts, counting lines from 0. -/
def lineStart? (f : SourceFile) (n : Nat) : Option Nat := f.lineStarts[n]?

/-- The index of the line that holds an offset. -/
def lineIndex (f : SourceFile) (offset : Nat) : Nat :=
  lastAtMost f.lineStarts offset 0 f.lineStarts.size

/-- The number of characters between two offsets, or of bytes if an offset is no boundary. -/
def columnsBetween (f : SourceFile) (start stop : Nat) : Nat :=
  match Text.slice? f.content start stop with
  | some piece => piece.length
  | none => stop - start

/-- The line and column of an offset. An offset past the end counts as the end. -/
def position (f : SourceFile) (offset : Nat) : Position :=
  let offset := min offset f.size
  let line := f.lineIndex offset
  ⟨line + 1, f.columnsBetween (f.lineStarts.getD line 0) offset + 1⟩

/-- Whether a character ends a line. -/
def isLineEnd (c : Char) : Bool := c == '\n' || c == '\r'

/-- The text of a line without what ends it, counting lines from 1. -/
def lineAt? (f : SourceFile) (n : Nat) : Option String :=
  if n = 0 then none
  else do
    let start ← f.lineStart? (n - 1)
    let stop := (f.lineStart? n).getD f.size
    let piece ← Text.slice? f.content start stop
    return String.ofList (Text.dropEndWhile isLineEnd piece.toList)

/-- The text that a span covers. -/
def extract (f : SourceFile) (s : Span) : Except SourceError String :=
  if s.stop < s.start then .error (.reversed s.start s.stop)
  else if f.size < s.stop then .error (.outOfBounds f.size s.start s.stop)
  else
    match Text.slice? f.content s.start s.stop with
    | some piece => .ok piece
    | none => .error (.insideCharacter s.start s.stop)

/-- The name and the number of lines, for a developer. -/
def describe (f : SourceFile) : String :=
  "SourceFile \x7b name: " ++ Text.quote f.name ++ ", line_count: " ++
    toString f.lineCount ++ " \x7d"

end SourceFile

end ExprScan
