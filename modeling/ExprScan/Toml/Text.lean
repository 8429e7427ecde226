import ExprScan.Toml.Blank

/-!
# Strings and keys

Strings stand between double quotes, with escapes, or between single quotes, without any. Between
three quotes a string may have several lines; a line end right after the opening quotes does not
count, and in the escaped form a backslash at the end of a line drops the line end and the blanks
that follow. Up to two quotes may stand anywhere in such a string, also before the closing ones.
-/

namespace ExprScan.Toml

open Reader

/-! ### Escapes -/

/-- The value of a hexadecimal digit. -/
def hexValue (c : Char) : Nat :=
  if c ≤ '9' then c.toNat - '0'.toNat
  else if c ≤ 'F' then c.toNat - 'A'.toNat + 10
  else c.toNat - 'a'.toNat + 10

/-- Whether a character is a digit in some base up to 16. -/
def isDigitOf (base : Nat) (c : Char) : Bool :=
  (('0' ≤ c && c ≤ '9') || ('A' ≤ c && c ≤ 'F') || ('a' ≤ c && c ≤ 'f')) && hexValue c < base

/-- The number that digits stand for. -/
def numberOf (base : Nat) (digits : List Char) : Nat :=
  digits.foldl (fun n c => n * base + hexValue c) 0

/-- A character given by `n` hexadecimal digits, if they are the number of one. -/
def codePoint (n : Nat) : Reader Char := do
  let value := numberOf 16 (← exactly (isDigitOf 16) n)
  if value.isValidChar then return Char.ofNat value else failure

/-- The character that an escape stands for, after the backslash. -/
def escape : Reader Char := do
  let c ← satisfy fun _ => true
  if c == 'b' then return '\x08'
  else if c == 't' then return '\t'
  else if c == 'n' then return '\n'
  else if c == 'f' then return '\x0c'
  else if c == 'r' then return '\r'
  else if c == '\x22' then return '\x22'
  else if c == '\\' then return '\\'
  else if c == 'u' then codePoint 4
  else if c == 'U' then codePoint 8
  else failure

/-! ### Strings on one line -/

/-- A string with escapes. -/
def basicString : Reader (List Char) := do
  char '\x22'
  let body ← many (either
    (satisfy fun c => isPlain c && c != '\x22' && c != '\\')
    (do char '\\'; escape))
  char '\x22'
  return body

/-- A string without escapes. -/
def literalString : Reader (List Char) := do
  char '\x27'
  let body ← run fun c => isPlain c && c != '\x27'
  char '\x27'
  return body

/-! ### Strings on several lines -/

/-- One or two quotes that do not close the string. -/
def innerQuotes (quote : Char) : Reader (List Char) := fun cs =>
  let quotes := cs.takeWhile (· == quote)
  if quotes.length = 1 ∨ quotes.length = 2 then some (quotes, cs.dropWhile (· == quote)) else none

/-- Three quotes that close the string, with up to two before them that belong to it. -/
def closingQuotes (quote : Char) : Reader (List Char) := fun cs =>
  let quotes := cs.takeWhile (· == quote)
  if 3 ≤ quotes.length ∧ quotes.length ≤ 5 then
    some (quotes.drop 3, cs.dropWhile (· == quote))
  else none

/-- A line end, which counts as a line feed. -/
def lineFeed : Reader (List Char) := do
  newline
  return ['\n']

/-- A backslash at the end of a line: it drops all blanks and line ends that follow. -/
def lineContinuation : Reader (List Char) := do
  char '\\'
  blanks
  newline
  let _ ← many (either (do let _ ← satisfy isBlank) newline)
  return []

/-- A string of several lines whose pieces are read by a given reader. -/
def multilineString (quote : Char) (piece : Reader (List Char)) : Reader (List Char) := do
  chars [quote, quote, quote]
  let _ ← attempt newline
  let body ← many (either piece (either lineFeed (innerQuotes quote)))
  let last ← closingQuotes quote
  return body.flatten ++ last

/-- A string of several lines with escapes. -/
def multilineBasic : Reader (List Char) :=
  multilineString '\x22' (either
    (run1 fun c => isPlain c && c != '\x22' && c != '\\')
    (either lineContinuation (do char '\\'; return [← escape])))

/-- A string of several lines without escapes. -/
def multilineLiteral : Reader (List Char) :=
  multilineString '\x27' (run1 fun c => isPlain c && c != '\x27')

/-- A string in one of the four forms. -/
def string : Reader String :=
  String.ofList <$>
    either multilineBasic (either multilineLiteral (either basicString literalString))

/-! ### Keys -/

/-- A character that a key may have without quotes. -/
def isKeyChar (c : Char) : Bool :=
  ('a' ≤ c && c ≤ 'z') || ('A' ≤ c && c ≤ 'Z') || ('0' ≤ c && c ≤ '9') || c == '_' || c == '-'

/-- One part of a key. -/
def keyPart : Reader String :=
  String.ofList <$> either (run1 isKeyChar) (either basicString literalString)

/-- Nesting, of keys as well as of lists and tables, stays below this limit. -/
def nestingLimit : Nat := 80

/-- A key: one or more parts with dots between them. -/
def key : Reader (List String) := do
  let parts ← sepBy1 (do blanks; let part ← keyPart; blanks; return part) (char '.')
  if parts.length < nestingLimit then return parts else failure

end ExprScan.Toml
