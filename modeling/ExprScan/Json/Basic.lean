import ExprScan.Text.Pad
import ExprScan.Text.Quoted

/-!
# JSON output

The values that reports are made of, and their two layouts: all on one line, or one item on a line
with two spaces for each level. The fields of an object keep their order.
-/

namespace ExprScan

/-- A JSON value, of the kinds that reports use. -/
inductive Json where
  /-- A number. -/
  | num (n : Nat)
  /-- A string. -/
  | str (s : String)
  /-- A list of values. -/
  | arr (items : List Json)
  /-- Named values in order. -/
  | obj (fields : List (String × Json))
  deriving Inhabited

namespace Json

/-! ### Strings -/

/-- A character as it stands in a JSON string: the quote, the backslash and the controls are
escaped, five of these by a letter. -/
def escapeChar (c : Char) : List Char :=
  if c == '\x22' then ['\\', '\x22']
  else if c == '\\' then ['\\', '\\']
  else if c == '\n' then ['\\', 'n']
  else if c == '\r' then ['\\', 'r']
  else if c == '\t' then ['\\', 't']
  else if c == '\x08' then ['\\', 'b']
  else if c == '\x0c' then ['\\', 'f']
  else if c < ' ' then ['\\', 'u'] ++ Text.padLeft 4 '0' (Text.hexadecimal c.toNat)
  else [c]

/-- A string between quotes. -/
def quote (s : String) : String :=
  String.ofList (['\x22'] ++ s.toList.flatMap escapeChar ++ ['\x22'])

/-! ### One line -/

mutual

/-- A value on one line, without blanks. -/
def compact : Json → String
  | .num n => toString n
  | .str s => quote s
  | .arr items => "[" ++ compactItems items ++ "]"
  | .obj fields => "\x7b" ++ compactFields fields ++ "\x7d"

/-- Items with commas between them. -/
def compactItems : List Json → String
  | [] => ""
  | [v] => v.compact
  | v :: vs => v.compact ++ "," ++ compactItems vs

/-- Fields with commas between them. -/
def compactFields : List (String × Json) → String
  | [] => ""
  | [(k, v)] => quote k ++ ":" ++ v.compact
  | (k, v) :: fs => quote k ++ ":" ++ v.compact ++ "," ++ compactFields fs

end

/-! ### Many lines -/

/-- A new line at a level of nesting. -/
def newline (level : Nat) : String := String.ofList ('\n' :: List.replicate (2 * level) ' ')

mutual

/-- A value at a level of nesting, an item on a line. A list or an object without items takes no
lines. -/
def pretty (level : Nat) : Json → String
  | .num n => toString n
  | .str s => quote s
  | .arr items =>
    if items.isEmpty then "[]"
    else "[" ++ prettyItems (level + 1) items ++ newline level ++ "]"
  | .obj fields =>
    if fields.isEmpty then "\x7b\x7d"
    else "\x7b" ++ prettyFields (level + 1) fields ++ newline level ++ "\x7d"

/-- Items, each on a new line. -/
def prettyItems (level : Nat) : List Json → String
  | [] => ""
  | [v] => newline level ++ v.pretty level
  | v :: vs => newline level ++ v.pretty level ++ "," ++ prettyItems level vs

/-- Fields, each on a new line. -/
def prettyFields (level : Nat) : List (String × Json) → String
  | [] => ""
  | [(k, v)] => newline level ++ quote k ++ ": " ++ v.pretty level
  | (k, v) :: fs =>
    newline level ++ quote k ++ ": " ++ v.pretty level ++ "," ++ prettyFields level fs

end

end Json

end ExprScan
