import ExprScan.Text.Shown

/-!
# Quoted text

A text between double quotes on one line: the quote and the backslash are escaped, four controls
have an escape of one letter or digit, and any other character that does not show on its own is
written by its code point in hexadecimal.
-/

namespace ExprScan.Text

/-- A number in lower-case hexadecimal, without leading zeros. -/
def hexadecimal (n : Nat) : List Char := Nat.toDigits 16 n

/-- A character as it stands between double quotes. -/
def quoteChar (c : Char) : List Char :=
  if c == '\x00' then ['\\', '0']
  else if c == '\t' then ['\\', 't']
  else if c == '\r' then ['\\', 'r']
  else if c == '\n' then ['\\', 'n']
  else if c == '\\' then ['\\', '\\']
  else if c == '\x22' then ['\\', '\x22']
  else if isShown c then [c]
  else ['\\', 'u', '\x7b'] ++ hexadecimal c.toNat ++ ['\x7d']

/-- A text between double quotes. -/
def quote (s : String) : String :=
  String.ofList (['\x22'] ++ s.toList.flatMap quoteChar ++ ['\x22'])

end ExprScan.Text
