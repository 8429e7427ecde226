import ExprScan.Text.Pad

/-!
# Codes of diagnostics

A code is a letter for the series and a number, written with at least four digits. Scanning uses
six codes.
-/

namespace ExprScan

/-- The code of a diagnostic. -/
structure Code where
  /-- The letters before the number. -/
  series : String
  /-- The number within the series. -/
  number : Nat
  deriving DecidableEq, Repr

namespace Code

/-- A code as written: the series, then the number with at least four digits. -/
def render (c : Code) : String :=
  c.series ++ String.ofList (Text.padLeft 4 '0' (Text.decimal c.number))

/-- A hexadecimal number without a digit. -/
def invalidHex : Code := ⟨"E", 1001⟩

/-- A point without a digit after it. -/
def invalidNumber : Code := ⟨"E", 1002⟩

/-- A parameter whose bracket is not closed. -/
def unclosedBracket : Code := ⟨"E", 1003⟩

/-- A string whose quote is not closed. -/
def unterminatedString : Code := ⟨"E", 1004⟩

/-- An accessor that ends in a dot. -/
def hangingAccessor : Code := ⟨"E", 1005⟩

/-- An accessor that names a field that is not exported. -/
def unexportedField : Code := ⟨"E", 1006⟩

end Code

end ExprScan
