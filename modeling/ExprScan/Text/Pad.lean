/-!
# Columns of fixed width

Fields are filled up with spaces, or numbers with zeros, to a least number of characters. A field
that is longer already stays as it is.
-/

namespace ExprScan.Text

/-- A text filled up on the left to a least number of characters. -/
def padLeft (width : Nat) (fill : Char) (cs : List Char) : List Char :=
  List.replicate (width - cs.length) fill ++ cs

/-- A text filled up with spaces on the right to a least number of characters. -/
def padRight (width : Nat) (cs : List Char) : List Char :=
  cs ++ List.replicate (width - cs.length) ' '

/-- A number in decimal. -/
def decimal (n : Nat) : List Char := Nat.toDigits 10 n

end ExprScan.Text
