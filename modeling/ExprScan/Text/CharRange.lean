/-!
# Ranges of code points

Properties of characters that come from a table are written as lists of ranges. Letters of two
cases often alternate, so a range may take every second code point only.
-/

namespace ExprScan.Text

/-- The code points `first, first + step, …` up to `last`. -/
structure CharRange where
  /-- The least code point of the range. -/
  first : Nat
  /-- No code point of the range is greater. -/
  last : Nat
  /-- The distance between neighbours. -/
  step : Nat
  deriving DecidableEq, Repr

/-- Whether a character lies in the range. -/
def CharRange.contains (r : CharRange) (c : Char) : Bool :=
  r.first ≤ c.toNat && c.toNat ≤ r.last && (c.toNat - r.first) % r.step == 0

/-- Whether a character lies in one of the ranges. -/
def inRanges (rs : List CharRange) (c : Char) : Bool := rs.any (·.contains c)

end ExprScan.Text
