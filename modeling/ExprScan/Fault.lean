/-!
# Faults

An operation on offsets has a precondition, and a caller that breaks it gets a fault instead of a
result. A fault is never a property of the scanned text: scanning itself raises none.
-/

namespace ExprScan

/-- How a precondition on offsets can be broken. -/
inductive Fault where
  /-- A range would start after its end. -/
  | reversed
  /-- A range would end after the end of the text. -/
  | pastEnd
  /-- An offset lies inside a character. -/
  | insideCharacter
  /-- An offset would leave 64 bits. -/
  | overflow
  /-- A column lies further to the right than any text goes. -/
  | outOfReach
  deriving DecidableEq, Repr

end ExprScan
