/-!
# Spans that do not fit a text

Taking a span out of a text fails in three ways, tested in this order: the span runs backwards, it
goes past the end, or one of its ends lies inside a character.
-/

namespace ExprScan

/-- Why a span cannot be taken out of a text. -/
inductive SourceError where
  /-- The span starts after its end. -/
  | reversed (start stop : Nat)
  /-- The span ends past the end of a text of `size` bytes. -/
  | outOfBounds (size start stop : Nat)
  /-- An end of the span lies inside a character. -/
  | insideCharacter (start stop : Nat)
  deriving DecidableEq, Repr

namespace SourceError

/-- What is wrong, as a sentence. -/
def message : SourceError → String
  | .reversed start stop =>
    "Invalid span: start " ++ toString start ++ " > end " ++ toString stop
  | .outOfBounds size start stop =>
    "Span out of bounds: source has " ++ toString size ++ " bytes, span is " ++
      toString start ++ ".." ++ toString stop
  | .insideCharacter start stop =>
    "Span " ++ toString start ++ ".." ++ toString stop ++ " is not on character boundaries"

/-- The fields of the error, for a developer. -/
def describe : SourceError → String
  | .reversed start stop =>
    "InvalidSpan \x7b start: " ++ toString start ++ ", end: " ++ toString stop ++ " \x7d"
  | .outOfBounds size start stop =>
    "SpanOutOfBounds \x7b len: " ++ toString size ++ ", start: " ++ toString start ++
      ", end: " ++ toString stop ++ " \x7d"
  | .insideCharacter start stop =>
    "NotCharBoundary \x7b start: " ++ toString start ++ ", end: " ++ toString stop ++ " \x7d"

end SourceError

end ExprScan
