import ExprScan.Span
import ExprScan.Text.Utf8
import ExprScan.Token.Kind

/-!
# Tokens

A token is a piece of text with its kind and the offset of its first byte. Offsets are numbers of
64 bits: a token made by hand near the upper limit may have no end.
-/

namespace ExprScan

/-- A piece of text, what it is and where it stands. -/
structure Token where
  /-- What the token is. -/
  kind : Kind
  /-- The text of the token, as written. -/
  text : String
  /-- The byte offset at which the text starts. -/
  offset : Nat
  deriving DecidableEq, Repr

/-- Offsets lie below this limit. -/
def offsetLimit : Nat := Nat.pow 2 64

namespace Token

/-- The number of bytes of the text. -/
def size (t : Token) : Nat := Text.size t.text

/-- The offset just after the text. -/
def stop (t : Token) : Except Fault Nat :=
  if t.offset + t.size < offsetLimit then .ok (t.offset + t.size) else .error .overflow

/-- The bytes that the token covers. -/
def span (t : Token) : Except Fault Span := do Span.between t.offset (← t.stop)

/-- Whether the token marks the end of the text. -/
def isEnd (t : Token) : Bool := t.kind == .endOfText

/-- The token moved to the right. -/
def shift (t : Token) (n : Nat) : Token := { t with offset := t.offset + n }

/-- A token in one line: its label, its text between backquotes, its place. -/
def render (t : Token) : Except Fault String := do
  return t.kind.label ++ " `" ++ t.text ++ "` at " ++ (← t.span).render

end Token

end ExprScan
