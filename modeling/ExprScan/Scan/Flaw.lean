import ExprScan.Diagnostic.Basic
import ExprScan.Text.Utf8

/-!
# Flaws of tokens

What scanning can find wrong with a token, said without reference to where the token stands. With
the token's offset and text, a flaw becomes a diagnostic.
-/

namespace ExprScan

/-- What can be wrong with a token. -/
inductive Flaw where
  /-- A hexadecimal number has no digit. -/
  | noHexDigit
  /-- A point has no digit after it. -/
  | noDigit
  /-- The bracket of a parameter is not closed. -/
  | openBracket
  /-- The quote of a string is not closed. -/
  | openString
  /-- An accessor ends in a dot. -/
  | hangingDot
  /-- The field that starts at byte `place` of an accessor is not exported. -/
  | hiddenField (place : Nat) (field : String)
  deriving DecidableEq, Repr

namespace Flaw

/-- The code under which a flaw is reported. -/
def code : Flaw → Code
  | .noHexDigit => .invalidHex
  | .noDigit => .invalidNumber
  | .openBracket => .unclosedBracket
  | .openString => .unterminatedString
  | .hangingDot => .hangingAccessor
  | .hiddenField .. => .unexportedField

/-- What is wrong, for a token with the given text. -/
def message (text : String) : Flaw → String
  | .noHexDigit => "hexadecimal digit expected"
  | .noDigit => "numeric literal expected"
  | .openBracket => "unclosed parameter bracket"
  | .openString => "unclosed string literal"
  | .hangingDot => "hanging accessor on token `" ++ text ++ "`"
  | .hiddenField _ field =>
    "unable to access unexported field '" ++ field ++ "' in token '" ++ text ++ "'"

/-- How to mend it, where there is advice to give. -/
def helps : Flaw → List String
  | .hangingDot => ["remove the trailing `.` or name a field after it"]
  | .hiddenField .. => ["exported fields start with an upper-case letter"]
  | _ => []

/-- The bytes that a flaw is about: the field that is not exported, or else the whole token. -/
def span (start : Nat) (text : String) : Flaw → Span
  | .hiddenField place field => ⟨start + place, start + place + Text.size field⟩
  | _ => ⟨start, start + Text.size text⟩

/-- The report of a flaw, for a token with the given offset and text. -/
def diagnostic (start : Nat) (text : String) (f : Flaw) : Diagnostic :=
  ⟨.error, f.message text, f.span start text, some f.code, f.helps⟩

end Flaw

end ExprScan
