import ExprScan.Diagnostic.Code
import ExprScan.Span

/-!
# Diagnostics

A diagnostic says what is wrong, where, and how to mend it.
-/

namespace ExprScan

/-- How grave a diagnostic is. -/
inductive Level where
  /-- The text is wrong. -/
  | error
  /-- There is advice to give. -/
  | help
  deriving DecidableEq, Repr

/-- The word for a level. -/
def Level.label : Level → String
  | .error => "error"
  | .help => "help"

/-- Whether the level is that of an error. -/
def Level.isError : Level → Bool
  | .error => true
  | .help => false

/-- Something to say about a piece of text. -/
structure Diagnostic where
  /-- How grave it is. -/
  level : Level
  /-- What is wrong. -/
  message : String
  /-- The bytes that it is about. -/
  span : Span
  /-- The code, if it has one. -/
  code : Option Code
  /-- Advice, in the order in which it is shown. -/
  helps : List String
  deriving DecidableEq, Repr

namespace Diagnostic

/-- An error without code and advice. -/
def error (message : String) (span : Span) : Diagnostic := ⟨.error, message, span, none, []⟩

/-- The diagnostic moved to the right. -/
def shift (d : Diagnostic) (n : Nat) : Diagnostic := { d with span := d.span.shift n }

end Diagnostic

/-- An error in the making: where it is, its code and the advice may still be missing. -/
structure Draft where
  /-- What is wrong. -/
  message : String
  /-- The bytes that it is about. -/
  span : Span := .nowhere
  /-- The code, if it has one. -/
  code : Option Code := none
  /-- Advice, in the order in which it was given. -/
  helps : List String := []
  deriving DecidableEq, Repr

/-- The diagnostic, always an error. -/
def Draft.build (draft : Draft) : Diagnostic :=
  ⟨.error, draft.message, draft.span, draft.code, draft.helps⟩

end ExprScan
