/-!
# Character classes

The five classes that the scanning rules are written in. Outside ASCII every character is a
letter, except the byte order mark and the replacement character.
-/

namespace ExprScan.Text

/-- Blanks between tokens: tab, line feed, vertical tab, form feed, carriage return, space. -/
def isSpace (c : Char) : Bool := c == ' ' || ('\t' ≤ c && c ≤ '\r')

/-- Letters start a word: those of ASCII, and all other characters outside ASCII but two. -/
def isLetter (c : Char) : Bool :=
  c.isAlpha || ('\x80' ≤ c && c != '\uFEFF' && c != '\uFFFD')

/-- The ten decimal digits of ASCII. -/
def isDigit (c : Char) : Bool := '0' ≤ c && c ≤ '9'

/-- The hexadecimal digits, in either case. -/
def isHexDigit (c : Char) : Bool :=
  isDigit c || ('a' ≤ c && c ≤ 'f') || ('A' ≤ c && c ≤ 'F')

/-- What may follow the first letter of a word. The dot is among them, so that a path through
fields is one word. -/
def isWordChar (c : Char) : Bool := isLetter c || isDigit c || c == '_' || c == '.'

/-! ### Classes as ranges of code points -/

theorem isSpace_iff {c : Char} :
    isSpace c = true ↔ c.toNat = 32 ∨ 9 ≤ c.toNat ∧ c.toNat ≤ 13 := by
  have hle : ('\t' ≤ c ∧ c ≤ '\r') ↔ 9 ≤ c.toNat ∧ c.toNat ≤ 13 := Iff.rfl
  have heq : c = ' ' ↔ c.toNat = 32 := Char.toNat_inj.symm
  simp only [isSpace, Bool.or_eq_true, Bool.and_eq_true, beq_iff_eq, decide_eq_true_eq, hle, heq]

theorem isDigit_iff {c : Char} : isDigit c = true ↔ 48 ≤ c.toNat ∧ c.toNat ≤ 57 := by
  rw [isDigit, Bool.and_eq_true, decide_eq_true_eq, decide_eq_true_eq]
  exact Iff.rfl

theorem toNat_of_isLetter {c : Char} (h : isLetter c = true) :
    65 ≤ c.toNat ∧ c.toNat ≤ 90 ∨ 97 ≤ c.toNat ∧ c.toNat ≤ 122 ∨ 128 ≤ c.toNat := by
  have hup : c.isUpper = true ↔ 65 ≤ c.toNat ∧ c.toNat ≤ 90 := decide_eq_true_iff
  have hlow : c.isLower = true ↔ 97 ≤ c.toNat ∧ c.toNat ≤ 122 :=
    (Bool.and_eq_true_iff).trans (and_congr decide_eq_true_iff decide_eq_true_iff)
  have halpha : c.isAlpha = (c.isUpper || c.isLower) := rfl
  have hwide : '\x80' ≤ c ↔ 128 ≤ c.toNat := Iff.rfl
  simp only [isLetter, halpha, Bool.or_eq_true, Bool.and_eq_true, hup, hlow,
    decide_eq_true_eq, hwide] at h
  omega

theorem isWordChar_iff {c : Char} :
    isWordChar c = true ↔ isLetter c = true ∨ isDigit c = true ∨ c = '_' ∨ c = '.' := by
  simp [isWordChar, or_assoc]

end ExprScan.Text
