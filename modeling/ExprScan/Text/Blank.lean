import ExprScan.Text.CharRange

/-!
# Blank characters

White space in the sense of Unicode, a larger class than the blanks between tokens. Names given
as options lose it at both ends, lines of the listing at their end.
-/

namespace ExprScan.Text

/-- The characters with the property White_Space. -/
def blankRanges : List CharRange :=
  [⟨0x09, 0x0D, 1⟩, ⟨0x20, 0x20, 1⟩, ⟨0x85, 0x85, 1⟩, ⟨0xA0, 0xA0, 1⟩, ⟨0x1680, 0x1680, 1⟩,
   ⟨0x2000, 0x200A, 1⟩, ⟨0x2028, 0x2029, 1⟩, ⟨0x202F, 0x202F, 1⟩, ⟨0x205F, 0x205F, 1⟩,
   ⟨0x3000, 0x3000, 1⟩]

/-- Whether a character is white space. -/
def isBlank (c : Char) : Bool := inRanges blankRanges c

/-- A text without its longest run of characters of a class at the end. -/
def dropEndWhile (p : Char → Bool) (cs : List Char) : List Char := (cs.reverse.dropWhile p).reverse

/-- A text without white space at its end. -/
def trimEnd (cs : List Char) : List Char := dropEndWhile isBlank cs

/-- A text without white space at both ends. -/
def trim (cs : List Char) : List Char := trimEnd (cs.dropWhile isBlank)

end ExprScan.Text
