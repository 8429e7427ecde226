import ExprScan.Fault
import ExprScan.Text.Utf8

/-!
# A cursor over a text

A cursor stands at a byte offset of a text and moves by characters. Counts and distances are in
characters, positions in bytes. Moving past either end stops there, and reading past either end
gives `Cursor.nothing`, a character that the text itself may hold as well.

## The model

A cursor is the text with a position. What lies before and after the position is recovered by a
cut of the text, so that a cursor whose position is no character boundary has no such parts. All
operations keep a cursor on a boundary; `seek` and `substring`, which take offsets from the caller,
refuse the others.
-/

namespace ExprScan

/-- A byte position in a text. -/
structure Cursor where
  /-- The text. -/
  source : String
  /-- The byte offset at which the cursor stands. -/
  position : Nat
  deriving DecidableEq, Repr

namespace Cursor

/-- What reading gives where there is no character. -/
def nothing : Char := '\x00'

/-- A cursor at the start of a text. -/
def ofString (source : String) : Cursor := ⟨source, 0⟩

/-! ### Views -/

/-- The number of bytes of the text. -/
def size (c : Cursor) : Nat := Text.size c.source

/-- Whether the text has no character. -/
def isEmpty (c : Cursor) : Bool := c.source.isEmpty

/-- Whether the cursor stands at the end of the text. -/
def atEnd (c : Cursor) : Bool := c.size ≤ c.position

/-- The characters before the cursor. -/
def before (c : Cursor) : List Char := ((Text.slice? c.source 0 c.position).getD "").toList

/-- The text from the cursor to the end. -/
def remaining (c : Cursor) : String := (Text.slice? c.source c.position c.size).getD ""

/-- The characters from the cursor on. -/
def after (c : Cursor) : List Char := c.remaining.toList

/-- A cursor that stands between two characters, or at an end of the text. -/
def OnBoundary (c : Cursor) : Prop := Text.isBoundary c.source c.position = true

/-- A decomposition of the text at the position is what lies before and after the cursor. -/
theorem before_after_eq {c : Cursor} {before after : List Char}
    (h : c.source.toList = before ++ after) (hb : Text.byteLength before = c.position) :
    c.before = before ∧ c.after = after := by
  have h₁ : Text.slice? c.source 0 c.position = some (String.ofList before) := by
    have h' : c.source.toList = [] ++ (before ++ after) := h
    simpa [hb] using Text.slice?_of_toList h'
  have hsize : c.size = c.position + Text.byteLength after := by
    rw [size, ← Text.byteLength_toList, h, Text.byteLength_append, hb]
  have h₂ : Text.slice? c.source c.position c.size = some (String.ofList after) := by
    have h' : c.source.toList = before ++ (after ++ []) := by rw [List.append_nil, h]
    simpa [hb, hsize] using Text.slice?_of_toList h'
  rw [Cursor.before, Cursor.after, remaining, h₁, h₂]
  simp

theorem OnBoundary.of_eq {c : Cursor} {before after : List Char}
    (h : c.source.toList = before ++ after) (hb : Text.byteLength before = c.position) :
    c.OnBoundary := by
  rw [OnBoundary, ← hb]
  exact Text.isBoundary_of_toList h

/-- The text between two offsets, which must be boundaries in order and within the text. -/
def substring (c : Cursor) (start stop : Nat) : Except Fault String :=
  if stop < start then .error .reversed
  else if c.size < stop then .error .pastEnd
  else
    match Text.slice? c.source start stop with
    | some piece => .ok piece
    | none => .error .insideCharacter

/-- The text from an offset to the cursor. -/
def sliceFrom (c : Cursor) (start : Nat) : Except Fault String := c.substring start c.position

/-! ### Reading -/

/-- The character that is `n` characters ahead. -/
def peek (c : Cursor) (n : Nat) : Char := c.after.getD n nothing

/-- The character at the cursor. -/
def current (c : Cursor) : Char := c.peek 0

/-- The character that lies `n` characters before the one just passed. -/
def lookBehind (c : Cursor) (n : Nat) : Char := c.before.reverse.getD n nothing

/-! ### Moving -/

/-- The cursor past some characters, which are those that follow it. -/
def skip (c : Cursor) (passed : List Char) : Cursor :=
  ⟨c.source, c.position + Text.byteLength passed⟩

/-- The cursor at an offset, or at the end if the offset is greater. -/
def seek (c : Cursor) (n : Nat) : Except Fault Cursor :=
  if Text.isBoundary c.source (min n c.size) then .ok ⟨c.source, min n c.size⟩
  else .error .insideCharacter

/-- The cursor `n` characters back, or at the start. -/
def rewind (c : Cursor) (n : Nat) : Cursor :=
  ⟨c.source, c.position - Text.byteLength (c.before.reverse.take n)⟩

/-- The cursor `n` characters on, or at the end. -/
def advanceBy (c : Cursor) (n : Nat) : Cursor := c.skip (c.after.take n)

/-- The cursor one character on, or at the end. -/
def advance (c : Cursor) : Cursor :=
  match c.after with
  | [] => c
  | x :: _ => c.skip [x]

/-- The character at the cursor, and the cursor past it. At the end it does not move. -/
def next (c : Cursor) : Char × Cursor :=
  match c.after with
  | [] => (nothing, c)
  | x :: _ => (x, c.skip [x])

/-- The cursor past a character, if that character is next. At the end none is. -/
def take? (c : Cursor) (expected : Char) : Option Cursor :=
  match c.after with
  | [] => none
  | x :: _ => if x == expected then some (c.skip [x]) else none

/-- The cursor past several characters, if they are next in this order. -/
def takeAll? (c : Cursor) : List Char → Option Cursor
  | [] => some c
  | x :: xs => (c.take? x).bind (·.takeAll? xs)

/-- The number of characters of a class that follow, and the cursor past them. -/
def advanceWhile (c : Cursor) (p : Char → Bool) : Nat × Cursor :=
  let passed := c.after.takeWhile p
  (passed.length, c.skip passed)

end Cursor

end ExprScan
