/-!
# Readers

A reader takes a value from the front of a text, or refuses the text. Readers are combined as
state transformers; the state is what is left of the text.
-/

namespace ExprScan.Toml

/-- Takes a value from the front of a text, or refuses. -/
abbrev Reader := StateT (List Char) Option

namespace Reader

variable {α β : Type}

/-- Takes a character of a class. -/
def satisfy (p : Char → Bool) : Reader Char
  | c :: cs => if p c then some (c, cs) else none
  | [] => none

/-- Takes a given character. -/
def char (c : Char) : Reader Unit := do let _ ← satisfy (· == c)

/-- Takes given characters in order. -/
def chars : List Char → Reader Unit
  | [] => pure ()
  | c :: cs => do char c; chars cs

/-- The next character, which stays where it is. -/
def peek? : Reader (Option Char) := fun cs => some (cs.head?, cs)

/-- Takes the longest run of characters of a class. -/
def run (p : Char → Bool) : Reader (List Char) := fun cs => some (cs.takeWhile p, cs.dropWhile p)

/-- Takes the longest run of characters of a class, which must not be empty. -/
def run1 (p : Char → Bool) : Reader (List Char) := do
  let c ← satisfy p
  return c :: (← run p)

/-- Takes exactly `n` characters of a class. -/
def exactly (p : Char → Bool) : Nat → Reader (List Char)
  | 0 => return []
  | n + 1 => do
    let c ← satisfy p
    return c :: (← exactly p n)

/-- Accepts only the end of the text. -/
def atEnd : Reader Unit
  | [] => some ((), [])
  | _ => none

/-- The first of two readers that accepts. -/
def either (r s : Reader α) : Reader α := fun cs => (r cs).or (s cs)

/-- A reader that may refuse without harm. -/
def attempt (r : Reader α) : Reader (Option α) := either (some <$> r) (pure none)

/-- Applies a reader as long as it accepts, at most `n` times. -/
def upTo (r : Reader α) : (n : Nat) → Reader (List α)
  | 0, cs => some ([], cs)
  | n + 1, cs =>
    match r cs with
    | none => some ([], cs)
    | some (a, rest) => (upTo r n rest).map fun (more, left) => (a :: more, left)

/-- Applies a reader, which takes something whenever it accepts, as often as it accepts. That is at
most once for each character. -/
def many (r : Reader α) : Reader (List α) := fun cs => upTo r cs.length cs

/-- One or more items with a separator between them. -/
def sepBy1 (item : Reader α) (separator : Reader β) : Reader (List α) := do
  let first ← item
  let others ← many do
    let _ ← separator
    item
  return first :: others

end Reader

end ExprScan.Toml
