import ExprScan.Scan.Word
import ExprScan.Text.CharClass

/-!
# Scanning rules

A rule takes the longest piece it can from the front of a text and says what the piece is and what
is wrong with it. The first character of a token decides which rule applies. No rule fails: a
literal that is not closed extends to the end of the text, and a character that starts nothing is
a token of its own.

Main statements: a rule cuts the text in two (`munch_cut`), and the rule that a character decides
takes that character at least (`rest_munch_length_lt`).
-/

namespace ExprScan

/-- The front of a text that a rule took, and what is left. -/
structure Munch where
  /-- What the front is. -/
  kind : Kind
  /-- The front. -/
  taken : List Char
  /-- What is left. -/
  rest : List Char
  /-- What is wrong with the front. -/
  flaws : List Flaw
  deriving DecidableEq, Repr

/-! ### The rules -/

/-- A number: `0x` with hexadecimal digits, a point with digits, or digits. -/
def munchNumber : List Char → Munch
  | '0' :: 'x' :: cs =>
    ⟨.literal .numeric, '0' :: 'x' :: cs.takeWhile Text.isHexDigit, cs.dropWhile Text.isHexDigit,
      if (cs.takeWhile Text.isHexDigit).isEmpty then [.noHexDigit] else []⟩
  | '.' :: cs =>
    ⟨.literal .numeric, '.' :: cs.takeWhile Text.isDigit, cs.dropWhile Text.isDigit,
      if (cs.takeWhile Text.isDigit).isEmpty then [.noDigit] else []⟩
  | cs => ⟨.literal .numeric, cs.takeWhile Text.isDigit, cs.dropWhile Text.isDigit, []⟩

/-- What follows an opening character up to the first closing one, or to the end of the text. -/
def munchEnclosed (flaw : Flaw) (opening closing : Char) (cs : List Char) : Munch :=
  match cs.dropWhile (· != closing) with
  | [] => ⟨.literal .string, opening :: cs.takeWhile (· != closing), [], [flaw]⟩
  | c :: rest => ⟨.literal .string, opening :: (cs.takeWhile (· != closing) ++ [c]), rest, []⟩

/-- A string: it goes up to the next character that equals its first. -/
def munchString : List Char → Munch
  | [] => ⟨.literal .string, [], [], [.openString]⟩
  | c :: cs => munchEnclosed .openString c c cs

/-- A parameter in brackets: it goes up to the next closing bracket. -/
def munchBracket : List Char → Munch
  | [] => ⟨.literal .string, [], [], [.openBracket]⟩
  | c :: cs => munchEnclosed .openBracket c ']' cs

/-- A word, given the text `before` it that belongs to the same token. -/
def munchWord (functions : NameSet) (before cs : List Char) : Munch :=
  let text := before ++ cs.takeWhile Text.isWordChar
  let kind := wordKind functions (String.ofList text)
  ⟨kind, cs.takeWhile Text.isWordChar, cs.dropWhile Text.isWordChar, wordFlaws kind text⟩

/-- The single character that separates the elements of a list. -/
def munchComma : List Char → Munch
  | [] => ⟨.separator .comma, [], [], []⟩
  | c :: cs => ⟨.separator .comma, [c], cs, []⟩

/-- The operators and delimiters of two characters. One of them has two spellings. -/
def pairs : List (Char × Char × Operator) :=
  [('+', '+', .plusPlus), ('-', '-', .minusMinus), ('*', '*', .power), ('/', '*', .power),
   ('&', '&', .andAnd), ('|', '|', .orOr), ('?', '?', .questionQuestion),
   ('<', '=', .lessEqual), ('<', '<', .shiftLeft), ('>', '=', .greaterEqual),
   ('>', '>', .shiftRight), ('=', '=', .equal), ('=', '~', .regexMatch),
   ('!', '=', .notEqual), ('!', '~', .regexNotMatch)]

/-- The operators and delimiters of one character. -/
def singles : List (Char × Kind) :=
  [('(', .delimiter .leftParen), (')', .delimiter .rightParen), (']', .delimiter .rightBracket),
   ('\x7b', .delimiter .leftBrace), ('\x7d', .delimiter .rightBrace),
   (';', .delimiter .semicolon), ('+', .operator .plus), ('-', .operator .minus),
   ('*', .operator .star), ('/', .operator .slash), ('&', .operator .ampersand),
   ('|', .operator .pipe), ('<', .operator .less), ('>', .operator .greater),
   ('?', .operator .question), ('%', .operator .percent), ('^', .operator .caret),
   ('~', .operator .tilde), (':', .operator .colon), ('=', .operator .assign),
   ('!', .operator .bang)]

/-- The operator that two characters spell. -/
def pair? (a b : Char) : Option Operator :=
  (pairs.find? fun (x, y, _) => x == a && y == b).map fun (_, _, op) => op

/-- The kind of a single character; one that starts nothing is unknown. -/
def singleKind (c : Char) : Kind :=
  ((singles.find? fun (x, _) => x == c).map Prod.snd).getD .unknown

/-- An operator or a delimiter, of two characters if they spell one. -/
def munchOperator : List Char → Munch
  | [] => ⟨.unknown, [], [], []⟩
  | [c] => ⟨singleKind c, [c], [], []⟩
  | c :: d :: cs =>
    match pair? c d with
    | some op => ⟨.operator op, [c, d], cs, []⟩
    | none => ⟨singleKind c, [c], d :: cs, []⟩

/-! ### Choosing a rule -/

/-- The scanning rules. -/
inductive Rule where
  /-- Numbers. -/
  | number
  /-- The comma. -/
  | comma
  /-- Parameters in brackets. -/
  | bracket
  /-- Words. -/
  | word
  /-- Strings. -/
  | string
  /-- Operators, delimiters and all else. -/
  | operator
  deriving DecidableEq, Repr

namespace Rule

/-- The rule that the first character of a token decides. -/
def ofChar (c : Char) : Rule :=
  if Text.isDigit c || c == '.' then .number
  else if c == ',' then .comma
  else if c == '[' then .bracket
  else if Text.isLetter c then .word
  else if c == '\x22' || c == '\x27' then .string
  else .operator

/-- What a rule takes from the front of a text, given the text `before` it that belongs to the
same token. Only the rule for words looks at that text. -/
def munch (functions : NameSet) (before : List Char) : Rule → List Char → Munch
  | .number, cs => munchNumber cs
  | .comma, cs => munchComma cs
  | .bracket, cs => munchBracket cs
  | .word, cs => munchWord functions before cs
  | .string, cs => munchString cs
  | .operator, cs => munchOperator cs

end Rule

/-! ### Rules cut the text in two -/

theorem munchNumber_cut (cs : List Char) : (munchNumber cs).taken ++ (munchNumber cs).rest = cs := by
  unfold munchNumber
  split <;> simp [List.takeWhile_append_dropWhile]

theorem munchEnclosed_cut (flaw : Flaw) (opening closing : Char) (cs : List Char) :
    (munchEnclosed flaw opening closing cs).taken ++ (munchEnclosed flaw opening closing cs).rest =
      opening :: cs := by
  have h := List.takeWhile_append_dropWhile (p := (· != closing)) (l := cs)
  unfold munchEnclosed
  split
  · rename_i hd
    rw [hd] at h
    simpa using h
  · rename_i c rest hd
    rw [hd] at h
    simpa using h

theorem munchOperator_cut (cs : List Char) :
    (munchOperator cs).taken ++ (munchOperator cs).rest = cs := by
  unfold munchOperator
  split
  · rfl
  · rfl
  · split <;> rfl

/-- A rule cuts the text in two: nothing is lost and nothing is read twice. -/
theorem Rule.munch_cut (functions : NameSet) (before : List Char) (r : Rule) (cs : List Char) :
    (r.munch functions before cs).taken ++ (r.munch functions before cs).rest = cs := by
  cases r with
  | number => exact munchNumber_cut cs
  | comma => cases cs <;> rfl
  | bracket =>
    cases cs with
    | nil => rfl
    | cons c cs => exact munchEnclosed_cut _ _ _ _
  | word => simp [Rule.munch, munchWord, List.takeWhile_append_dropWhile]
  | string =>
    cases cs with
    | nil => rfl
    | cons c cs => exact munchEnclosed_cut _ _ _ _
  | operator => exact munchOperator_cut cs

theorem munchNumber_taken_ne_nil {c : Char} (cs : List Char) (h : Text.isDigit c ∨ c = '.') :
    (munchNumber (c :: cs)).taken ≠ [] := by
  unfold munchNumber
  split
  · simp
  · simp
  · rename_i h₁ h₂
    rcases h with h | h
    · simp [h]
    · subst h; exact absurd rfl (h₂ cs)

theorem munchEnclosed_taken_ne_nil (flaw : Flaw) (opening closing : Char) (cs : List Char) :
    (munchEnclosed flaw opening closing cs).taken ≠ [] := by
  unfold munchEnclosed
  split <;> simp

theorem munchOperator_taken_ne_nil (c : Char) (cs : List Char) :
    (munchOperator (c :: cs)).taken ≠ [] := by
  cases cs with
  | nil => simp [munchOperator]
  | cons d cs =>
    simp only [munchOperator]
    split <;> simp

/-- The rule that a character decides takes at least that character. -/
theorem Rule.taken_munch_ne_nil (functions : NameSet) (c : Char) (cs : List Char) :
    ((Rule.ofChar c).munch functions [] (c :: cs)).taken ≠ [] := by
  unfold Rule.ofChar
  split
  · rename_i h
    exact munchNumber_taken_ne_nil cs (by simpa using h)
  · split
    · simp [Rule.munch, munchComma]
    · split
      · exact munchEnclosed_taken_ne_nil _ _ _ _
      · split
        · rename_i h
          simp [Rule.munch, munchWord, Text.isWordChar, h]
        · split
          · exact munchEnclosed_taken_ne_nil _ _ _ _
          · exact munchOperator_taken_ne_nil c cs

/-- What is left is shorter, so that scanning comes to an end. -/
theorem Rule.rest_munch_length_lt (functions : NameSet) (c : Char) (cs : List Char) :
    ((Rule.ofChar c).munch functions [] (c :: cs)).rest.length < (c :: cs).length := by
  have hcut := Rule.munch_cut functions [] (Rule.ofChar c) (c :: cs)
  have hne := List.length_pos_iff.2 (Rule.taken_munch_ne_nil functions c cs)
  have hlen := congrArg List.length hcut
  simp only [List.length_append] at hlen
  omega

end ExprScan
