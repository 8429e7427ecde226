import ExprScan.Proofs.Run

/-!
# The lexical grammar

What a token may be, said without a scanner: a set of rules, each of which allows some texts and
gives them a kind, and the principle that from the front of a text the longest piece that some
rule allows is taken. A character that no rule can start with is a token of its own.

## The model

`Matches functions text kind` has one constructor for each rule. The rules overlap only in that one
allows longer texts than another, so that a text has one kind at most; this is not built into the
relation but follows from the equivalence with the scanner.

`Takes` is the principle for the front of a text that starts with no blank, `Tokenizes` its
repetition up to the end of the text.
-/

namespace ExprScan

namespace Grammar

/-! ### Rules -/

/-- The operators and delimiters with their kinds. The power has two spellings. -/
def spellings : List (String × Kind) :=
  [("(", .delimiter .leftParen), (")", .delimiter .rightParen), ("]", .delimiter .rightBracket),
   ("\x7b", .delimiter .leftBrace), ("\x7d", .delimiter .rightBrace),
   (";", .delimiter .semicolon),
   ("+", .operator .plus), ("++", .operator .plusPlus),
   ("-", .operator .minus), ("--", .operator .minusMinus),
   ("*", .operator .star), ("**", .operator .power),
   ("/", .operator .slash), ("/*", .operator .power),
   ("%", .operator .percent),
   ("&", .operator .ampersand), ("&&", .operator .andAnd),
   ("|", .operator .pipe), ("||", .operator .orOr),
   ("^", .operator .caret), ("~", .operator .tilde),
   ("<", .operator .less), ("<=", .operator .lessEqual), ("<<", .operator .shiftLeft),
   (">", .operator .greater), (">=", .operator .greaterEqual), (">>", .operator .shiftRight),
   ("=", .operator .assign), ("==", .operator .equal), ("=~", .operator .regexMatch),
   ("!", .operator .bang), ("!=", .operator .notEqual), ("!~", .operator .regexNotMatch),
   ("?", .operator .question), ("??", .operator .questionQuestion),
   (":", .operator .colon)]

/-- The words with a fixed meaning. -/
def keywords : List String := ["true", "false", "in", "IN"]

/-- The kind of a word. -/
inductive WordKind (functions : NameSet) : String → Kind → Prop where
  /-- A truth value. -/
  | boolean {word : String} (h : word = "true" ∨ word = "false") :
      WordKind functions word (.literal .boolean)
  /-- The word that asks for membership, in either case. -/
  | membership {word : String} (h : word = "in" ∨ word = "IN") :
      WordKind functions word (.separator .membership)
  /-- The name of a function, which no keyword can be. -/
  | functionName {word : String} (h : word ∉ keywords) (hf : word ∈ functions.names) :
      WordKind functions word .functionName
  /-- Any other word with a dot. -/
  | accessor {word : String} (h : word ∉ keywords) (hf : word ∉ functions.names)
      (hd : '.' ∈ word.toList) : WordKind functions word .accessor
  /-- Any other word. -/
  | variableName {word : String} (h : word ∉ keywords) (hf : word ∉ functions.names)
      (hd : '.' ∉ word.toList) : WordKind functions word .variableName

/-- `Matches functions text kind`: a rule allows the text and gives it the kind. -/
inductive Matches (functions : NameSet) : List Char → Kind → Prop where
  /-- `0x` and hexadecimal digits, maybe none. -/
  | hex {ds : List Char} (h : ∀ d ∈ ds, Text.isHexDigit d = true) :
      Matches functions ('0' :: 'x' :: ds) (.literal .numeric)
  /-- Digits, one at least. -/
  | dec {d : Char} {ds : List Char} (hd : Text.isDigit d = true)
      (h : ∀ d ∈ ds, Text.isDigit d = true) : Matches functions (d :: ds) (.literal .numeric)
  /-- A point and digits, maybe none. -/
  | frac {ds : List Char} (h : ∀ d ∈ ds, Text.isDigit d = true) :
      Matches functions ('.' :: ds) (.literal .numeric)
  /-- The comma. -/
  | comma : Matches functions [','] (.separator .comma)
  /-- An opening bracket and what is no closing one, then maybe a closing one. -/
  | bracket {cs close : List Char} (h : ∀ c ∈ cs, c ≠ ']') (hc : close = [] ∨ close = [']']) :
      Matches functions ('[' :: (cs ++ close)) (.literal .string)
  /-- A quote and what is no such quote, then maybe the same quote. -/
  | string {q : Char} {cs close : List Char} (hq : q = '\x22' ∨ q = '\x27')
      (h : ∀ c ∈ cs, c ≠ q) (hc : close = [] ∨ close = [q]) :
      Matches functions (q :: (cs ++ close)) (.literal .string)
  /-- A letter, then letters, digits, underscores and dots. -/
  | word {c : Char} {cs : List Char} {kind : Kind} (hc : Text.isLetter c = true)
      (h : ∀ x ∈ cs, Text.isLetter x = true ∨ Text.isDigit x = true ∨ x = '_' ∨ x = '.')
      (hk : WordKind functions (String.ofList (c :: cs)) kind) : Matches functions (c :: cs) kind
  /-- A fixed spelling. -/
  | spelled {word : String} {kind : Kind} (h : (word, kind) ∈ spellings) :
      Matches functions word.toList kind

/-- `Takes functions input text kind`: from the front of the input the text is taken, as a token of
the kind. -/
inductive Takes (functions : NameSet) (input : List Char) : List Char → Kind → Prop where
  /-- The longest piece that a rule allows. -/
  | longest {text : List Char} {kind : Kind} (hm : Matches functions text kind)
      (hp : text <+: input)
      (hmax : ∀ other otherKind, Matches functions other otherKind → other <+: input →
        other.length ≤ text.length) : Takes functions input text kind
  /-- One character, if no rule allows any piece. -/
  | unknown {c : Char} (hc : Text.isSpace c = false) (hp : [c] <+: input)
      (hno : ∀ other otherKind, Matches functions other otherKind → ¬ other <+: input) :
      Takes functions input [c] .unknown

/-- `Tokenizes functions offset input ts`: the input, which starts at byte `offset`, has the tokens
`ts`. -/
inductive Tokenizes (functions : NameSet) : Nat → List Char → List Token → Prop where
  /-- Only blanks are left; the mark of the end follows them. -/
  | finish {offset : Nat} {blanks : List Char} (hb : ∀ c ∈ blanks, Text.isSpace c = true) :
      Tokenizes functions offset blanks [.finish (offset + Text.byteLength blanks)]
  /-- Blanks, then what is taken, then the tokens of what is left. -/
  | token {offset : Nat} {blanks text rest : List Char} {kind : Kind} {ts : List Token}
      (hb : ∀ c ∈ blanks, Text.isSpace c = true) (ht : Takes functions (text ++ rest) text kind)
      (next : Tokenizes functions (offset + Text.byteLength blanks + Text.byteLength text) rest ts) :
      Tokenizes functions offset (blanks ++ (text ++ rest))
        (⟨kind, String.ofList text, offset + Text.byteLength blanks⟩ :: ts)

end Grammar

end ExprScan
