/-!
# Kinds of tokens

What a token is: a literal, a name, a separator, a delimiter, an operator, the end of the text, or
a character that starts nothing. Each kind has a label; that of an operator or a delimiter is its
spelling. Operators fall into classes, and some kinds stand for a binary or a unary operation.
-/

namespace ExprScan

/-- Literal values. A parameter in brackets counts as a string. -/
inductive Literal where
  /-- A number. -/
  | numeric
  /-- A string, or a parameter in brackets. -/
  | string
  /-- A truth value. -/
  | boolean
  deriving DecidableEq, Repr

/-- What stands between the elements of a list, or between an element and its list. -/
inductive Separator where
  /-- The comma. -/
  | comma
  /-- The word that asks for membership. -/
  | membership
  deriving DecidableEq, Repr

/-- Brackets and other punctuation. -/
inductive Delimiter where
  /-- Written `(`. -/
  | leftParen
  /-- Written `)`. -/
  | rightParen
  /-- Written `[`. Scanning takes a whole parameter instead. -/
  | leftBracket
  /-- Written `]`. -/
  | rightBracket
  /-- Written `{`. -/
  | leftBrace
  /-- Written `}`. -/
  | rightBrace
  /-- Written `.`. Scanning takes a number or an accessor instead. -/
  | dot
  /-- Written `;`. -/
  | semicolon
  deriving DecidableEq, Repr

/-- Operators. -/
inductive Operator where
  /-- Written `+`. -/
  | plus
  /-- Written `-`. -/
  | minus
  /-- Written `*`. -/
  | star
  /-- Written `/`. -/
  | slash
  /-- Written `%`. -/
  | percent
  /-- Written `**`, or `/*`. -/
  | power
  /-- Written `++`. -/
  | plusPlus
  /-- Written `--`. -/
  | minusMinus
  /-- Written `&`. -/
  | ampersand
  /-- Written `|`. -/
  | pipe
  /-- Written `^`. -/
  | caret
  /-- Written `~`. -/
  | tilde
  /-- Written `<<`. -/
  | shiftLeft
  /-- Written `>>`. -/
  | shiftRight
  /-- Written `<`. -/
  | less
  /-- Written `<=`. -/
  | lessEqual
  /-- Written `>`. -/
  | greater
  /-- Written `>=`. -/
  | greaterEqual
  /-- Written `==`. -/
  | equal
  /-- Written `!=`. -/
  | notEqual
  /-- Written `=~`. -/
  | regexMatch
  /-- Written `!~`. -/
  | regexNotMatch
  /-- Written `&&`. -/
  | andAnd
  /-- Written `||`. -/
  | orOr
  /-- Written `!`. -/
  | bang
  /-- Written `?`. -/
  | question
  /-- Written `:`. -/
  | colon
  /-- Written `??`. -/
  | questionQuestion
  /-- Written `=`. -/
  | assign
  deriving DecidableEq, Repr

/-- Kinds of tokens. -/
inductive Kind where
  /-- The end of the text. -/
  | endOfText
  /-- A literal value. -/
  | literal (value : Literal)
  /-- A name that stands for a value. -/
  | variableName
  /-- A name that stands for a function. -/
  | functionName
  /-- A path through fields, with a dot before each. -/
  | accessor
  /-- A separator. -/
  | separator (mark : Separator)
  /-- A delimiter. -/
  | delimiter (mark : Delimiter)
  /-- An operator. -/
  | operator (op : Operator)
  /-- A character that starts no token. -/
  | unknown
  deriving DecidableEq, Repr

/-! ### Labels -/

/-- The word for a literal. -/
def Literal.label : Literal → String
  | .numeric => "numeric"
  | .string => "string"
  | .boolean => "boolean"

/-- How a delimiter is written. -/
def Delimiter.spelling : Delimiter → String
  | .leftParen => "("
  | .rightParen => ")"
  | .leftBracket => "["
  | .rightBracket => "]"
  | .leftBrace => "\x7b"
  | .rightBrace => "\x7d"
  | .dot => "."
  | .semicolon => ";"

/-- How an operator is written. -/
def Operator.spelling : Operator → String
  | .plus => "+"
  | .minus => "-"
  | .star => "*"
  | .slash => "/"
  | .percent => "%"
  | .power => "**"
  | .plusPlus => "++"
  | .minusMinus => "--"
  | .ampersand => "&"
  | .pipe => "|"
  | .caret => "^"
  | .tilde => "~"
  | .shiftLeft => "<<"
  | .shiftRight => ">>"
  | .less => "<"
  | .lessEqual => "<="
  | .greater => ">"
  | .greaterEqual => ">="
  | .equal => "=="
  | .notEqual => "!="
  | .regexMatch => "=~"
  | .regexNotMatch => "!~"
  | .andAnd => "&&"
  | .orOr => "||"
  | .bang => "!"
  | .question => "?"
  | .colon => ":"
  | .questionQuestion => "??"
  | .assign => "="

/-- The label of a kind: a word, or the spelling of a delimiter or an operator. -/
def Kind.label : Kind → String
  | .endOfText => "eof"
  | .literal value => value.label
  | .variableName => "variable"
  | .functionName => "function"
  | .accessor => "accessor"
  | .separator _ => "separator"
  | .delimiter mark => mark.spelling
  | .operator op => op.spelling
  | .unknown => "unknown"

/-- Whether a kind is that of a literal value. -/
def Kind.isLiteral : Kind → Bool
  | .literal _ => true
  | _ => false

/-! ### Operations -/

/-- The classes of operators. -/
inductive OperatorClass where
  /-- Operations on numbers. -/
  | arithmetic
  /-- Operations on the bits of numbers. -/
  | bitwise
  /-- Comparisons, those with patterns among them. -/
  | comparison
  /-- Operations on truth values. -/
  | logical
  /-- Choices between values. -/
  | ternary
  /-- Assignment. -/
  | assignment
  deriving DecidableEq, Repr

/-- The class that an operator belongs to. -/
def Operator.operatorClass : Operator → OperatorClass
  | .plus | .minus | .star | .slash | .percent | .power | .plusPlus | .minusMinus => .arithmetic
  | .ampersand | .pipe | .caret | .tilde | .shiftLeft | .shiftRight => .bitwise
  | .less | .lessEqual | .greater | .greaterEqual | .equal | .notEqual
  | .regexMatch | .regexNotMatch => .comparison
  | .andAnd | .orOr | .bang => .logical
  | .question | .colon | .questionQuestion => .ternary
  | .assign => .assignment

/-- The class of an operator token. -/
def Kind.operatorClass? : Kind → Option OperatorClass
  | .operator op => some op.operatorClass
  | _ => none

/-- Operations on two values. -/
inductive BinaryOp where
  /-- The sum. -/
  | add
  /-- The difference. -/
  | sub
  /-- The product. -/
  | mul
  /-- The quotient. -/
  | div
  /-- The remainder. -/
  | mod
  /-- The power. -/
  | pow
  /-- The bits in both. -/
  | bitAnd
  /-- The bits in either. -/
  | bitOr
  /-- The bits in exactly one. -/
  | bitXor
  /-- The bits moved up. -/
  | shiftLeft
  /-- The bits moved down. -/
  | shiftRight
  /-- Less than. -/
  | less
  /-- At most. -/
  | lessEqual
  /-- Greater than. -/
  | greater
  /-- At least. -/
  | greaterEqual
  /-- Equal. -/
  | equal
  /-- Different. -/
  | notEqual
  /-- Matched by a pattern. -/
  | regexMatch
  /-- Not matched by a pattern. -/
  | regexNotMatch
  /-- Both hold. -/
  | and
  /-- One holds at least. -/
  | or
  /-- The condition and the first branch of a choice. -/
  | ternaryThen
  /-- The two branches of a choice. -/
  | ternaryElse
  /-- The first value that is there. -/
  | coalesce
  /-- Member of a list. -/
  | membership
  /-- Two elements of a list. -/
  | comma
  deriving DecidableEq, Repr

/-- Operations on one value, written before it. -/
inductive UnaryOp where
  /-- The opposite number. -/
  | negate
  /-- The complement of the bits. -/
  | bitNot
  /-- The opposite truth value. -/
  | not
  deriving DecidableEq, Repr

/-- The binary operation that an operator stands for. -/
def Operator.binary? : Operator → Option BinaryOp
  | .plus => some .add
  | .minus => some .sub
  | .star => some .mul
  | .slash => some .div
  | .percent => some .mod
  | .power => some .pow
  | .ampersand => some .bitAnd
  | .pipe => some .bitOr
  | .caret => some .bitXor
  | .shiftLeft => some .shiftLeft
  | .shiftRight => some .shiftRight
  | .less => some .less
  | .lessEqual => some .lessEqual
  | .greater => some .greater
  | .greaterEqual => some .greaterEqual
  | .equal => some .equal
  | .notEqual => some .notEqual
  | .regexMatch => some .regexMatch
  | .regexNotMatch => some .regexNotMatch
  | .andAnd => some .and
  | .orOr => some .or
  | .question => some .ternaryThen
  | .colon => some .ternaryElse
  | .questionQuestion => some .coalesce
  | .plusPlus | .minusMinus | .tilde | .bang | .assign => none

/-- The binary operation that a token stands for. -/
def Kind.binary? : Kind → Option BinaryOp
  | .separator .comma => some .comma
  | .separator .membership => some .membership
  | .operator op => op.binary?
  | _ => none

/-- The unary operation that a token stands for. -/
def Kind.unary? : Kind → Option UnaryOp
  | .operator .minus => some .negate
  | .operator .tilde => some .bitNot
  | .operator .bang => some .not
  | _ => none

end ExprScan
