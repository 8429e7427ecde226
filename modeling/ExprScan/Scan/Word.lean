import ExprScan.Scan.Flaw
import ExprScan.Scan.NameSet
import ExprScan.Text.Uppercase
import ExprScan.Token.Kind

/-!
# Words

A word is a keyword, the name of a function, an accessor if it has a dot, or else the name of a
variable; the first of these that fits counts. In an accessor each field after the first segment
must be exported, that is, start with a character that is its own upper-case form.
-/

namespace ExprScan

/-- The kind of a word that has a fixed meaning. -/
def keyword? (word : String) : Option Kind :=
  if word = "true" ∨ word = "false" then some (.literal .boolean)
  else if word = "in" ∨ word = "IN" then some (.separator .membership)
  else none

/-- The kind of a word. -/
def wordKind (functions : NameSet) (word : String) : Kind :=
  match keyword? word with
  | some kind => kind
  | none =>
    if functions.contains word then .functionName
    else if word.toList.contains '.' then .accessor
    else .variableName

/-- The segments of a text between its dots. There is one more than there are dots. -/
def segments : List Char → List (List Char)
  | [] => [[]]
  | c :: cs =>
    if c == '.' then [] :: segments cs
    else
      match segments cs with
      | [] => [[c]]
      | s :: ss => (c :: s) :: ss

/-- Whether a field can be reached from outside. A field without a name can. -/
def isExported : List Char → Bool
  | [] => true
  | c :: _ => Text.isOwnUppercase c

/-- The fields that are not exported, the first of the given ones at byte `place`. -/
def hiddenFields (place : Nat) : List (List Char) → List Flaw
  | [] => []
  | s :: ss =>
    (if isExported s then [] else [.hiddenField place (String.ofList s)]) ++
      hiddenFields (place + Text.byteLength s + 1) ss

/-- What is wrong with an accessor. Its first segment is no field. -/
def accessorFlaws (text : List Char) : List Flaw :=
  (if text.getLast? = some '.' then [.hangingDot] else []) ++
    match segments text with
    | [] => []
    | s :: ss => hiddenFields (Text.byteLength s + 1) ss

/-- What is wrong with a word of a given kind. -/
def wordFlaws (kind : Kind) (text : List Char) : List Flaw :=
  if kind = .accessor then accessorFlaws text else []

end ExprScan
