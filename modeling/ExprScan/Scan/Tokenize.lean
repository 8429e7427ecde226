import ExprScan.Scan.Rule
import ExprScan.Scan.Settings
import ExprScan.Token.Basic

/-!
# Cutting a text into tokens

A text is scanned from left to right: blanks are skipped, the first character that is none decides
a rule, and the rule takes a token. The last token is empty and marks the end of the text. Every
text has tokens; what is wrong with them is reported beside them.
-/

namespace ExprScan

/-- A token with what is wrong with it. -/
structure Lexeme where
  /-- The token. -/
  token : Token
  /-- What is wrong with the token. -/
  flaws : List Flaw
  deriving DecidableEq, Repr

/-- The reports of what is wrong with a token. -/
def Lexeme.diagnostics (l : Lexeme) : List Diagnostic :=
  l.flaws.map (·.diagnostic l.token.offset l.token.text)

/-- The tokens of a text that starts at a given offset, up to the mark of the end. -/
def lexemesFrom (functions : NameSet) (offset : Nat) (cs : List Char) : List Lexeme :=
  let start := offset + Text.byteLength (cs.takeWhile Text.isSpace)
  match _h : cs.dropWhile Text.isSpace with
  | [] => [⟨⟨.endOfText, "", start⟩, []⟩]
  | c :: rest =>
    let m := (Rule.ofChar c).munch functions [] (c :: rest)
    ⟨⟨m.kind, String.ofList m.taken, start⟩, m.flaws⟩ ::
      lexemesFrom functions (start + Text.byteLength m.taken) m.rest
termination_by cs.length
decreasing_by
  have h₁ := Rule.rest_munch_length_lt functions c rest
  have h₂ := (List.dropWhile_suffix (l := cs) Text.isSpace).length_le
  simp_all only [List.length_cons]
  omega

/-- A text of blanks has only the mark of the end, after the blanks. -/
theorem lexemesFrom_of_nil {functions : NameSet} {offset : Nat} {cs : List Char}
    (h : cs.dropWhile Text.isSpace = []) :
    lexemesFrom functions offset cs =
      [⟨⟨.endOfText, "", offset + Text.byteLength (cs.takeWhile Text.isSpace)⟩, []⟩] := by
  rw [lexemesFrom]
  split
  · rfl
  · rename_i h'
    rw [h] at h'
    cases h'

/-- Any other text has the token of the rule that its first character decides, and then the tokens
of what is left. -/
theorem lexemesFrom_of_cons {functions : NameSet} {offset : Nat} {cs rest : List Char} {c : Char}
    (h : cs.dropWhile Text.isSpace = c :: rest) :
    lexemesFrom functions offset cs =
      let start := offset + Text.byteLength (cs.takeWhile Text.isSpace)
      let m := (Rule.ofChar c).munch functions [] (c :: rest)
      ⟨⟨m.kind, String.ofList m.taken, start⟩, m.flaws⟩ ::
        lexemesFrom functions (start + Text.byteLength m.taken) m.rest := by
  rw [lexemesFrom]
  split
  · rename_i h'
    rw [h] at h'
    cases h'
  · rename_i c' rest' h'
    rw [h] at h'
    cases h'
    rfl

/-- The tokens of a text, each with what is wrong with it. -/
def lexemes (functions : NameSet) (source : String) : List Lexeme :=
  lexemesFrom functions 0 source.toList

/-- The outcome of a scan. -/
structure Scan where
  /-- The tokens in the order of the text, the mark of the end last. -/
  tokens : List Token
  /-- The reports, in the order of the tokens. -/
  diagnostics : List Diagnostic
  deriving DecidableEq, Repr

/-- Whether nothing was reported. -/
def Scan.isClean (s : Scan) : Bool := s.diagnostics.isEmpty

/-- Scans a text. Reports are left out if the settings do not ask for them. -/
def tokenize (settings : Settings) (source : String) : Scan :=
  let ls := lexemes settings.functions source
  { tokens := ls.map (·.token)
    diagnostics := if settings.validate then ls.flatMap (·.diagnostics) else [] }

end ExprScan
