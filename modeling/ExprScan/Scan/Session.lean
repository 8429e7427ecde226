import ExprScan.Cursor
import ExprScan.Diagnostic.Collector
import ExprScan.Scan.Rule
import ExprScan.Token.Basic

/-!
# Scanning sessions

A session scans a text piece by piece: token after token, or one rule at a time wherever the
cursor stands. A rule called on its own neither skips blanks nor starts a token, so the text and the
span that it reports reach back to the start of the last token. Reports go to a collector if one is
attached, and are dropped otherwise.

## The model

A session is a value, and an action takes it to an answer and the next session. Taking a piece of
text out of the source and making a span can fault on paper, so that actions return `Except Fault`.
-/

namespace ExprScan

/-- A scan under way. -/
structure Session where
  /-- Where the scan stands. -/
  cursor : Cursor
  /-- The offset at which the last token starts. -/
  tokenStart : Nat
  /-- The words that are names of functions. -/
  functions : NameSet
  /-- Where reports go. -/
  sink : Option Collector
  deriving DecidableEq, Repr

/-- What can be asked of a session. -/
inductive Action where
  /-- The next token, at the end the mark of the end. -/
  | nextToken
  /-- The next token, at the end nothing. -/
  | next
  /-- All tokens that are left, without the mark of the end. -/
  | collect
  /-- One rule at the place where the cursor stands. -/
  | apply (rule : Rule)
  /-- Another set of function names. -/
  | setFunctions (functions : NameSet)
  /-- An empty collector for the reports from here on. -/
  | attach
  deriving DecidableEq, Repr

/-- What a session answers. -/
inductive Answer where
  /-- A token. -/
  | token (t : Token)
  /-- A token, or nothing at the end. -/
  | token? (t : Option Token)
  /-- Tokens. -/
  | tokens (ts : List Token)
  /-- The kind of what a rule took. -/
  | kind (k : Kind)
  /-- Nothing. -/
  | done
  deriving DecidableEq, Repr

namespace Session

/-- A session at the start of a text, without function names and without a collector. -/
def ofString (source : String) : Session := ⟨.ofString source, 0, .empty, none⟩

/-- The span of a flaw of the token as far as it is scanned. -/
def spanOf (s : Session) : Flaw → Except Fault Span
  | .hiddenField place field =>
    Span.between (s.tokenStart + place) (s.tokenStart + place + Text.size field)
  | _ => Span.between s.tokenStart s.cursor.position

/-- The report of a flaw of the token as far as it is scanned, which has the given text. -/
def report (s : Session) (text : String) (f : Flaw) : Except Fault Diagnostic := do
  return { f.diagnostic s.tokenStart text with span := ← s.spanOf f }

/-- Applies a rule at the cursor: moves past what it takes and reports what is wrong. -/
def apply (s : Session) (rule : Rule) : Except Fault (Kind × Session) := do
  let before ← s.cursor.sliceFrom s.tokenStart
  let m := rule.munch s.functions before.toList s.cursor.after
  let s := { s with cursor := s.cursor.skip m.taken }
  let text ← s.cursor.sliceFrom s.tokenStart
  let reports ← m.flaws.mapM (s.report text)
  return (m.kind, { s with sink := s.sink.map (·.emitAll reports) })

/-- The text between the start of the token and the cursor, as a token. -/
def finish (s : Session) (kind : Kind) : Except Fault Token := do
  return ⟨kind, ← s.cursor.sliceFrom s.tokenStart, s.tokenStart⟩

/-- Skips blanks and starts a token. -/
def startToken (s : Session) : Session :=
  let cursor := (s.cursor.advanceWhile Text.isSpace).2
  { s with cursor, tokenStart := cursor.position }

/-- The next token. At the end of the text it is the mark of the end, as often as asked. -/
def nextToken (s : Session) : Except Fault (Token × Session) := do
  let s := s.startToken
  if s.cursor.atEnd then
    return (← s.finish .endOfText, s)
  else
    let (kind, s) ← s.apply (.ofChar s.cursor.current)
    return (← s.finish kind, s)

/-- The next token, or nothing at the end of the text. -/
def next (s : Session) : Except Fault (Option Token × Session) := do
  let (t, s) ← s.nextToken
  return (if t.isEnd then none else some t, s)

/-- At most `n` tokens, up to the end of the text. -/
def takeTokens : Nat → Session → Except Fault (List Token × Session)
  | 0, s => return ([], s)
  | n + 1, s => do
    match ← s.next with
    | (none, s) => return ([], s)
    | (some t, s) =>
      let (ts, s) ← takeTokens n s
      return (t :: ts, s)

/-- All tokens that are left. Each takes a character, so their number is bounded by what is left
of the text; one step more sees the end. -/
def collect (s : Session) : Except Fault (List Token × Session) :=
  takeTokens (s.cursor.after.length + 1) s

/-- Does what is asked. -/
def perform (s : Session) : Action → Except Fault (Answer × Session)
  | .nextToken => do
    let (t, s) ← s.nextToken
    return (.token t, s)
  | .next => do
    let (t, s) ← s.next
    return (.token? t, s)
  | .collect => do
    let (ts, s) ← s.collect
    return (.tokens ts, s)
  | .apply rule => do
    let (k, s) ← s.apply rule
    return (.kind k, s)
  | .setFunctions functions => return (.done, { s with functions })
  | .attach => return (.done, { s with sink := some .empty })

end Session

end ExprScan
