import ExprScan.Proofs.Run
import ExprScan.Scan.Session

/-!
# Steps of a session

A session whose offsets are in order cuts its text into three parts: what stands before the token,
the token as far as it is scanned, and what is left. This module says what each action does to the
parts. From it follows that no action faults on a session in order, and that every session reached
from the start of a text is in order.

Main statements: `Session.Cuts.apply` for a rule, `Session.Cuts.nextToken_of_nil` and
`Session.Cuts.nextToken_of_cons` for the next token.
-/

namespace ExprScan

/-- The reports of what a rule found wrong with a token, of which `token` was scanned before. -/
def Munch.reports (m : Munch) (offset : Nat) (token : List Char) : List Diagnostic :=
  m.flaws.map (·.diagnostic offset (String.ofList (token ++ m.taken)))

namespace Session

/-- The session past what a rule took, of which `token` was scanned before. -/
def past (s : Session) (token : List Char) (m : Munch) : Session :=
  { s with
    cursor := s.cursor.skip m.taken
    sink := s.sink.map (·.emitAll (m.reports s.tokenStart token)) }

/-- The session cuts its text into what stands before the token, the token as far as it is scanned,
and what is left. -/
structure Cuts (s : Session) (before token rest : List Char) : Prop where
  /-- The parts make up the text. -/
  source : s.cursor.source.toList = before ++ (token ++ rest)
  /-- The token starts after the first part. -/
  tokenStart : s.tokenStart = Text.byteLength before
  /-- The cursor stands after the second part. -/
  position : s.cursor.position = Text.byteLength before + Text.byteLength token

variable {s : Session} {before token rest : List Char}

theorem cuts_ofString (source : String) : (ofString source).Cuts [] [] source.toList :=
  ⟨rfl, rfl, rfl⟩

/-! ### Calls for a token -/

section Calls

variable {s' s₁ : Session} {t : Token} {ts : List Token} {n : Nat}

theorem next_of_nextToken (h : s.nextToken = .ok (t, s')) :
    s.next = .ok (if t.isEnd then none else some t, s') := by
  simp only [next, h, bind, Except.bind]
  rfl

theorem takeTokens_of_none (h : s.next = .ok (none, s')) : takeTokens (n + 1) s = .ok ([], s') := by
  simp only [takeTokens, h, bind, Except.bind]
  rfl

theorem takeTokens_of_some (h : s.next = .ok (some t, s₁))
    (hrest : takeTokens n s₁ = .ok (ts, s')) : takeTokens (n + 1) s = .ok (t :: ts, s') := by
  simp only [takeTokens, h, hrest, bind, Except.bind]
  rfl

end Calls

namespace Cuts

/-! ### Reading -/

theorem after_eq (h : s.Cuts before token rest) : s.cursor.after = rest := by
  have hs : s.cursor.source.toList = (before ++ token) ++ rest := by
    rw [h.source, List.append_assoc]
  exact (Cursor.before_after_eq hs (by rw [Text.byteLength_append, h.position])).2

theorem size_eq (h : s.Cuts before token rest) :
    s.cursor.size = s.cursor.position + Text.byteLength rest := by
  rw [Cursor.size, ← Text.byteLength_toList, h.source, h.position]
  simp [Nat.add_assoc]

theorem atEnd_iff (h : s.Cuts before token rest) : s.cursor.atEnd = true ↔ rest = [] := by
  rw [Cursor.atEnd, decide_eq_true_eq, h.size_eq, ← Text.byteLength_eq_zero_iff]
  omega

theorem sliceFrom (h : s.Cuts before token rest) :
    s.cursor.sliceFrom s.tokenStart = .ok (String.ofList token) := by
  have hslice := Text.slice?_of_toList h.source
  rw [← h.tokenStart] at hslice
  rw [Cursor.sliceFrom, Cursor.substring, if_neg (by rw [h.position, h.tokenStart]; omega),
    if_neg (by rw [h.size_eq]; omega), h.position, ← h.tokenStart, hslice]

theorem finish (h : s.Cuts before token rest) (kind : Kind) :
    s.finish kind = .ok ⟨kind, String.ofList token, s.tokenStart⟩ := by
  rw [Session.finish, h.sliceFrom]
  rfl

/-! ### Moving -/

theorem startToken (h : s.Cuts before token rest) :
    s.startToken.Cuts (before ++ token ++ rest.takeWhile Text.isSpace) []
      (rest.dropWhile Text.isSpace) := by
  have hpos : s.startToken.cursor.position =
      Text.byteLength (before ++ token ++ rest.takeWhile Text.isSpace) := by
    show s.cursor.position + Text.byteLength (s.cursor.after.takeWhile Text.isSpace) = _
    rw [h.after_eq, h.position, Text.byteLength_append, Text.byteLength_append]
  refine ⟨?_, hpos, by rw [hpos]; rfl⟩
  show s.cursor.source.toList = _
  rw [h.source]
  simp

theorem startToken_tokenStart (h : s.Cuts before token rest) :
    s.startToken.tokenStart =
      s.cursor.position + Text.byteLength (rest.takeWhile Text.isSpace) := by
  rw [← h.after_eq]
  rfl

/-- Moving past characters that are left adds them to the token. -/
theorem skip (h : s.Cuts before token rest) {taken left : List Char}
    (hcut : taken ++ left = rest) :
    { s with cursor := s.cursor.skip taken }.Cuts before (token ++ taken) left := by
  refine ⟨?_, h.tokenStart, ?_⟩
  · rw [List.append_assoc, hcut]
    exact h.source
  · show s.cursor.position + Text.byteLength taken = _
    rw [h.position, Text.byteLength_append, Nat.add_assoc]

/-- Moving past what a rule took adds it to the token, wherever its reports go. -/
theorem past (h : s.Cuts before token rest) {m : Munch} (hm : m.taken ++ m.rest = rest) :
    (s.past token m).Cuts before (token ++ m.taken) m.rest :=
  ⟨(h.skip hm).source, (h.skip hm).tokenStart, (h.skip hm).position⟩

/-! ### Reporting -/

/-- A flaw has a span: a field does not run backwards, and the token does not start behind the
cursor. -/
theorem spanOf (h : s.Cuts before token rest) (f : Flaw) :
    s.spanOf f = .ok (f.span s.tokenStart (String.ofList token)) := by
  cases f with
  | hiddenField place field => exact if_pos (Nat.le_add_right _ _)
  | _ =>
    have hp : s.cursor.position = s.tokenStart + Text.size (String.ofList token) := by
      rw [h.position, h.tokenStart, Text.size_ofList]
    show Span.between s.tokenStart s.cursor.position = _
    rw [hp]
    exact if_pos (Nat.le_add_right _ _)

theorem mapM_report (h : s.Cuts before token rest) (fs : List Flaw) :
    fs.mapM (s.report (String.ofList token)) =
      .ok (fs.map (·.diagnostic s.tokenStart (String.ofList token))) := by
  have hreport : s.report (String.ofList token) =
      fun f => pure (f.diagnostic s.tokenStart (String.ofList token)) := by
    funext f
    rw [Session.report, h.spanOf]
    rfl
  rw [hreport, List.mapM_pure]
  rfl

/-! ### Actions -/

/-- A rule takes its piece from what is left, and counts what was scanned of the token before. -/
theorem apply (h : s.Cuts before token rest) (rule : Rule) :
    s.apply rule =
      .ok ((rule.munch s.functions token rest).kind,
        s.past token (rule.munch s.functions token rest)) := by
  generalize hm : rule.munch s.functions token rest = m
  have hcut := (Munch.eq_taken_append hm.symm).symm
  have hskip := h.skip hcut
  simp only [Session.apply, h.sliceFrom, h.after_eq, String.toList_ofList, hm, hskip.sliceFrom,
    hskip.mapM_report, bind, Except.bind]
  rfl

/-- With only blanks left, the next token is the mark of the end, behind the blanks. -/
theorem nextToken_of_nil (h : s.Cuts before token rest)
    (hr : rest.dropWhile Text.isSpace = []) :
    s.nextToken = .ok (.finish s.startToken.tokenStart, s.startToken) := by
  have hstart := h.startToken
  rw [hr] at hstart
  simp only [nextToken, hstart.atEnd_iff.2 rfl, if_true, hstart.finish, bind, Except.bind]
  rfl

/-- Otherwise it is the token of the rule that the first character decides, from the blanks on. -/
theorem nextToken_of_cons (h : s.Cuts before token rest) {c : Char} {cs : List Char}
    (hr : rest.dropWhile Text.isSpace = c :: cs) {m : Munch}
    (hm : m = (Rule.ofChar c).munch s.functions [] (c :: cs)) :
    s.nextToken =
      .ok ((m.lexeme s.startToken.tokenStart).token, s.startToken.past [] m) := by
  have hstart := h.startToken
  rw [hr] at hstart
  have hend : ¬ s.startToken.cursor.atEnd = true := by
    rw [hstart.atEnd_iff]
    simp
  have hcurrent : s.startToken.cursor.current = c := by
    rw [Cursor.current, Cursor.peek, hstart.after_eq]
    rfl
  have happly : s.startToken.apply (Rule.ofChar c) = .ok (m.kind, s.startToken.past [] m) := by
    rw [hm]
    exact hstart.apply (Rule.ofChar c)
  have hcut := (Munch.eq_taken_append hm).symm
  simp only [nextToken, if_neg hend, hcurrent, happly, (hstart.past hcut).finish, bind, Except.bind]
  rfl

theorem next_of_nil (h : s.Cuts before token rest) (hr : rest.dropWhile Text.isSpace = []) :
    s.next = .ok (none, s.startToken) :=
  next_of_nextToken (h.nextToken_of_nil hr)

theorem next_of_cons (h : s.Cuts before token rest) {c : Char} {cs : List Char}
    (hr : rest.dropWhile Text.isSpace = c :: cs) {m : Munch}
    (hm : m = (Rule.ofChar c).munch s.functions [] (c :: cs)) :
    s.next = .ok (some (m.lexeme s.startToken.tokenStart).token, s.startToken.past [] m) := by
  have hnext := next_of_nextToken (h.nextToken_of_cons hr hm)
  rw [isEnd_lexeme hm, if_neg Bool.false_ne_true] at hnext
  exact hnext

end Cuts

end Session

end ExprScan
