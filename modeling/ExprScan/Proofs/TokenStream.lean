import ExprScan.Proofs.Composition
import ExprScan.Proofs.PrefixStability
import ExprScan.Proofs.SessionTrace

/-!
# Tokens one by one

A scan gives all tokens of a text at once. A session gives them one by one, in two ways that may be
mixed: one marks the end of the text by a token of its own, the other answers nothing there. Both
give the tokens of the scan in order, and once the end is found it stays found.

## The model

`Yields` says which tokens a session still has to give. It is the invariant of the calls: a call
takes the first token off, and if there is none, it changes nothing (`Yields.nextToken_cons`,
`Yields.nextToken_nil`).

Main statement: `trace_pulls_eq_tokenize`.
-/

namespace ExprScan

namespace Session

variable {s : Session} {l : Lexeme} {ls : List Lexeme}

/-! ### What a session still has to give -/

/-- `s.Yields ls`: from here on the session gives the tokens of `ls`, and then the mark of the
end. -/
def Yields (s : Session) (ls : List Lexeme) : Prop :=
  ∃ before token rest, s.Cuts before token rest ∧
    lexemesFrom s.functions s.cursor.position rest = ls ++ [⟨.finish s.cursor.size, []⟩]

/-- At the end, a call gives the mark of the end, reports nothing, and finds the end again. -/
theorem Yields.nextToken_nil (h : s.Yields []) :
    ∃ s', s.nextToken = .ok (.finish s.cursor.size, s') ∧ s'.sink = s.sink ∧
      s'.cursor.size = s.cursor.size ∧ s'.Yields [] := by
  obtain ⟨before, token, rest, hcuts, hls⟩ := h
  cases hr : rest.dropWhile Text.isSpace with
  | cons c cs =>
    rw [lexemesFrom_of_cons hr, List.nil_append, List.cons.injEq] at hls
    exact absurd hls.2 (lexemesFrom_ne_nil _ _ _)
  | nil =>
    have hstart := hcuts.startToken
    rw [hr] at hstart
    have hsize : s.startToken.tokenStart = s.cursor.size := by
      rw [lexemesFrom_of_nil hr, List.nil_append, ← hcuts.startToken_tokenStart] at hls
      exact congrArg Token.offset (congrArg Lexeme.token (List.singleton_inj.1 hls))
    refine ⟨s.startToken, ?_, rfl, rfl, _, _, _, hstart, ?_⟩
    · rw [hcuts.nextToken_of_nil hr, hsize]
    · have hend : s.startToken.cursor.position + 0 = s.startToken.cursor.size := hsize
      rw [lexemesFrom_of_nil rfl, ← hend]
      rfl

/-- Before the end, a call gives the next token and reports what is wrong with it. -/
theorem Yields.nextToken_cons (h : s.Yields (l :: ls)) :
    ∃ s', s.nextToken = .ok (l.token, s') ∧ l.token.isEnd = false ∧
      s'.sink = s.sink.map (·.emitAll l.diagnostics) ∧ s'.cursor.size = s.cursor.size ∧
      s'.Yields ls := by
  obtain ⟨before, token, rest, hcuts, hls⟩ := h
  cases hr : rest.dropWhile Text.isSpace with
  | nil =>
    rw [lexemesFrom_of_nil hr, List.cons_append, List.cons.injEq] at hls
    exact absurd hls.2.symm (by simp)
  | cons c cs =>
    generalize hm : (Rule.ofChar c).munch s.functions [] (c :: cs) = m
    rw [lexemesFrom_of_cons hr, hm, ← hcuts.startToken_tokenStart, List.cons_append,
      List.cons.injEq] at hls
    obtain ⟨rfl, hls⟩ := hls
    exact ⟨s.startToken.past [] m, hcuts.nextToken_of_cons hr hm.symm, isEnd_lexeme hm.symm _, rfl,
      rfl, _, _, _, hcuts.cuts_token hr hm.symm, hls⟩

theorem exists_yields (source : String) (functions : NameSet) (sink : Option Collector) :
    ∃ ls, Yields ⟨.ofString source, 0, functions, sink⟩ ls ∧
      lexemes functions source = ls ++ [⟨.finish (Text.size source), []⟩] ∧
      ∀ l ∈ ls, l.token.isEnd = false := by
  obtain ⟨ls, hls, hends, -⟩ := (run_lexemesFrom functions 0 source.toList).exists_eq_concat
  rw [Nat.zero_add, Text.byteLength_toList] at hls
  exact ⟨ls, ⟨[], [], source.toList, ⟨rfl, rfl, rfl⟩, hls⟩, hls, fun l hl => (hends l hl).1⟩

/-! ### Calls -/

/-- The two ways to ask for the next token. -/
inductive Pull where
  /-- At the end there is the mark of the end. -/
  | nextToken
  /-- At the end there is nothing. -/
  | next
  deriving DecidableEq, Repr

namespace Pull

/-- The action that is asked for. -/
def action : Pull → Action
  | .nextToken => .nextToken
  | .next => .next

/-- The answer if there is a token. -/
def found (t : Token) : Pull → Answer
  | .nextToken => .token t
  | .next => .token? (some t)

/-- The answer at the end of a text of the given size. -/
def ended (size : Nat) : Pull → Answer
  | .nextToken => .token ⟨.endOfText, "", size⟩
  | .next => .token? none

/-- What a call answers, and what it reports to a collector if there is one: for a token that the
session has to give, or at the end. -/
def outcome (call : Pull) (size : Nat) (collecting : Bool) :
    Option Lexeme → Answer × List Diagnostic
  | some l => (call.found l.token, if collecting then l.diagnostics else [])
  | none => (call.ended size, [])

end Pull

theorem reports_observe {s s' : Session} {ds : List Diagnostic}
    (h : s'.sink = s.sink.map (·.emitAll ds)) (answer : Answer) :
    (s.observe answer s').reports = if s.sink.isSome then ds else [] := by
  show s'.held.drop s.held.length = _
  cases hsink : s.sink with
  | none => simp [held, h, hsink]
  | some collector => simp [held, h, hsink]

/-- One call takes the first token off, if there is one. -/
theorem Yields.perform_pull (h : s.Yields ls) (call : Pull) :
    ∃ answer s', s.perform call.action = .ok (answer, s') ∧
      (answer, (s.observe answer s').reports) =
        call.outcome s.cursor.size s.sink.isSome ls[0]? ∧
      s'.sink = s.sink.map (·.emitAll ((ls.take 1).flatMap (·.diagnostics))) ∧
      s'.cursor.size = s.cursor.size ∧ s'.Yields ls.tail := by
  cases ls with
  | nil =>
    obtain ⟨s', hnext, hsink, hsize, h'⟩ := h.nextToken_nil
    have hnone : s'.sink = s.sink.map (·.emitAll []) := by rw [emitAll_nil, hsink]
    refine ⟨call.ended s.cursor.size, s', ?_, ?_, hnone, hsize, h'⟩
    · cases call <;> simp only [Pull.action, perform, next, hnext, bind, Except.bind] <;> rfl
    · rw [reports_observe hnone, ite_self]
      rfl
  | cons l ls =>
    obtain ⟨s', hnext, hend, hsink, hsize, h'⟩ := h.nextToken_cons
    refine ⟨call.found l.token, s', ?_, ?_, ?_, hsize, h'⟩
    · cases call <;> simp only [Pull.action, perform, next, hnext, hend, bind, Except.bind] <;> rfl
    · rw [reports_observe hsink]
      rfl
    · simpa using hsink

/-- Calls take one token after the other off, in whatever way each of them asks for it. -/
theorem Yields.trace_pulls (h : s.Yields ls) (calls : List Pull) :
    ∃ observations, s.trace (calls.map Pull.action) = .ok observations ∧
      observations.map (fun o => (o.answer, o.reports)) =
        calls.mapIdx fun i call => call.outcome s.cursor.size s.sink.isSome ls[i]? := by
  induction calls generalizing s ls with
  | nil => exact ⟨[], rfl, rfl⟩
  | cons call calls ih =>
    obtain ⟨answer, s', hperform, houtcome, hsink, hsize, h'⟩ := h.perform_pull call
    obtain ⟨observations, htrace, hmap⟩ := ih h'
    refine ⟨s.observe answer s' :: observations, ?_, ?_⟩
    · rw [List.map_cons, trace_cons hperform, htrace]
      rfl
    · rw [List.map_cons, hmap, hsize, hsink, Option.isSome_map, List.mapIdx_cons, ← houtcome]
      simp only [List.getElem?_tail]
      rfl

/-! ### Calls and scans -/

/-- `Pulled scan size collecting calls observations`: what calls on a text of the given size see, if
`scan` is the scan of the text. -/
structure Pulled (scan : Scan) (size : Nat) (collecting : Bool) (calls : List Pull)
    (observations : List Observation) : Prop where
  /-- Every call is answered. -/
  length_eq : observations.length = calls.length
  /-- As long as there are tokens before the mark of the end, a call gives the one of its number. -/
  found : ∀ i call o, calls[i]? = some call → observations[i]? = some o →
    i < scan.pieces.length → ∃ t, scan.tokens[i]? = some t ∧ o.answer = call.found t
  /-- From then on, a call finds the end and reports nothing. -/
  ended : ∀ i call o, calls[i]? = some call → observations[i]? = some o →
    scan.pieces.length ≤ i → o.answer = call.ended size ∧ o.reports = []
  /-- By then a collector has got the reports of the scan. -/
  reports : collecting = true → scan.pieces.length ≤ calls.length →
    (observations.take scan.pieces.length).flatMap (·.reports) = scan.diagnostics

theorem tokenize_of_lexemes_eq {functions : NameSet} {source : String}
    (h : lexemes functions source = ls ++ [⟨.finish (Text.size source), []⟩])
    (hends : ∀ l ∈ ls, l.token.isEnd = false) :
    (tokenize ⟨true, functions⟩ source).tokens =
        ls.map (·.token) ++ [.finish (Text.size source)] ∧
      (tokenize ⟨true, functions⟩ source).pieces = ls.map (·.token) ∧
      (tokenize ⟨true, functions⟩ source).diagnostics = ls.flatMap (·.diagnostics) := by
  have htokens : (tokenize ⟨true, functions⟩ source).tokens =
      ls.map (·.token) ++ [.finish (Text.size source)] := by
    rw [tokenize, h, List.map_append]
    rfl
  refine ⟨htokens, ?_, ?_⟩
  · have hpieces : (ls.map (·.token)).filter (fun t => !t.isEnd) = ls.map (·.token) := by
      rw [List.filter_eq_self]
      simpa using hends
    rw [Scan.pieces, htokens, List.filter_append, hpieces]
    simp [Token.finish, Token.isEnd]
  · simp [tokenize, h, Lexeme.diagnostics]

theorem Pulled.of_map_eq {functions : NameSet} {source : String} {collecting : Bool}
    {calls : List Pull} {observations : List Observation}
    (h : lexemes functions source = ls ++ [⟨.finish (Text.size source), []⟩])
    (hends : ∀ l ∈ ls, l.token.isEnd = false)
    (hmap : observations.map (fun o => (o.answer, o.reports)) =
      calls.mapIdx fun i call => call.outcome (Text.size source) collecting ls[i]?) :
    Pulled (tokenize ⟨true, functions⟩ source) (Text.size source) collecting calls
      observations := by
  obtain ⟨htokens, hpieces, hdiagnostics⟩ := tokenize_of_lexemes_eq h hends
  have hlength : observations.length = calls.length := by
    simpa using congrArg List.length hmap
  have hpoint : ∀ (i : Nat) (call : Pull) (o : Observation), calls[i]? = some call →
      observations[i]? = some o →
      (o.answer, o.reports) = call.outcome (Text.size source) collecting ls[i]? := by
    intro i call o hcall ho
    have hi := congrArg (·[i]?) hmap
    simpa [hcall, ho] using hi
  refine ⟨hlength, ?_, ?_, ?_⟩
  · intro i call o hcall ho hlt
    rw [hpieces, List.length_map] at hlt
    have heq := hpoint i call o hcall ho
    rw [List.getElem?_eq_getElem hlt] at heq
    refine ⟨ls[i].token, ?_, (Prod.mk.inj heq).1⟩
    rw [htokens, List.getElem?_append_left (by simpa using hlt)]
    simp [hlt]
  · intro i call o hcall ho hle
    rw [hpieces, List.length_map] at hle
    have heq := hpoint i call o hcall ho
    rw [List.getElem?_eq_none hle] at heq
    exact Prod.mk.inj heq
  · rintro rfl hle
    rw [hpieces, List.length_map] at hle ⊢
    have hreports : (observations.take ls.length).map (·.reports) = ls.map (·.diagnostics) := by
      refine List.ext_getElem (by simp [hlength, hle]) fun i _ h₂ => ?_
      have hi : i < ls.length := by simpa using h₂
      have hcall : i < calls.length := Nat.lt_of_lt_of_le hi hle
      have ho : i < observations.length := by rw [hlength]; exact hcall
      have heq := hpoint i calls[i] observations[i] (List.getElem?_eq_getElem hcall)
        (List.getElem?_eq_getElem ho)
      rw [List.getElem?_eq_getElem hi] at heq
      have hsame : observations[i].reports = ls[i].diagnostics := (Prod.mk.inj heq).2
      rw [List.getElem_map, List.getElem_take, List.getElem_map, hsame]
    rw [hdiagnostics, List.flatMap_def, List.flatMap_def, hreports]

/-- **Tokens one by one are the tokens of the scan**: asked for tokens in either way and in any
order, a session on a text gives them in the order of the scan. Then it finds the end, as often as
it is asked, and reports nothing more; what it has reported by then is what the scan reports. -/
theorem trace_pulls_eq_tokenize (source : String) (functions : NameSet) (sink : Option Collector)
    (calls : List Pull) :
    ∃ observations,
      trace ⟨.ofString source, 0, functions, sink⟩ (calls.map Pull.action) = .ok observations ∧
        Pulled (tokenize ⟨true, functions⟩ source) (Text.size source) sink.isSome calls
          observations := by
  obtain ⟨ls, hyields, hls, hends⟩ := exists_yields source functions sink
  obtain ⟨observations, htrace, hmap⟩ := hyields.trace_pulls calls
  exact ⟨observations, htrace, .of_map_eq hls hends hmap⟩

end Session

end ExprScan
