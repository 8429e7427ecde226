import ExprScan.Proofs.Lookahead
import ExprScan.Proofs.Restart
import ExprScan.Proofs.SessionSafety

/-!
# Tokens do not depend on what comes later

Two texts that start alike have the same tokens as long as they are alike: all tokens that end
before the last shared character, for a rule looks one character further than what it takes. Along
with the tokens, the reports made while scanning them are the same.

## The model

A scan gives all tokens and all reports of a text. Which reports belong to the first few tokens is
said twice: they are what a session with a collector has reported once it has given these tokens,
and they are the first reports of the scan.

Main statement: `tokenize_prefix_stable`.
-/

namespace ExprScan

/-! ### Sessions and scans -/

/-- A session at the start of a text, with an empty collector. -/
def Session.reporting (functions : NameSet) (source : String) : Session :=
  ⟨.ofString source, 0, functions, some .empty⟩

/-- A session that has given some tokens of a scan has reported what is wrong with them, and nothing
else. -/
theorem Session.Cuts.takeTokens_eq {s : Session} {before token rest : List Char}
    (h : s.Cuts before token rest) {early late : List Lexeme} (hne : late ≠ [])
    (hls : lexemesFrom s.functions s.cursor.position rest = early ++ late) :
    ∃ s', takeTokens early.length s = .ok (early.map (·.token), s') ∧
      s'.sink.map (·.held) = s.sink.map (·.held ++ early.flatMap (·.diagnostics)) := by
  induction early generalizing s before token rest with
  | nil => exact ⟨s, rfl, by simp⟩
  | cons l early ih =>
    cases hr : rest.dropWhile Text.isSpace with
    | nil =>
      rw [lexemesFrom_of_nil hr, List.cons_append, List.cons.injEq] at hls
      exact absurd (List.append_eq_nil_iff.1 hls.2.symm).2 hne
    | cons c cs =>
      generalize hm : (Rule.ofChar c).munch s.functions [] (c :: cs) = m
      have hnext := h.next_of_cons hr hm.symm
      rw [lexemesFrom_of_cons hr, hm, ← h.startToken_tokenStart, List.cons_append,
        List.cons.injEq] at hls
      obtain ⟨rfl, hls⟩ := hls
      obtain ⟨s', htake, hsink⟩ := ih (h.cuts_token hr hm.symm) hls
      refine ⟨s', takeTokens_of_some hnext htake, ?_⟩
      have hpast : (s.startToken.past [] m).sink =
          s.sink.map (·.emitAll (m.lexeme s.startToken.tokenStart).diagnostics) := rfl
      rw [hsink, hpast, Option.map_map]
      refine congrArg (Option.map · s.sink) (funext fun collector => ?_)
      simp only [Function.comp, Collector.held_emitAll, List.append_assoc, List.flatMap_cons]
      rfl

/-- `Begins settings source ts ds`: a scan of the text begins with the tokens `ts`, and the reports
made while scanning these are `ds`. -/
structure Begins (settings : Settings) (source : String) (ts : List Token)
    (ds : List Diagnostic) : Prop where
  /-- The tokens are the first ones of the scan. -/
  tokens : ts <+: (tokenize settings source).tokens
  /-- A session gives these tokens one after the other, and reports no more and no less by then. -/
  session : ∃ s, (Session.reporting settings.functions source).takeTokens ts.length = .ok (ts, s) ∧
    s.sink.map (·.held) = some ds
  /-- If reports are asked for, these are the first ones of the scan. -/
  diagnostics : ∃ more,
    (tokenize settings source).diagnostics = if settings.validate then ds ++ more else []

theorem begins_of_lexemes_eq {settings : Settings} {source : String} {early late : List Lexeme}
    (hne : late ≠ []) (h : lexemes settings.functions source = early ++ late) :
    Begins settings source (early.map (·.token)) (early.flatMap (·.diagnostics)) := by
  have hcuts : (Session.reporting settings.functions source).Cuts [] [] source.toList :=
    ⟨rfl, rfl, rfl⟩
  refine ⟨?_, ?_, late.flatMap (·.diagnostics), ?_⟩
  · rw [tokenize, h, List.map_append]
    exact List.prefix_append _ _
  · rw [List.length_map]
    exact hcuts.takeTokens_eq hne h
  · rw [tokenize, h, List.flatMap_append]

/-! ### Two texts that start alike -/

theorem lexemesFrom_ne_nil (functions : NameSet) (offset : Nat) (cs : List Char) :
    lexemesFrom functions offset cs ≠ [] := by
  intro h
  have hrun := run_lexemesFrom functions offset cs
  rw [h] at hrun
  cases hrun

theorem exists_eq_append_of_byteLength_lt {piece left shared more : List Char}
    (h : piece ++ left = shared ++ more) (hlt : Text.byteLength piece < Text.byteLength shared) :
    ∃ d ds, shared = piece ++ d :: ds ∧ left = d :: ds ++ more := by
  obtain ⟨ds, rfl, hleft⟩ := Text.exists_eq_append_of_byteLength_le h (Nat.le_of_lt hlt)
  cases ds with
  | nil => simp at hlt
  | cons d ds => exact ⟨d, ds, rfl, hleft⟩

/-- The tokens that end before a byte. -/
def endingBefore (limit : Nat) (ls : List Lexeme) : List Lexeme :=
  ls.filter fun l => l.token.offset + l.token.size < limit

theorem endingBefore_eq_nil {limit : Nat} {ls : List Lexeme}
    (h : ∀ l ∈ ls, limit ≤ l.token.offset + l.token.size) : endingBefore limit ls = [] :=
  List.filter_eq_nil_iff.2 fun l hl => by simpa using h l hl

theorem endingBefore_cons {limit : Nat} {l : Lexeme} (h : l.token.offset + l.token.size < limit)
    (ls : List Lexeme) : endingBefore limit (l :: ls) = l :: endingBefore limit ls := by
  simp [endingBefore, h]

/-- The tokens of a run that end before the last shared character are the first tokens of any text
that starts alike. -/
theorem Run.exists_lexemesFrom_eq {functions : NameSet} {offset : Nat} {cs : List Char}
    {ls : List Lexeme} (h : Run functions offset cs ls) {shared more : List Char}
    (hcs : cs = shared ++ more) (more' : List Char) :
    ∃ late, late ≠ [] ∧ lexemesFrom functions offset (shared ++ more') =
      endingBefore (offset + Text.byteLength shared) ls ++ late := by
  induction h generalizing shared with
  | @finish offset blanks hb =>
    refine ⟨_, lexemesFrom_ne_nil functions offset (shared ++ more'), ?_⟩
    rw [endingBefore_eq_nil, List.nil_append]
    intro l hl
    rw [List.mem_singleton.1 hl, hcs, Text.byteLength_append]
    show _ ≤ offset + (Text.byteLength shared + Text.byteLength more) + 0
    omega
  | @token offset blanks cs c m ls hb hc hm next ih =>
    have hcut := Munch.eq_taken_append hm
    have hend : (m.lexeme (offset + Text.byteLength blanks)).token.offset +
        (m.lexeme (offset + Text.byteLength blanks)).token.size =
          offset + Text.byteLength (blanks ++ m.taken) := by
      rw [Text.byteLength_append, ← Nat.add_assoc, ← Text.size_ofList m.taken]
      rfl
    by_cases hlt : Text.byteLength (blanks ++ m.taken) < Text.byteLength shared
    · -- the token ends in time, and the character behind it is shared
      rw [hcut, ← List.append_assoc] at hcs
      obtain ⟨d, ds, rfl, hrest⟩ := exists_eq_append_of_byteLength_lt hcs hlt
      have hstop : m.StopsAt (d :: ds ++ more') := .of_head?_eq (by rw [hrest]; rfl)
      obtain ⟨late, hne, hlate⟩ := ih hrest
      have hnext := run_lexemesFrom functions
        (offset + Text.byteLength blanks + Text.byteLength m.taken) (d :: ds ++ more')
      have hrun := Run.token_of_stopsAt hb hc hm hstop hnext
      have hlimit : offset + Text.byteLength (blanks ++ m.taken ++ d :: ds) =
          offset + Text.byteLength blanks + Text.byteLength m.taken +
            Text.byteLength (d :: ds) := by
        simp only [Text.byteLength_append]
        omega
      refine ⟨late, hne, ?_⟩
      rw [endingBefore_cons (by rw [hend]; exact Nat.add_lt_add_left hlt offset), hlimit,
        List.append_assoc, List.append_assoc, ← hrun.eq_lexemesFrom, hlate, List.cons_append]
    · refine ⟨_, lexemesFrom_ne_nil functions offset (shared ++ more'), ?_⟩
      rw [endingBefore_eq_nil, List.nil_append]
      intro l hl
      rcases List.mem_cons.1 hl with rfl | hl
      · rw [hend]
        omega
      · have hle := next.le_offset hl
        rw [Text.byteLength_append] at hlt
        omega

/-- **Tokens do not depend on what comes later**: if two texts start alike, the tokens of the first
that end before the last shared character are the first tokens of both, and the reports made while
scanning them are the same. -/
theorem tokenize_prefix_stable (settings : Settings) (shared more more' : String) :
    ∃ reports,
      Begins settings (shared ++ more) ((tokenize settings (shared ++ more)).tokens.filter
        fun t => t.offset + t.size < Text.size shared) reports ∧
      Begins settings (shared ++ more') ((tokenize settings (shared ++ more)).tokens.filter
        fun t => t.offset + t.size < Text.size shared) reports := by
  have hrun := run_lexemesFrom settings.functions 0 (shared ++ more).toList
  obtain ⟨late, hne, hls⟩ := hrun.exists_lexemesFrom_eq String.toList_append more.toList
  obtain ⟨late', hne', hls'⟩ := hrun.exists_lexemesFrom_eq String.toList_append more'.toList
  rw [← String.toList_append] at hls hls'
  have htokens : (endingBefore (0 + Text.byteLength shared.toList)
      (lexemesFrom settings.functions 0 (shared ++ more).toList)).map (·.token) =
        (tokenize settings (shared ++ more)).tokens.filter
          fun t => t.offset + t.size < Text.size shared := by
    rw [Nat.zero_add, Text.byteLength_toList, tokenize, List.filter_map]
    rfl
  rw [← htokens]
  exact ⟨_, begins_of_lexemes_eq hne hls, begins_of_lexemes_eq hne' hls'⟩

end ExprScan
