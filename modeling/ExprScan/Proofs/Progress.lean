import ExprScan.Proofs.SessionSafety

/-!
# Sessions make progress

Who asks a session for tokens until the mark of the end comes has no bound on the number of calls
but the text that is left. This module gives the bound: whatever was done with the session before, a
call moves the cursor on or finds the end of the text, and as every token takes a character that is
no blank, there are no more tokens than such characters.

## The model

`Exhausts` is the loop that asks until the mark of the end comes. It is a relation, so that a loop
that goes on for ever is in it for no list of tokens, and that it holds for some list is what has to
be proved.

Main statement: `performAll_progresses`.
-/

namespace ExprScan

namespace Session

variable {s s' : Session} {ts : List Token} {before token rest : List Char} {c : Char}
  {cs : List Char} {m : Munch}

/-! ### One call -/

theorem Cuts.position_of_nil (h : s.Cuts before token rest)
    (hr : rest.dropWhile Text.isSpace = []) :
    s.startToken.cursor.position = s.cursor.size := by
  have hstart := h.startToken
  rw [hr] at hstart
  exact hstart.size_eq.symm

theorem Cuts.position_lt_of_cons (h : s.Cuts before token rest)
    (hm : m = (Rule.ofChar c).munch s.functions [] (c :: cs)) :
    s.cursor.position < (s.startToken.past [] m).cursor.position := by
  have hpos := Munch.byteLength_taken_pos hm
  have hle := (h.safe_startToken (a := .nextToken) (by simp)).position_le
  show s.cursor.position < s.startToken.cursor.position + Text.byteLength m.taken
  omega

/-- Behind a token, the text that is left has fewer characters that are no blanks. -/
theorem countP_rest_lt (hr : rest.dropWhile Text.isSpace = c :: cs)
    (hm : m = (Rule.ofChar c).munch s.functions [] (c :: cs)) :
    m.rest.countP (fun c => !Text.isSpace c) < rest.countP fun c => !Text.isSpace c := by
  have hc : Text.isSpace c = false := eq_false_of_dropWhile_eq_cons hr
  obtain ⟨more, hmore⟩ := Munch.exists_taken_eq hm
  rw [← List.takeWhile_append_dropWhile (p := Text.isSpace) (l := rest), hr,
    Munch.eq_taken_append hm, hmore]
  simp only [List.countP_append, List.countP_cons, List.cons_append, hc, Bool.not_false, if_true]
  omega

/-! ### Calls up to the end -/

/-- `s.Exhausts ts s'`: asked for tokens until the mark of the end comes, the session gives `ts`
before the mark and ends as `s'`. -/
inductive Exhausts : Session → List Token → Session → Prop where
  /-- The mark of the end comes. -/
  | finish {s s' : Session} {t : Token} (hn : s.nextToken = .ok (t, s')) (ht : t.isEnd = true) :
      Exhausts s [] s'
  /-- Another token comes, and then the others. -/
  | token {s s₁ s' : Session} {t : Token} {ts : List Token} (hn : s.nextToken = .ok (t, s₁))
      (ht : t.isEnd = false) (more : Exhausts s₁ ts s') : Exhausts s (t :: ts) s'

/-- Asking for a number of tokens gives the same ones, if that number is great enough to find the
end. -/
theorem Exhausts.takeTokens (h : s.Exhausts ts s') {n : Nat} (hlt : ts.length < n) :
    takeTokens n s = .ok (ts, s') := by
  induction h generalizing n with
  | @finish s s' t hn ht =>
    have hnext := next_of_nextToken hn
    rw [if_pos ht] at hnext
    obtain ⟨n, rfl⟩ := Nat.exists_eq_succ_of_ne_zero (Nat.ne_of_gt hlt)
    exact takeTokens_of_none hnext
  | @token s s₁ s' t ts hn ht more ih =>
    have hnext := next_of_nextToken hn
    rw [ht, if_neg Bool.false_ne_true] at hnext
    obtain ⟨n, rfl⟩ := Nat.exists_eq_succ_of_ne_zero (Nat.ne_of_gt (Nat.zero_lt_of_lt hlt))
    exact takeTokens_of_some hnext (ih (Nat.lt_of_succ_lt_succ hlt))

/-- The mark of the end comes, at the end of the text, after as many tokens as there are characters
left that are no blanks, or fewer. -/
theorem Cuts.exists_exhausts (h : s.Cuts before token rest) :
    ∃ ts s', s.Exhausts ts s' ∧ s'.cursor.position = s.cursor.size ∧
      ts.length ≤ rest.countP fun c => !Text.isSpace c := by
  induction hn : rest.countP (fun c => !Text.isSpace c) using Nat.strongRecOn
    generalizing s before token rest with
  | ind n ih =>
    subst hn
    cases hr : rest.dropWhile Text.isSpace with
    | nil =>
      refine ⟨[], s.startToken, .finish (h.nextToken_of_nil hr) rfl, h.position_of_nil hr, ?_⟩
      exact Nat.zero_le _
    | cons c cs =>
      generalize hm : (Rule.ofChar c).munch s.functions [] (c :: cs) = m
      have hlt := countP_rest_lt hr hm.symm
      obtain ⟨ts, s', hexhausts, hposition, hlen⟩ :=
        ih _ hlt (h.cuts_token hr hm.symm) rfl
      refine ⟨_ :: ts, s', .token (h.nextToken_of_cons hr hm.symm) (isEnd_lexeme hm.symm _)
        hexhausts, hposition, ?_⟩
      rw [List.length_cons]
      omega

/-! ### Any session -/

/-- What follows from here on, for a session. -/
structure Progresses (s : Session) : Prop where
  /-- The next call gives a token and moves the cursor on, or it gives the mark of the end and leaves
  the cursor at the end of the text. -/
  step : ∃ t s', s.nextToken = .ok (t, s') ∧
    (t.isEnd = false ∧ s.cursor.position < s'.cursor.position ∨
      t = .finish s.cursor.size ∧ s'.cursor.position = s.cursor.size)
  /-- Calls up to the end of the text give some tokens, whether the end is marked by a token or by
  nothing. There are no more of them than characters behind the cursor that are no blanks. -/
  run : ∃ passed left ts s', s.cursor.source.toList = passed ++ left ∧
    Text.byteLength passed = s.cursor.position ∧ s.Exhausts ts s' ∧ Drains s ts s' ∧
    s.collect = .ok (ts, s') ∧ s'.cursor.position = s.cursor.size ∧
    ts.length ≤ left.countP fun c => !Text.isSpace c

theorem Cuts.progresses (h : s.Cuts before token rest) : s.Progresses := by
  refine ⟨?_, ?_⟩
  · cases hr : rest.dropWhile Text.isSpace with
    | nil =>
      have hend := h.position_of_nil hr
      refine ⟨_, _, h.nextToken_of_nil hr, .inr ⟨congrArg Token.finish hend, hend⟩⟩
    | cons c cs =>
      exact ⟨_, _, h.nextToken_of_cons hr rfl,
        .inl ⟨isEnd_lexeme rfl _, h.position_lt_of_cons rfl⟩⟩
  · obtain ⟨ts, s', hexhausts, hposition, hlen⟩ := h.exists_exhausts
    have hlt : ts.length < rest.length + 1 := Nat.lt_succ_of_le (hlen.trans List.countP_le_length)
    have htake := hexhausts.takeTokens hlt
    obtain ⟨ts', s'', htake', hdrains, -⟩ := h.drains (rest.length + 1) (Nat.lt_succ_self _)
    rw [htake] at htake'
    cases htake'
    refine ⟨before ++ token, rest, ts, s', ?_, ?_, hexhausts, hdrains, ?_, hposition, hlen⟩
    · rw [h.source, List.append_assoc]
    · rw [Text.byteLength_append, h.position]
    · rw [collect, h.after_eq, htake]

/-- **Sessions make progress**: whatever was done with a session on a text, the next call gives a
token and moves the cursor on, or finds the end of the text. So asking until the end is found comes
to an end, after no more tokens than there are characters left that are no blanks. -/
theorem performAll_progresses (source : String) (actions : List Action) :
    ∃ s, (ofString source).performAll actions = .ok s ∧ s.cursor.source = source ∧
      s.Progresses := by
  have h : (ofString source).InOrder := ⟨_, _, _, cuts_ofString source⟩
  obtain ⟨s, hall, ⟨before, token, rest, hcuts⟩, hsource⟩ := h.performAll actions
  exact ⟨s, hall, hsource, hcuts.progresses⟩

end Session

end ExprScan
