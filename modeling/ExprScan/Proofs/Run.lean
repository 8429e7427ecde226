import ExprScan.Scan.Tokenize
import Mathlib.Data.List.TakeWhile

/-!
# Runs of the scanner

A run goes through a text from left to right: blanks, a token, blanks, a token, until nothing but
blanks is left. This module says so as a relation between a text and its tokens, `Run`, so that a
law of the tokens is proved by induction on the run: one case for the end of the text, one for a
token and what follows it.

Main statements: the tokens of a text come from a run (`run_lexemesFrom`), and a run is determined
by its text (`Run.eq_lexemesFrom`) and ends with the mark of the end (`Run.exists_eq_concat`). What
one step takes starts with the character that decided the rule (`Rule.taken_munch_eq_cons`) and has
a kind that the rule can give (`Rule.gives_munch`).
-/

namespace ExprScan

/-! ### One step -/

theorem eq_false_of_dropWhile_eq_cons {p : Char → Bool} {c : Char} {cs rest : List Char}
    (h : cs.dropWhile p = c :: rest) : p c = false := by
  have hnot := List.head?_dropWhile_not p cs
  simpa [h] using hnot

/-- The rule that a character decides takes that character first. -/
theorem Rule.taken_munch_eq_cons (functions : NameSet) (c : Char) (cs : List Char) :
    ∃ more, ((Rule.ofChar c).munch functions [] (c :: cs)).taken = c :: more := by
  have hcut := Rule.munch_cut functions [] (Rule.ofChar c) (c :: cs)
  obtain ⟨d, more, hd⟩ := List.exists_cons_of_ne_nil (Rule.taken_munch_ne_nil functions c cs)
  rw [hd, List.cons_append, List.cons.injEq] at hcut
  exact ⟨more, by rw [hd, hcut.1]⟩

theorem munchNumber_kind (cs : List Char) : (munchNumber cs).kind = .literal .numeric := by
  unfold munchNumber
  split <;> rfl

theorem munchEnclosed_kind (flaw : Flaw) (opening closing : Char) (cs : List Char) :
    (munchEnclosed flaw opening closing cs).kind = .literal .string := by
  unfold munchEnclosed
  split <;> rfl

/-- An enclosed piece has no closing character but at its end, and is flawed if there is none. -/
theorem munchEnclosed_spec (flaw : Flaw) (opening closing : Char) (cs : List Char) :
    ∃ body close, (munchEnclosed flaw opening closing cs).taken = opening :: (body ++ close) ∧
      (∀ c ∈ body, c ≠ closing) ∧
      (close = [] ∧ (munchEnclosed flaw opening closing cs).flaws = [flaw] ∨
        close = [closing] ∧ (munchEnclosed flaw opening closing cs).flaws = []) := by
  have hbody : ∀ c ∈ cs.takeWhile (· != closing), c ≠ closing :=
    fun c hc => by simpa using List.mem_takeWhile_imp hc
  unfold munchEnclosed
  split
  · exact ⟨_, [], by rw [List.append_nil], hbody, .inl ⟨rfl, rfl⟩⟩
  · rename_i c rest hd
    have hc : c = closing := by simpa using eq_false_of_dropWhile_eq_cons hd
    exact ⟨_, [c], rfl, hbody, .inr ⟨by rw [hc], rfl⟩⟩

theorem singleKind_mem_or_unknown (c : Char) :
    (c, singleKind c) ∈ singles ∨ singleKind c = .unknown := by
  unfold singleKind
  generalize hf : singles.find? _ = found
  cases found with
  | none => exact .inr rfl
  | some entry =>
    have hc := List.find?_some hf
    simp only [beq_iff_eq] at hc
    refine .inl ?_
    rw [← hc]
    exact List.mem_of_find?_eq_some hf

/-- Whether a rule can give a kind. -/
def Rule.gives : Rule → Kind → Bool
  | .number, .literal .numeric => true
  | .comma, .separator .comma => true
  | .bracket, .literal .string => true
  | .word, .literal .boolean => true
  | .word, .separator .membership => true
  | .word, .functionName => true
  | .word, .accessor => true
  | .word, .variableName => true
  | .string, .literal .string => true
  | .operator, .delimiter _ => true
  | .operator, .operator _ => true
  | .operator, .unknown => true
  | _, _ => false

theorem gives_singleKind (c : Char) : Rule.gives .operator (singleKind c) = true := by
  have htable : ∀ entry ∈ singles, Rule.gives .operator entry.2 = true := by decide
  rcases singleKind_mem_or_unknown c with h | h
  · exact htable _ h
  · rw [h]
    rfl

/-- A rule gives its piece one of its own kinds. -/
theorem Rule.gives_munch (functions : NameSet) (before : List Char) (r : Rule) (cs : List Char) :
    r.gives (r.munch functions before cs).kind = true := by
  cases r with
  | number => simp only [Rule.munch, munchNumber_kind]; rfl
  | comma => cases cs <;> rfl
  | bracket =>
    cases cs with
    | nil => rfl
    | cons c cs => simp only [Rule.munch, munchBracket, munchEnclosed_kind]; rfl
  | word =>
    simp only [Rule.munch, munchWord, wordKind, keyword?]
    split_ifs <;> rfl
  | string =>
    cases cs with
    | nil => rfl
    | cons c cs => simp only [Rule.munch, munchString, munchEnclosed_kind]; rfl
  | operator =>
    rcases cs with _ | ⟨c, _ | ⟨d, cs⟩⟩
    · rfl
    · exact gives_singleKind c
    · simp only [Rule.munch, munchOperator]
      split
      · rfl
      · exact gives_singleKind c

theorem Rule.kind_munch_ne_endOfText (functions : NameSet) (before : List Char) (r : Rule)
    (cs : List Char) : (r.munch functions before cs).kind ≠ .endOfText := by
  intro h
  have hgives := r.gives_munch functions before cs
  rw [h] at hgives
  cases r <;> cases hgives

/-! ### What a step takes -/

namespace Munch

variable {functions : NameSet} {c : Char} {cs : List Char} {m : Munch}

theorem eq_taken_append {before : List Char} {r : Rule} (hm : m = r.munch functions before cs) :
    cs = m.taken ++ m.rest := by
  rw [hm, Rule.munch_cut]

theorem exists_taken_eq (hm : m = (Rule.ofChar c).munch functions [] (c :: cs)) :
    ∃ more, m.taken = c :: more := by
  rw [hm]
  exact Rule.taken_munch_eq_cons functions c cs

theorem byteLength_taken_pos (hm : m = (Rule.ofChar c).munch functions [] (c :: cs)) :
    0 < Text.byteLength m.taken := by
  obtain ⟨more, hmore⟩ := exists_taken_eq hm
  rw [hmore]
  exact Nat.add_pos_left c.utf8Size_pos _

end Munch

/-! ### Runs -/

/-- The mark of the end of the text. -/
def Token.finish (offset : Nat) : Token := ⟨.endOfText, "", offset⟩

/-- The token that a rule took at an offset, with what is wrong with it. -/
def Munch.lexeme (m : Munch) (offset : Nat) : Lexeme :=
  ⟨⟨m.kind, String.ofList m.taken, offset⟩, m.flaws⟩

theorem Munch.size_lexeme (m : Munch) (offset : Nat) :
    (m.lexeme offset).token.size = Text.byteLength m.taken := Text.size_ofList m.taken

theorem isEnd_lexeme {functions : NameSet} {c : Char} {cs : List Char} {m : Munch}
    (hm : m = (Rule.ofChar c).munch functions [] (c :: cs)) (offset : Nat) :
    (m.lexeme offset).token.isEnd = false := by
  have hk := Rule.kind_munch_ne_endOfText functions [] (Rule.ofChar c) (c :: cs)
  rw [← hm] at hk
  simpa [Token.isEnd, Munch.lexeme] using hk

/-- `Run functions offset cs ls`: scanning the text `cs`, which starts at byte `offset`, gives
`ls`. -/
inductive Run (functions : NameSet) : Nat → List Char → List Lexeme → Prop where
  /-- Only blanks are left; the mark of the end follows them. -/
  | finish {offset : Nat} {blanks : List Char} (hb : ∀ c ∈ blanks, Text.isSpace c = true) :
      Run functions offset blanks [⟨.finish (offset + Text.byteLength blanks), []⟩]
  /-- Blanks, then the piece that the rule of the next character takes, then the tokens of what is
  left. -/
  | token {offset : Nat} {blanks cs : List Char} {c : Char} {m : Munch} {ls : List Lexeme}
      (hb : ∀ c ∈ blanks, Text.isSpace c = true) (hc : Text.isSpace c = false)
      (hm : m = (Rule.ofChar c).munch functions [] (c :: cs))
      (next : Run functions (offset + Text.byteLength blanks + Text.byteLength m.taken) m.rest ls) :
      Run functions offset (blanks ++ c :: cs) (m.lexeme (offset + Text.byteLength blanks) :: ls)

/-- Scanning is a run. -/
theorem run_lexemesFrom (functions : NameSet) (offset : Nat) (cs : List Char) :
    Run functions offset cs (lexemesFrom functions offset cs) := by
  induction offset, cs using lexemesFrom.induct functions with
  | case1 offset cs h =>
    have hall : ∀ c ∈ cs, Text.isSpace c = true := List.dropWhile_eq_nil_iff.1 h
    rw [lexemesFrom_of_nil h, List.takeWhile_eq_self_iff.2 hall]
    exact .finish hall
  | case2 offset cs start c rest h m ih =>
    have hc : Text.isSpace c = false := eq_false_of_dropWhile_eq_cons h
    have hcut : cs = cs.takeWhile Text.isSpace ++ c :: rest := by
      rw [← h, List.takeWhile_append_dropWhile]
    have step : Run functions offset (cs.takeWhile Text.isSpace ++ c :: rest) _ :=
      .token (fun _ => List.mem_takeWhile_imp) hc rfl ih
    rw [← hcut] at step
    rw [lexemesFrom_of_cons h]
    exact step

theorem Run.le_offset {functions : NameSet} {offset : Nat} {cs : List Char} {ls : List Lexeme}
    (h : Run functions offset cs ls) {l : Lexeme} (hl : l ∈ ls) :
    offset ≤ l.token.offset := by
  induction h with
  | finish hb =>
    rw [List.mem_singleton.1 hl]
    exact Nat.le_add_right _ _
  | @token offset blanks cs c m ls hb hc hm next ih =>
    rcases List.mem_cons.1 hl with rfl | hl
    · exact Nat.le_add_right _ _
    · have := ih hl
      omega

/-- A token of a run over the end of a text stands in the text at its offset. -/
theorem Run.exists_toList_eq {functions : NameSet} {offset : Nat} {cs : List Char}
    {ls : List Lexeme} (h : Run functions offset cs ls) {l : Lexeme} (hl : l ∈ ls) :
    ∀ before, Text.byteLength before = offset →
      ∃ before' after, before ++ cs = before' ++ (l.token.text.toList ++ after) ∧
        Text.byteLength before' = l.token.offset := by
  induction h with
  | @finish offset blanks hb =>
    rintro before rfl
    rw [List.mem_singleton.1 hl]
    exact ⟨before ++ blanks, [], by simp [Token.finish], Text.byteLength_append _ _⟩
  | @token offset blanks cs c m ls hb hc hm next ih =>
    rintro before rfl
    have hcut := Munch.eq_taken_append hm
    rw [hcut]
    rcases List.mem_cons.1 hl with rfl | hl
    · exact ⟨before ++ blanks, m.rest, by simp [Munch.lexeme], Text.byteLength_append _ _⟩
    · obtain ⟨before', after, heq, hb'⟩ := ih hl (before ++ blanks ++ m.taken) (by
        rw [Text.byteLength_append, Text.byteLength_append])
      exact ⟨before', after, by rw [← heq]; simp, hb'⟩

/-- A run gives tokens that do not mark the end, not more than there are characters, and then the
mark of the end, behind the text. Each of the former starts with a character that is no blank. -/
theorem Run.exists_eq_concat {functions : NameSet} {offset : Nat} {cs : List Char}
    {ls : List Lexeme} (h : Run functions offset cs ls) :
    ∃ early, ls = early ++ [⟨.finish (offset + Text.byteLength cs), []⟩] ∧
      (∀ l ∈ early, l.token.isEnd = false ∧
        ∃ c more, l.token.text.toList = c :: more ∧ Text.isSpace c = false) ∧
      early.length ≤ cs.length := by
  induction h with
  | finish hb => exact ⟨[], rfl, List.forall_mem_nil _, Nat.zero_le _⟩
  | @token offset blanks cs c m ls hb hc hm next ih =>
    obtain ⟨early, rfl, hall, hlen⟩ := ih
    have hcut := Munch.eq_taken_append hm
    obtain ⟨more, hmore⟩ := Munch.exists_taken_eq hm
    refine ⟨m.lexeme (offset + Text.byteLength blanks) :: early, ?_, ?_, ?_⟩
    · rw [hcut]
      simp [Nat.add_assoc]
    · exact List.forall_mem_cons.2
        ⟨⟨isEnd_lexeme hm _, c, more, by simp [Munch.lexeme, hmore], hc⟩, hall⟩
    · rw [hcut, hmore]
      simp only [List.length_cons, List.length_append]
      omega

/-- A text has no other run. -/
theorem Run.eq_lexemesFrom {functions : NameSet} {offset : Nat} {cs : List Char} {ls : List Lexeme}
    (h : Run functions offset cs ls) : ls = lexemesFrom functions offset cs := by
  induction h with
  | finish hb =>
    rw [lexemesFrom_of_nil (List.dropWhile_eq_nil_iff.2 hb), List.takeWhile_eq_self_iff.2 hb]
    rfl
  | @token offset blanks cs c m ls hb hc hm next ih =>
    have hd : (blanks ++ c :: cs).dropWhile Text.isSpace = c :: cs := by
      rw [List.dropWhile_append_of_pos hb, List.dropWhile_cons_of_neg (by simp [hc])]
    have ht : (blanks ++ c :: cs).takeWhile Text.isSpace = blanks := by
      rw [List.takeWhile_append_of_pos hb, List.takeWhile_cons_of_neg (by simp [hc]),
        List.append_nil]
    rw [lexemesFrom_of_cons hd, ht, ih, hm]
    rfl

end ExprScan
