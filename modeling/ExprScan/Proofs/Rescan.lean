import ExprScan.Proofs.Composition
import ExprScan.Proofs.MaximalMunch

/-!
# Printing tokens and scanning them again

Tokens can be printed: an operator or a delimiter in its spelling, any other token as it stood in
the text, with blanks between one token and the next. The printed text has the same tokens again,
of the same kinds and with the same reports. Their texts are the same too, except that the power has
two spellings, of which one is printed.

This ties the spellings of the kinds to the scanner: a wrong spelling, or a rule whose piece depends
on more than its own characters, would show here.

Main statement: `tokenize_printTokens`.
-/

namespace ExprScan

open Grammar

variable {functions : NameSet} {offset : Nat} {cs : List Char} {ls : List Lexeme} {c : Char}
  {m : Munch}

/-! ### Printing -/

/-- How a token of a given kind and text is printed: operators and delimiters by their label, which
is their spelling, other tokens by their text. -/
def Kind.printed (kind : Kind) (text : String) : String :=
  match kind with
  | .delimiter _ => kind.label
  | .operator _ => kind.label
  | _ => text

/-- A token as printed. -/
def Token.printed (t : Token) : String := t.kind.printed t.text

/-- What stands between two printed tokens: blanks, one at least. -/
structure Gap where
  /-- The blanks. -/
  text : String
  /-- There is a blank. -/
  nonempty : text ≠ ""
  /-- There is nothing else. -/
  blank : ∀ c ∈ text.toList, c ∈ blankChars

instance : Inhabited Gap := ⟨⟨" ", by decide, List.forall_mem_singleton.2 (by decide)⟩⟩

/-- Tokens printed one after the other, each with the next one of the gaps before it. -/
def printAfterGaps (gaps : Nat → Gap) : List Token → String
  | [] => ""
  | t :: ts => (gaps 0).text ++ (t.printed ++ printAfterGaps (fun n => gaps (n + 1)) ts)

/-- Tokens printed one after the other, with the gaps between them. Nothing stands before the first
token or after the last. -/
def printTokens (gaps : Nat → Gap) : List Token → String
  | [] => ""
  | t :: ts => t.printed ++ printAfterGaps gaps ts

/-- The spelling that is printed for a text: `**` is printed for the other spelling of the power. -/
def respelled (text : String) : String := if text = "/*" then "**" else text

/-- Each fixed spelling is printed as it is written, with the one exception. -/
theorem printed_of_mem_spellings {word : String} {kind : Kind} (h : (word, kind) ∈ spellings) :
    kind.printed word = respelled word := by
  have htable : ∀ e ∈ spellings, e.2.printed e.1 = respelled e.1 := by decide
  exact htable _ h

theorem Grammar.Matches.printed_eq {text : List Char} {kind : Kind}
    (h : Matches functions text kind) :
    kind.printed (String.ofList text) = respelled (String.ofList text) := by
  by_cases htext : String.ofList text = "/*"
  · have hpower : Matches functions text (.operator .power) :=
      matches_ofList (by rw [htext]; decide)
    rw [h.kind_unique hpower, htext]
    rfl
  · cases h with
    | word hc hmore hk =>
      rw [respelled, if_neg htext]
      cases hk <;> rfl
    | spelled hmem =>
      rw [String.ofList_toList]
      exact printed_of_mem_spellings hmem
    | _ =>
      rw [respelled, if_neg htext]
      rfl

theorem printed_munch (hm : m = (Rule.ofChar c).munch functions [] (c :: cs)) :
    m.kind.printed (String.ofList m.taken) = respelled (String.ofList m.taken) := by
  by_cases hk : m.kind = .unknown
  · have htaken : m.taken = [c] := by
      rw [hm] at hk ⊢
      exact taken_munch_of_unknown hk
    have hne : String.ofList [c] ≠ "/*" := by
      rw [← String.toList_inj.ne]
      simp
    rw [hk, htaken, respelled, if_neg hne]
    rfl
  · rw [hm] at hk ⊢
    exact (matches_munch hk).printed_eq

/-! ### One token again -/

/-- The piece in its printed spelling, with another text behind it. -/
def Munch.reprinted (m : Munch) (rest : List Char) : Munch :=
  { m with taken := (respelled (String.ofList m.taken)).toList, rest }

theorem munch_eq_power (hm : m = (Rule.ofChar c).munch functions [] (c :: cs))
    (htext : String.ofList m.taken = "/*") : m.kind = .operator .power ∧ m.flaws = [] := by
  have htaken : m.taken = ['/', '*'] := String.ofList_injective htext
  have hcut : c :: cs = '/' :: '*' :: m.rest := by
    rw [Munch.eq_taken_append hm, htaken]
    rfl
  obtain ⟨rfl, rfl⟩ := List.cons.inj hcut
  rw [hm]
  exact ⟨rfl, rfl⟩

/-- From its printed spelling the scanner takes the piece again, if it does not reach into what
follows. -/
theorem munch_reprinted {rest : List Char} (hc : Text.isSpace c = false)
    (hm : m = (Rule.ofChar c).munch functions [] (c :: cs)) (hrest : m.StopsAt rest) :
    ∃ d ds, (m.reprinted rest).taken ++ rest = d :: ds ∧ Text.isSpace d = false ∧
      m.reprinted rest = (Rule.ofChar d).munch functions [] (d :: ds) := by
  by_cases htext : String.ofList m.taken = "/*"
  · obtain ⟨hk, hf⟩ := munch_eq_power hm htext
    refine ⟨'*', '*' :: rest, ?_, by decide, ?_⟩
    · simp only [Munch.reprinted, respelled, if_pos htext]
      rfl
    · simp only [Munch.reprinted, respelled, if_pos htext, hk, hf]
      rfl
  · have hsame : m.reprinted rest = { m with rest } := by
      rw [Munch.reprinted, respelled, if_neg htext, String.toList_ofList]
    obtain ⟨more, hmore⟩ := Munch.exists_taken_eq hm
    have hcons : m.taken ++ rest = c :: (more ++ rest) := by rw [hmore, List.cons_append]
    refine ⟨c, more ++ rest, ?_, hc, ?_⟩
    · rw [hsame, hcons]
    · rw [hsame, ← hcons, Rule.munch_taken_append hm hrest]

/-- What a report says, apart from its place. -/
def Diagnostic.wording (d : Diagnostic) : Option Code × String := (d.code, d.message)

/-- The reports of a token do not depend on its place or on how the power is spelled. -/
theorem wording_reprinted (hm : m = (Rule.ofChar c).munch functions [] (c :: cs))
    (rest : List Char) (o o' : Nat) :
    ((m.reprinted rest).lexeme o').diagnostics.map (·.wording) =
      (m.lexeme o).diagnostics.map (·.wording) := by
  by_cases htext : String.ofList m.taken = "/*"
  · simp [Lexeme.diagnostics, Munch.lexeme, Munch.reprinted, (munch_eq_power hm htext).2]
  · simp only [Lexeme.diagnostics, Munch.lexeme, Munch.reprinted, respelled, if_neg htext,
      String.toList_ofList, List.map_map]
    rfl

/-! ### All tokens again -/

/-- `Rereads ls ls'`: the tokens `ls'` are the tokens `ls` once more, in the printed spelling. -/
structure Rereads (ls ls' : List Lexeme) : Prop where
  /-- The kinds are the same. -/
  kinds : ls'.map (·.token.kind) = ls.map (·.token.kind)
  /-- The texts are the same but for the spelling. -/
  texts : ls'.map (·.token.text) = ls.map (respelled ·.token.text)
  /-- The reports say the same. -/
  reports : ls'.flatMap (·.diagnostics.map (·.wording)) = ls.flatMap (·.diagnostics.map (·.wording))

theorem Rereads.finish (offset offset' : Nat) :
    Rereads [⟨.finish offset, []⟩] [⟨.finish offset', []⟩] :=
  ⟨rfl, rfl, rfl⟩

/-- If a token is printed after blanks and before a text that it does not reach into, and that text
has the other tokens again, then the whole has all of them again. -/
theorem Run.exists_rereads_cons {blanks rest : List Char} (hb : ∀ c ∈ blanks, Text.isSpace c = true)
    (hc : Text.isSpace c = false) (hm : m = (Rule.ofChar c).munch functions [] (c :: cs))
    (hrest : m.StopsAt rest) (start : Nat)
    (next : ∀ offset, ∃ ls', Run functions offset rest ls' ∧ Rereads ls ls') (offset : Nat) :
    ∃ ls', Run functions offset
        (blanks ++ ((m.lexeme start).token.printed.toList ++ rest)) ls' ∧
      Rereads (m.lexeme start :: ls) ls' := by
  obtain ⟨d, ds, hcons, hd, hmunch⟩ := munch_reprinted hc hm hrest
  obtain ⟨ls', hrun, hreads⟩ :=
    next (offset + Text.byteLength blanks + Text.byteLength (m.reprinted rest).taken)
  have hprinted : (m.lexeme start).token.printed.toList = (m.reprinted rest).taken :=
    congrArg String.toList (printed_munch hm)
  refine ⟨(m.reprinted rest).lexeme (offset + Text.byteLength blanks) :: ls', ?_, ?_, ?_, ?_⟩
  · rw [hprinted, hcons]
    exact .token hb hd hmunch hrun
  · rw [List.map_cons, List.map_cons, hreads.kinds]
    rfl
  · rw [List.map_cons, List.map_cons, hreads.texts]
    exact congrArg (· :: _) String.ofList_toList
  · rw [List.flatMap_cons, List.flatMap_cons, hreads.reports, wording_reprinted hm]

/-- The tokens of a run without the mark of the end. -/
def pieces (ls : List Lexeme) : List Token := (ls.map (·.token)).filter fun t => !t.isEnd

theorem pieces_cons (hm : m = (Rule.ofChar c).munch functions [] (c :: cs)) (offset : Nat)
    (ls : List Lexeme) :
    pieces (m.lexeme offset :: ls) = (m.lexeme offset).token :: pieces ls := by
  rw [pieces, List.map_cons, List.filter_cons_of_pos (by simp [isEnd_lexeme hm]), pieces]

theorem Gap.isSpace_of_mem (g : Gap) {c : Char} (hc : c ∈ g.text.toList) :
    Text.isSpace c = true :=
  isSpace_iff_mem.2 (g.blank c hc)

/-- A token does not reach into what is printed after it: that is nothing, or starts with a blank.
Where a token follows, the one before it is closed, for otherwise it had taken all there is. -/
theorem stopsAt_printAfterGaps (hm : m = (Rule.ofChar c).munch functions [] (c :: cs))
    (next : Run functions offset m.rest ls) (gaps : Nat → Gap) :
    m.StopsAt (printAfterGaps gaps (pieces ls)).toList := by
  cases hp : pieces ls with
  | nil => exact .nil m
  | cons t ts =>
    have hclosed : m.isOpen = false := by
      rw [Bool.eq_false_iff]
      intro hopen
      rw [Rule.rest_eq_nil_of_isOpen hm hopen] at next
      rw [next.eq_lexemesFrom, lexemesFrom_of_nil rfl] at hp
      cases hp
    obtain ⟨g, gs, hg⟩ := List.exists_cons_of_ne_nil
      (String.toList_eq_nil_iff.not.2 (gaps 0).nonempty)
    rw [printAfterGaps, String.toList_append, hg]
    exact .of_isSpace hclosed ((gaps 0).isSpace_of_mem (by rw [hg]; exact List.mem_cons_self)) _

/-- What is printed after gaps has the tokens of the run again. -/
theorem Run.exists_rereads {start : Nat} (h : Run functions start cs ls) (gaps : Nat → Gap)
    (offset : Nat) :
    ∃ ls', Run functions offset (printAfterGaps gaps (pieces ls)).toList ls' ∧ Rereads ls ls' := by
  induction h generalizing gaps offset with
  | finish hb => exact ⟨_, Run.finish (List.forall_mem_nil _), .finish _ _⟩
  | @token start blanks cs c m ls hb hc hm next ih =>
    rw [pieces_cons hm, printAfterGaps, String.toList_append, String.toList_append]
    exact Run.exists_rereads_cons (fun c => (gaps 0).isSpace_of_mem) hc hm
      (stopsAt_printAfterGaps hm next _) _ (ih _) offset

theorem Run.exists_rereads_printTokens {start : Nat} (h : Run functions start cs ls)
    (gaps : Nat → Gap) :
    ∃ ls', Run functions 0 (printTokens gaps (pieces ls)).toList ls' ∧ Rereads ls ls' := by
  cases h with
  | finish hb => exact ⟨_, Run.finish (List.forall_mem_nil _), .finish _ _⟩
  | @token _ blanks cs c m ls hb hc hm next =>
    rw [pieces_cons hm, printTokens, String.toList_append]
    exact Run.exists_rereads_cons (List.forall_mem_nil _) hc hm
      (stopsAt_printAfterGaps hm next gaps) _ (next.exists_rereads gaps) 0

/-- **Printing and scanning again**: whatever blanks stand between the tokens of a text when they
are printed, the printed text has tokens of the same kinds, with the same texts except that `/*` has
become `**`, and reports of the same codes and messages. -/
theorem tokenize_printTokens (settings : Settings) (source : String) (gaps : Nat → Gap) :
    (tokenize settings (printTokens gaps (tokenize settings source).pieces)).tokens.map (·.kind) =
        (tokenize settings source).tokens.map (·.kind) ∧
      (tokenize settings (printTokens gaps (tokenize settings source).pieces)).tokens.map (·.text) =
        (tokenize settings source).tokens.map (fun t => if t.text = "/*" then "**" else t.text) ∧
      (tokenize settings (printTokens gaps (tokenize settings source).pieces)).diagnostics.map
          (fun d => (d.code, d.message)) =
        (tokenize settings source).diagnostics.map (fun d => (d.code, d.message)) := by
  have hrun := run_lexemesFrom settings.functions 0 source.toList
  obtain ⟨ls', hrun', hreads⟩ := hrun.exists_rereads_printTokens gaps
  have hpieces : (tokenize settings source).pieces =
      pieces (lexemesFrom settings.functions 0 source.toList) := rfl
  rw [hpieces, hrun'.tokenize_eq, hrun.tokenize_eq]
  refine ⟨?_, ?_, ?_⟩
  · rw [List.map_map, List.map_map]
    exact hreads.kinds
  · rw [List.map_map, List.map_map]
    exact hreads.texts
  · cases settings.validate with
    | false => rfl
    | true =>
      simp only [if_true, List.map_flatMap]
      exact hreads.reports

example : printTokens (fun _ => default) (tokenize {} "a/*b++.5").pieces = "a ** b ++ .5" := by
  decide +kernel

end ExprScan
