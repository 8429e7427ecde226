import ExprScan.Proofs.FlawSpan
import ExprScan.Proofs.Run

/-!
# Reports read off the tokens

The scanner finds flaws while it moves: after `0x` no digit was counted, after a quote no quote was
found. Here the same flaws are read off the finished tokens, each from its kind and its text alone.

Main statement: `tokenize_diagnostics_eq_flatMap`.
-/

namespace ExprScan

/-! ### Flaws of a finished token -/

/-- What is wrong with a token, by its kind and its text. -/
def flawsOf : Kind → List Char → List Flaw
  | .literal .numeric, text =>
    if text = ['0', 'x'] then [.noHexDigit] else if text = ['.'] then [.noDigit] else []
  | .literal .string, opening :: body =>
    if opening = '[' then if body.getLast? = some ']' then [] else [.openBracket]
    else if body.getLast? = some opening then [] else [.openString]
  | .accessor, text => accessorFlaws text
  | _, _ => []

/-- The reports of a token. -/
def Token.reports (t : Token) : List Diagnostic :=
  (flawsOf t.kind t.text.toList).map (·.diagnostic t.offset t.text)

theorem munchNumber_flaws (cs : List Char) :
    (munchNumber cs).flaws = flawsOf (.literal .numeric) (munchNumber cs).taken := by
  unfold munchNumber
  split
  · simp [flawsOf]
  · simp [flawsOf]
  · have hdigit : ∀ c ∈ cs.takeWhile Text.isDigit, Text.isDigit c = true :=
      fun _ => List.mem_takeWhile_imp
    have hx : cs.takeWhile Text.isDigit ≠ ['0', 'x'] := fun he =>
      absurd (hdigit 'x' (by simp [he])) (by decide)
    have hdot : cs.takeWhile Text.isDigit ≠ ['.'] := fun he =>
      absurd (hdigit '.' (by simp [he])) (by decide)
    simp [flawsOf, hx, hdot]

/-- An enclosed piece is flawed unless the closing character follows the opening one and is the
last. -/
theorem munchEnclosed_flaws (flaw : Flaw) (opening closing : Char) (cs : List Char) :
    ∃ body, (munchEnclosed flaw opening closing cs).taken = opening :: body ∧
      (munchEnclosed flaw opening closing cs).flaws =
        if body.getLast? = some closing then [] else [flaw] := by
  obtain ⟨body, close, htaken, hbody, ⟨rfl, hflaws⟩ | ⟨rfl, hflaws⟩⟩ :=
    munchEnclosed_spec flaw opening closing cs
  · refine ⟨body, by rw [htaken, List.append_nil], ?_⟩
    rw [hflaws, if_neg fun hlast => hbody _ (List.mem_of_getLast? hlast) rfl]
  · refine ⟨body ++ [closing], htaken, ?_⟩
    rw [hflaws, List.getLast?_concat, if_pos rfl]

theorem wordFlaws_wordKind (functions : NameSet) (word : String) (text : List Char) :
    wordFlaws (wordKind functions word) text = flawsOf (wordKind functions word) text := by
  unfold wordKind keyword?
  split_ifs <;> rfl

theorem flawsOf_eq_nil {kind : Kind} (hn : kind ≠ .literal .numeric)
    (hs : kind ≠ .literal .string) (ha : kind ≠ .accessor) (text : List Char) :
    flawsOf kind text = [] := by
  unfold flawsOf
  split
  · exact absurd rfl hn
  · exact absurd rfl hs
  · exact absurd rfl ha
  · rfl

/-- The codes of reports that are about a whole token. -/
def tokenCodes : List Code :=
  [.invalidHex, .invalidNumber, .unclosedBracket, .unterminatedString, .hangingAccessor]

/-- What is wrong with a token is about all of its text, of which there is some, or about a field of
an accessor. -/
theorem mem_flawsOf {kind : Kind} {text : List Char} {f : Flaw} (h : f ∈ flawsOf kind text) :
    f.code ∈ tokenCodes ∧ text ≠ [] ∨
      kind = .accessor ∧ ∃ place field, f = .hiddenField place (String.ofList field) ∧
        HiddenAt text place field := by
  unfold flawsOf at h
  split at h
  · split_ifs at h with hhex hdot
    · rw [List.mem_singleton.1 h, hhex]
      exact .inl (by decide)
    · rw [List.mem_singleton.1 h, hdot]
      exact .inl (by decide)
    · exact absurd h List.not_mem_nil
  · split_ifs at h
    · exact absurd h List.not_mem_nil
    · rw [List.mem_singleton.1 h]
      exact .inl ⟨by decide, List.cons_ne_nil _ _⟩
    · exact absurd h List.not_mem_nil
    · rw [List.mem_singleton.1 h]
      exact .inl ⟨by decide, List.cons_ne_nil _ _⟩
  · rcases mem_accessorFlaws h with ⟨rfl, hlast⟩ | hfield
    · refine .inl ⟨by decide, ?_⟩
      rintro rfl
      cases hlast
    · exact .inr ⟨rfl, hfield⟩
  · exact absurd h List.not_mem_nil

theorem munchOperator_flaws (functions : NameSet) (cs : List Char) :
    (Rule.operator.munch functions [] cs).flaws =
      flawsOf (Rule.operator.munch functions [] cs).kind
        (Rule.operator.munch functions [] cs).taken := by
  have hgives := Rule.operator.gives_munch functions [] cs
  rw [flawsOf_eq_nil (fun h => by rw [h] at hgives; cases hgives)
    (fun h => by rw [h] at hgives; cases hgives) (fun h => by rw [h] at hgives; cases hgives)]
  rcases cs with _ | ⟨c, _ | ⟨d, cs⟩⟩
  · rfl
  · rfl
  · simp only [Rule.munch, munchOperator]
    split <;> rfl

/-- What the rule that a character decides finds wrong can be read off the token. -/
theorem Rule.flaws_munch (functions : NameSet) (c : Char) (cs : List Char) :
    ((Rule.ofChar c).munch functions [] (c :: cs)).flaws =
      flawsOf ((Rule.ofChar c).munch functions [] (c :: cs)).kind
        ((Rule.ofChar c).munch functions [] (c :: cs)).taken := by
  unfold Rule.ofChar
  split_ifs with hnumber hcomma hbracket hletter hquote
  · simp only [Rule.munch, munchNumber_kind]
    exact munchNumber_flaws _
  · rfl
  · obtain ⟨body, htaken, hflaws⟩ := munchEnclosed_flaws .openBracket c ']' cs
    simp only [Rule.munch, munchBracket, munchEnclosed_kind, htaken, hflaws]
    simp [flawsOf, beq_iff_eq.1 hbracket]
  · exact wordFlaws_wordKind _ _ _
  · obtain ⟨body, htaken, hflaws⟩ := munchEnclosed_flaws .openString c c cs
    have hne : c ≠ '[' := by
      simpa using hbracket
    simp only [Rule.munch, munchString, munchEnclosed_kind, htaken, hflaws]
    simp [flawsOf, hne]
  · exact munchOperator_flaws functions (c :: cs)

/-- The reports of a run are those of its tokens. -/
theorem Run.diagnostics_eq_reports {functions : NameSet} {offset : Nat} {cs : List Char}
    {ls : List Lexeme} (h : Run functions offset cs ls) :
    ls.flatMap (·.diagnostics) = (ls.map (·.token)).flatMap Token.reports := by
  induction h with
  | finish hb => rfl
  | @token offset blanks cs c m ls hb hc hm next ih =>
    have hflaws : m.flaws = flawsOf m.kind m.taken := by
      rw [hm]
      exact Rule.flaws_munch functions c cs
    have hhead : (m.lexeme (offset + Text.byteLength blanks)).diagnostics =
        (m.lexeme (offset + Text.byteLength blanks)).token.reports := by
      simp [Lexeme.diagnostics, Token.reports, Munch.lexeme, hflaws]
    rw [List.flatMap_cons, List.map_cons, List.flatMap_cons, ih, hhead]

/-! ### The law of the reports -/

/-- There is one report, with the code and over the whole token. -/
def ReportedOnce (code : Code) (t : Token) (ds : List Diagnostic) : Prop :=
  ∃ d, ds = [d] ∧ d.code = some code ∧ d.span = ⟨t.offset, t.offset + t.size⟩

/-- What the reports `ds` of a token of the source can be. -/
structure Reported (source : String) (t : Token) (ds : List Diagnostic) : Prop where
  /-- A number is reported if it is `0x`, or a point, and nothing more. -/
  numeric : t.kind = .literal .numeric →
    (ReportedOnce .invalidHex t ds ↔ t.text = "0x") ∧
      (ReportedOnce .invalidNumber t ds ↔ t.text = ".") ∧
      (ds = [] ↔ t.text ≠ "0x" ∧ t.text ≠ ".")
  /-- A string starts with a bracket or a quote. -/
  opening : t.kind = .literal .string →
    ∃ c, t.text.toList.head? = some c ∧ (c = '[' ∨ c = '\x22' ∨ c = '\x27')
  /-- A parameter is reported if it does not end with the closing bracket. -/
  bracket : t.kind = .literal .string → t.text.toList.head? = some '[' →
    (ReportedOnce .unclosedBracket t ds ↔ t.text.toList.getLast? ≠ some ']') ∧
      (ds = [] ↔ t.text.toList.getLast? = some ']')
  /-- A string in quotes is reported if it is the quote alone, or does not end with it. -/
  quoted : ∀ q, q = '\x22' ∨ q = '\x27' → t.kind = .literal .string →
    t.text.toList.head? = some q →
    (ReportedOnce .unterminatedString t ds ↔
        t.text.toList.length = 1 ∨ t.text.toList.getLast? ≠ some q) ∧
      (ds = [] ↔ ¬ (t.text.toList.length = 1 ∨ t.text.toList.getLast? ≠ some q))
  /-- An accessor is reported for its dots and fields only, and within its own span. -/
  accessor : t.kind = .accessor → ∀ d ∈ ds,
    (d.code = some .hangingAccessor ∨ d.code = some .unexportedField) ∧
      d.span.Fits source t.offset (t.offset + t.size)
  /-- No other token is reported. -/
  other : t.kind ≠ .literal .numeric → t.kind ≠ .literal .string → t.kind ≠ .accessor → ds = []

/-- The report of a flaw of the whole token is one report over the whole token. -/
theorem reportedOnce_iff {f : Flaw} {t : Token} {code : Code}
    (hf : ∀ place field, f ≠ .hiddenField place field) :
    ReportedOnce code t [f.diagnostic t.offset t.text] ↔ f.code = code := by
  have hspan : f.span t.offset t.text = ⟨t.offset, t.offset + t.size⟩ := by
    cases f with
    | hiddenField place field => exact absurd rfl (hf place field)
    | _ => rfl
  constructor
  · rintro ⟨d, hd, hcode, -⟩
    obtain rfl := List.singleton_inj.1 hd
    exact Option.some.inj hcode
  · rintro rfl
    exact ⟨_, rfl, rfl, hspan⟩

theorem not_reportedOnce_nil {t : Token} {code : Code} : ¬ ReportedOnce code t [] := by
  rintro ⟨d, hd, -⟩
  cases hd

/-- A literal that is not closed is reported once, a closed one not at all. -/
theorem reportedOnce_map_ite {p : Prop} [Decidable p] {f : Flaw} {t : Token}
    (hf : ∀ place field, f ≠ .hiddenField place field) :
    (ReportedOnce f.code t ((if p then [] else [f]).map (·.diagnostic t.offset t.text)) ↔ ¬ p) ∧
      ((if p then [] else [f]).map (·.diagnostic t.offset t.text) = [] ↔ p) := by
  by_cases hp : p
  · simp [hp, not_reportedOnce_nil]
  · simp [hp, reportedOnce_iff hf]

theorem Token.reports_of_numeric {t : Token} (h : t.kind = .literal .numeric) :
    (ReportedOnce .invalidHex t t.reports ↔ t.text = "0x") ∧
      (ReportedOnce .invalidNumber t t.reports ↔ t.text = ".") ∧
      (t.reports = [] ↔ t.text ≠ "0x" ∧ t.text ≠ ".") := by
  have hhex : t.text.toList = ['0', 'x'] ↔ t.text = "0x" := by rw [← String.toList_inj]; rfl
  have hdot : t.text.toList = ['.'] ↔ t.text = "." := by rw [← String.toList_inj]; rfl
  have hcode : Code.invalidHex ≠ Code.invalidNumber := by decide
  have hne : ("0x" : String) ≠ "." := by decide
  simp only [Token.reports, h, flawsOf, hhex, hdot]
  by_cases h₁ : t.text = "0x"
  · rw [if_pos h₁, List.map_singleton, reportedOnce_iff (by simp), reportedOnce_iff (by simp)]
    simp [h₁, hne, hcode, Flaw.code]
  by_cases h₂ : t.text = "."
  · rw [if_neg h₁, if_pos h₂, List.map_singleton, reportedOnce_iff (by simp),
      reportedOnce_iff (by simp)]
    simp [h₂, hne.symm, hcode.symm, Flaw.code]
  · rw [if_neg h₁, if_neg h₂]
    simp [h₁, h₂, not_reportedOnce_nil]

theorem Token.reports_of_bracket {t : Token} (h : t.kind = .literal .string)
    (hb : t.text.toList.head? = some '[') :
    (ReportedOnce .unclosedBracket t t.reports ↔ t.text.toList.getLast? ≠ some ']') ∧
      (t.reports = [] ↔ t.text.toList.getLast? = some ']') := by
  obtain ⟨body, hbody⟩ := List.head?_eq_some_iff.1 hb
  have hlast : t.text.toList.getLast? = some ']' ↔ body.getLast? = some ']' := by
    rw [hbody, List.getLast?_cons]
    cases body.getLast? <;> simp
  rw [ne_eq, hlast]
  simp only [Token.reports, h, hbody, flawsOf, if_true]
  exact reportedOnce_map_ite (by simp)

theorem Token.reports_of_quoted {t : Token} {q : Char} (hq : q = '\x22' ∨ q = '\x27')
    (h : t.kind = .literal .string) (hb : t.text.toList.head? = some q) :
    (ReportedOnce .unterminatedString t t.reports ↔
        t.text.toList.length = 1 ∨ t.text.toList.getLast? ≠ some q) ∧
      (t.reports = [] ↔ ¬ (t.text.toList.length = 1 ∨ t.text.toList.getLast? ≠ some q)) := by
  obtain ⟨body, hbody⟩ := List.head?_eq_some_iff.1 hb
  have hne : q ≠ '[' := by rcases hq with rfl | rfl <;> decide
  have hlast : t.text.toList.length = 1 ∨ t.text.toList.getLast? ≠ some q ↔
      ¬ body.getLast? = some q := by
    rw [hbody, List.getLast?_cons]
    cases body with
    | nil => simp
    | cons c cs => simp [List.getLast?_cons]
  rw [hlast, Classical.not_not]
  simp only [Token.reports, h, hbody, flawsOf, if_neg hne]
  exact reportedOnce_map_ite (by simp)

theorem Token.reports_of_accessor {source : String} {before after : List Char} {t : Token}
    (h : t.kind = .accessor) (hs : source.toList = before ++ (t.text.toList ++ after))
    (ho : Text.byteLength before = t.offset) {d : Diagnostic} (hd : d ∈ t.reports) :
    (d.code = some .hangingAccessor ∨ d.code = some .unexportedField) ∧
      d.span.Fits source t.offset (t.offset + t.size) := by
  rw [Token.reports, h] at hd
  obtain ⟨f, hf, rfl⟩ := List.mem_map.1 hd
  constructor
  · rcases mem_accessorFlaws hf with ⟨rfl, -⟩ | ⟨_, _, rfl, -⟩
    · exact .inl rfl
    · exact .inr rfl
  · have hfits := (isWithin_of_mem_accessorFlaws hf).span_fits hs
    rwa [ho, String.ofList_toList, Text.byteLength_toList] at hfits

theorem Rule.opening_of_string {functions : NameSet} {c : Char} {cs : List Char}
    (h : ((Rule.ofChar c).munch functions [] (c :: cs)).kind = .literal .string) :
    c = '[' ∨ c = '\x22' ∨ c = '\x27' := by
  have hgives := (Rule.ofChar c).gives_munch functions [] (c :: cs)
  rw [h] at hgives
  unfold Rule.ofChar at hgives
  split_ifs at hgives with hnumber hcomma hbracket hletter hquote
  · cases hgives
  · cases hgives
  · exact .inl (beq_iff_eq.1 hbracket)
  · cases hgives
  · exact .inr (by simpa using hquote)
  · cases hgives

theorem Run.opening_of_string {functions : NameSet} {offset : Nat} {cs : List Char}
    {ls : List Lexeme} (h : Run functions offset cs ls) {l : Lexeme} (hl : l ∈ ls)
    (hk : l.token.kind = .literal .string) :
    ∃ c, l.token.text.toList.head? = some c ∧ (c = '[' ∨ c = '\x22' ∨ c = '\x27') := by
  induction h with
  | finish hb =>
    rw [List.mem_singleton.1 hl] at hk
    cases hk
  | @token offset blanks cs c m ls hb hc hm next ih =>
    rcases List.mem_cons.1 hl with rfl | hl
    · obtain ⟨more, hmore⟩ := Munch.exists_taken_eq hm
      refine ⟨c, by simp [Munch.lexeme, hmore], ?_⟩
      rw [hm] at hk
      exact Rule.opening_of_string hk
    · exact ih hl

/-- **Reports are read off the tokens**: if reports are asked for, they are those of the tokens in
order, each computed from its token alone; and they follow the law of the reports. -/
theorem tokenize_diagnostics_eq_flatMap (settings : Settings) (source : String)
    (h : settings.validate = true) :
    (tokenize settings source).diagnostics =
        (tokenize settings source).tokens.flatMap Token.reports ∧
      ∀ t ∈ (tokenize settings source).tokens, Reported source t t.reports := by
  have hrun := run_lexemesFrom settings.functions 0 source.toList
  constructor
  · rw [← show _ = (tokenize settings source).tokens.flatMap Token.reports from
      hrun.diagnostics_eq_reports, tokenize, h]
    rfl
  · intro t ht
    obtain ⟨l, hl, rfl⟩ := List.mem_map.1 ht
    obtain ⟨before, after, hs, ho⟩ := hrun.exists_toList_eq hl [] rfl
    exact {
      numeric := Token.reports_of_numeric
      opening := hrun.opening_of_string hl
      bracket := Token.reports_of_bracket
      quoted := fun q hq => Token.reports_of_quoted hq
      accessor := fun hk d hd => Token.reports_of_accessor hk hs ho hd
      other := fun hn hstr ha => by
        rw [Token.reports, flawsOf_eq_nil hn hstr ha]
        rfl }

/-- For instance, in a text with a bare `0x`, a field that is not exported and an open string. -/
theorem tokenize_diagnostics_mixed :
    (tokenize {} "0x a.b 'c").diagnostics.map (·.code) =
        [some .invalidHex, some .unexportedField, some .unterminatedString] ∧
      (tokenize {} "0x a.b 'c").diagnostics =
        (tokenize {} "0x a.b 'c").tokens.flatMap Token.reports ∧
      ∀ t ∈ (tokenize {} "0x a.b 'c").tokens, Reported "0x a.b 'c" t t.reports :=
  ⟨by decide +kernel, tokenize_diagnostics_eq_flatMap {} "0x a.b 'c" rfl⟩

end ExprScan
