import ExprScan.Proofs.ReportOwner
import Mathlib.Data.List.Basic

/-!
# Names of functions

Besides the text, tokens depend on which words are names of functions. The names have no say in
where tokens start and end. They make a function of a variable or an accessor of that name and
change no other token, whatever it spells: a keyword, a string or an operator stays what it is. An
accessor that becomes a function is not reported any more, and all other reports stay.

Main statement: `tokenize_functions`.
-/

namespace ExprScan

/-! ### Kinds -/

/-- What a token of the given text becomes if `functions` are names of functions. -/
def Kind.named (functions : NameSet) (text : String) (kind : Kind) : Kind :=
  if (kind = .variableName ∨ kind = .accessor) ∧ functions.contains text then .functionName
  else kind

/-- The token if `functions` are names of functions. -/
def Token.named (functions : NameSet) (t : Token) : Token :=
  { t with kind := t.kind.named functions t.text }

theorem Kind.named_of_ne {kind : Kind} (hv : kind ≠ .variableName) (ha : kind ≠ .accessor)
    (functions : NameSet) (text : String) : kind.named functions text = kind := by
  rw [Kind.named, if_neg]
  rintro ⟨rfl | rfl, -⟩
  · exact hv rfl
  · exact ha rfl

/-- Keywords come before names of functions, and these before accessors and variables. -/
theorem wordKind_eq_named (functions : NameSet) (word : String) :
    wordKind functions word = (wordKind .empty word).named functions word := by
  have hempty : NameSet.empty.contains word = false := rfl
  cases hk : keyword? word with
  | some kind =>
    have hkind : kind = .literal .boolean ∨ kind = .separator .membership := by
      unfold keyword? at hk
      split_ifs at hk with h₁ h₂
      · exact .inl (Option.some.inj hk).symm
      · exact .inr (Option.some.inj hk).symm
    have hsome : ∀ names, wordKind names word = kind := by
      intro names
      rw [wordKind, hk]
    rw [hsome, hsome]
    rcases hkind with rfl | rfl <;> rfl
  | none =>
    simp only [wordKind, hk, hempty]
    by_cases hf : functions.contains word = true
    · -- with or without a dot, the word can be named
      simp [Kind.named, hf]
    · simp [Kind.named, hf]

/-! ### One step -/

theorem Rule.munch_taken_eq (functions : NameSet) (before : List Char) (r : Rule)
    (cs : List Char) :
    (r.munch functions before cs).taken = (r.munch .empty before cs).taken ∧
      (r.munch functions before cs).rest = (r.munch .empty before cs).rest := by
  cases r <;> exact ⟨rfl, rfl⟩

/-- Only the rule for words asks for the names of functions. -/
theorem Rule.kind_munch_eq_named (functions : NameSet) (r : Rule) (cs : List Char) :
    (r.munch functions [] cs).kind =
      (r.munch .empty [] cs).kind.named functions (String.ofList (r.munch .empty [] cs).taken) := by
  have hgives := r.gives_munch functions [] cs
  cases r with
  | word => exact wordKind_eq_named functions _
  | _ =>
    refine (Kind.named_of_ne ?_ ?_ functions _).symm
    · intro hk
      rw [hk] at hgives
      cases hgives
    · intro hk
      rw [hk] at hgives
      cases hgives

/-! ### A run -/

/-- A run without names of functions goes in step with a run with them. -/
theorem Run.exists_named {offset : Nat} {cs : List Char} {ls : List Lexeme}
    (h : Run .empty offset cs ls) (functions : NameSet) :
    ∃ ls', Run functions offset cs ls' ∧
      ls'.map (·.token) = (ls.map (·.token)).map (Token.named functions) := by
  induction h with
  | finish hb => exact ⟨_, .finish hb, rfl⟩
  | @token offset blanks cs c m ls hb hc hm next ih =>
    obtain ⟨ls', hrun, htokens⟩ := ih
    generalize hm' : (Rule.ofChar c).munch functions [] (c :: cs) = m'
    obtain ⟨htaken, hrest⟩ := Rule.munch_taken_eq functions [] (Rule.ofChar c) (c :: cs)
    have hkind := Rule.kind_munch_eq_named functions (Rule.ofChar c) (c :: cs)
    rw [← hm, hm'] at htaken hrest hkind
    rw [← htaken, ← hrest] at hrun
    refine ⟨_, .token hb hc hm'.symm hrun, ?_⟩
    have hhead : (m'.lexeme (offset + Text.byteLength blanks)).token =
        (m.lexeme (offset + Text.byteLength blanks)).token.named functions := by
      simp only [Munch.lexeme, Token.named, hkind, htaken]
    rw [List.map_cons, List.map_cons, List.map_cons, htokens, hhead]

/-! ### Reports -/

/-- Whether the token is an accessor that is the name of a function. -/
def Token.isNamedAccessor (functions : NameSet) (t : Token) : Bool :=
  t.kind == .accessor && functions.contains t.text

theorem Token.reports_named (functions : NameSet) (t : Token) :
    (t.named functions).reports =
      if t.isNamedAccessor functions then [] else t.reports := by
  obtain ⟨kind, text, offset⟩ := t
  by_cases hf : functions.contains text = true
  · by_cases ha : kind = .accessor
    · simp [Token.named, Kind.named, Token.isNamedAccessor, Token.reports, hf, ha, flawsOf]
    · by_cases hv : kind = .variableName
      · simp [Token.named, Kind.named, Token.isNamedAccessor, Token.reports, hf, hv, flawsOf]
      · simp [Token.named, Kind.named_of_ne hv ha, Token.isNamedAccessor, ha]
  · simp [Token.named, Kind.named, Token.isNamedAccessor, hf]

/-- Whether a span lies within an accessor that is the name of a function. -/
def Scan.hides (scan : Scan) (functions : NameSet) (s : Span) : Bool :=
  scan.tokens.any fun t => t.covers s && t.isNamedAccessor functions

theorem hides_of_mem_reports {settings : Settings} {source : String} {t : Token}
    (ht : t ∈ (tokenize settings source).tokens) {d : Diagnostic} (hd : d ∈ t.reports)
    (functions : NameSet) :
    (tokenize settings source).hides functions d.span = t.isNamedAccessor functions := by
  have howner := filter_covers_of_mem_reports ht hd
  rw [Scan.hides, ← List.any_filter, howner]
  simp

/-- **Names of functions change nothing but names**: with them the tokens have the offsets and the
texts that they have without them. A variable or an accessor that is the name of a function becomes
a function, and any other token keeps its kind. The reports are those without names of functions,
in the same order, less those that lie within an accessor that is the name of a function. -/
theorem tokenize_functions (functions : NameSet) (source : String) :
    (tokenize { functions } source).tokens =
        (tokenize {} source).tokens.map (Token.named functions) ∧
      (tokenize { functions } source).diagnostics =
        (tokenize {} source).diagnostics.filter
          fun d => !(tokenize {} source).hides functions d.span := by
  have htokens : (tokenize { functions } source).tokens =
      (tokenize {} source).tokens.map (Token.named functions) := by
    obtain ⟨ls, hrun, hls⟩ :=
      (run_lexemesFrom .empty 0 source.toList).exists_named functions
    rw [tokenize, lexemes, ← hrun.eq_lexemesFrom]
    exact hls
  refine ⟨htokens, ?_⟩
  rw [tokenize_diagnostics, tokenize_diagnostics, htokens, List.flatMap_map, if_pos rfl, if_pos rfl,
    List.filter_flatMap]
  refine List.flatMap_congr fun t ht => ?_
  have hhides : ∀ d ∈ t.reports, (!(tokenize {} source).hides functions d.span) =
      !t.isNamedAccessor functions := by
    intro d hd
    rw [hides_of_mem_reports ht hd]
  rw [Token.reports_named, List.filter_congr hhides]
  cases t.isNamedAccessor functions with
  | true => simp
  | false => simp

end ExprScan
