import ExprScan.Proofs.Grammar
import ExprScan.Proofs.Lookahead

/-!
# Scanning is maximal munch

The scanner looks at one character to choose a rule and at one more to go on. Here it is shown to
take the same tokens as the lexical grammar, which compares all rules on all pieces of the text.

The proof has two halves. A piece that the grammar allows never reaches further than what the
scanner takes, and where it reaches as far it has the same kind (`Matches.prefix_taken`). What the
scanner takes is allowed by the grammar, or is a single character of unknown kind
(`matches_munch`).

Main statement: `tokenize_eq_iff_tokenizes`.
-/

namespace ExprScan

open Grammar

/-! ### The rule that a character decides -/

theorem Rule.ofChar_of_isDigit {c : Char} (h : Text.isDigit c = true) :
    Rule.ofChar c = .number := by
  simp [Rule.ofChar, h]

theorem Rule.ofChar_of_isLetter {c : Char} (h : Text.isLetter c = true) :
    Rule.ofChar c = .word := by
  have hn := Text.toNat_of_isLetter h
  have hdigit : ¬ Text.isDigit c = true := by
    rw [Text.isDigit_iff]
    omega
  have hne : ∀ d : Char, d.toNat < 65 ∨ d.toNat = 91 → c ≠ d := by
    rintro d hd rfl
    omega
  simp [Rule.ofChar, h, hdigit, hne '.' (by decide), hne ',' (by decide), hne '[' (by decide)]

/-! ### The tables -/

/-- A fixed spelling has two characters or one, and stands in the table for its length. -/
theorem mem_spellings {word : String} {kind : Kind} (h : (word, kind) ∈ spellings) :
    (∃ c d op, (c, d, op) ∈ pairs ∧ word.toList = [c, d] ∧ kind = .operator op) ∨
      ∃ c, (c, kind) ∈ singles ∧ word.toList = [c] := by
  have htable : ∀ e ∈ spellings,
      (∃ p ∈ pairs, e.1.toList = [p.1, p.2.1] ∧ e.2 = .operator p.2.2) ∨
        ∃ p ∈ singles, e.1.toList = [p.1] ∧ p.2 = e.2 := by decide
  rcases htable _ h with ⟨⟨c, d, op⟩, hp, ht, hk⟩ | ⟨⟨c, k⟩, hp, ht, rfl⟩
  · exact .inl ⟨c, d, op, hp, ht, hk⟩
  · exact .inr ⟨c, hp, ht⟩

theorem of_mem_pairs {c d : Char} {op : Operator} (h : (c, d, op) ∈ pairs) :
    Rule.ofChar c = .operator ∧ pair? c d = some op := by
  have htable : ∀ p ∈ pairs, Rule.ofChar p.1 = .operator ∧ pair? p.1 p.2.1 = some p.2.2 := by decide
  exact htable _ h

theorem of_mem_singles {c : Char} {kind : Kind} (h : (c, kind) ∈ singles) :
    Rule.ofChar c = .operator ∧ singleKind c = kind ∧ kind ≠ .unknown := by
  have htable : ∀ p ∈ singles, Rule.ofChar p.1 = .operator ∧ singleKind p.1 = p.2 ∧
      p.2 ≠ .unknown := by decide
  exact htable _ h

theorem mem_spellings_of_pair? {c d : Char} {op : Operator} (h : pair? c d = some op) :
    (String.ofList [c, d], .operator op) ∈ spellings := by
  have htable : ∀ p ∈ pairs, (String.ofList [p.1, p.2.1], .operator p.2.2) ∈ spellings := by decide
  obtain ⟨p, hp, rfl⟩ := Option.map_eq_some_iff.1 h
  have hcd := List.find?_some hp
  simp only [Bool.and_eq_true, beq_iff_eq] at hcd
  rw [← hcd.1, ← hcd.2]
  exact htable p (List.mem_of_find?_eq_some hp)

theorem mem_spellings_of_singleKind {c : Char} (h : singleKind c ≠ .unknown) :
    (String.ofList [c], singleKind c) ∈ spellings := by
  have htable : ∀ p ∈ singles, (String.ofList [p.1], p.2) ∈ spellings := by decide
  exact htable _ ((singleKind_mem_or_unknown c).resolve_right h)

/-! ### Kinds of words -/

/-- The grammar gives a word the kind that the scanner gives it, and no other. -/
theorem wordKind_iff {functions : NameSet} {word : String} {kind : Kind} :
    WordKind functions word kind ↔ wordKind functions word = kind := by
  have hcontains : functions.contains word = true ↔ word ∈ functions.names := by
    simp [NameSet.contains]
  have hdot : word.toList.contains '.' = true ↔ '.' ∈ word.toList := by simp
  have hkey : word ∉ keywords ↔
      ¬ (word = "true" ∨ word = "false") ∧ ¬ (word = "in" ∨ word = "IN") := by
    simp [keywords, and_assoc]
  have hdisj : word = "true" ∨ word = "false" → ¬ (word = "in" ∨ word = "IN") := by
    rintro (rfl | rfl) <;> decide
  constructor
  · intro h
    unfold wordKind keyword?
    cases h with
    | boolean h => rw [if_pos h]
    | membership h => rw [if_neg fun h' => hdisj h' h, if_pos h]
    | functionName h hf =>
      obtain ⟨h₁, h₂⟩ := hkey.1 h
      rw [if_neg h₁, if_neg h₂]
      exact if_pos (hcontains.2 hf)
    | accessor h hf hd =>
      obtain ⟨h₁, h₂⟩ := hkey.1 h
      rw [if_neg h₁, if_neg h₂]
      exact (if_neg (hcontains.not.2 hf)).trans (if_pos (hdot.2 hd))
    | variableName h hf hd =>
      obtain ⟨h₁, h₂⟩ := hkey.1 h
      rw [if_neg h₁, if_neg h₂]
      exact (if_neg (hcontains.not.2 hf)).trans (if_neg (hdot.not.2 hd))
  · rintro rfl
    by_cases h₁ : word = "true" ∨ word = "false"
    · rw [wordKind, keyword?, if_pos h₁]
      exact .boolean h₁
    by_cases h₂ : word = "in" ∨ word = "IN"
    · rw [wordKind, keyword?, if_neg h₁, if_pos h₂]
      exact .membership h₂
    have hw : word ∉ keywords := hkey.2 ⟨h₁, h₂⟩
    rw [wordKind, keyword?, if_neg h₁, if_neg h₂]
    by_cases hf : word ∈ functions.names
    · rw [if_pos (hcontains.2 hf)]
      exact .functionName hw hf
    rw [if_neg (hcontains.not.2 hf)]
    by_cases hd : '.' ∈ word.toList
    · rw [if_pos (hdot.2 hd)]
      exact .accessor hw hf hd
    · rw [if_neg (hdot.not.2 hd)]
      exact .variableName hw hf hd

/-! ### What the grammar allows -/

theorem Grammar.Matches.kind_ne_unknown {functions : NameSet} {text : List Char} {kind : Kind}
    (h : Matches functions text kind) : kind ≠ .unknown := by
  cases h with
  | word hc h hk => cases hk <;> simp
  | spelled h =>
    rcases mem_spellings h with ⟨c, d, op, -, -, rfl⟩ | ⟨c, hs, -⟩
    · simp
    · exact (of_mem_singles hs).2.2
  | _ => simp

theorem Grammar.Matches.exists_eq_cons {functions : NameSet} {text : List Char} {kind : Kind}
    (h : Matches functions text kind) :
    ∃ c more, text = c :: more ∧ Text.isSpace c = false := by
  cases h with
  | hex h => exact ⟨_, _, rfl, by decide⟩
  | dec hd h =>
    refine ⟨_, _, rfl, Bool.eq_false_iff.2 ?_⟩
    rw [Text.isDigit_iff] at hd
    rw [ne_eq, Text.isSpace_iff]
    omega
  | frac h => exact ⟨_, _, rfl, by decide⟩
  | comma => exact ⟨_, _, rfl, by decide⟩
  | bracket h hc => exact ⟨_, _, rfl, by decide⟩
  | string hq h hc =>
    refine ⟨_, _, rfl, ?_⟩
    rcases hq with rfl | rfl <;> decide
  | word hc h hk =>
    refine ⟨_, _, rfl, Bool.eq_false_iff.2 ?_⟩
    have hn := Text.toNat_of_isLetter hc
    rw [ne_eq, Text.isSpace_iff]
    omega
  | spelled h =>
    have hpairs : ∀ p ∈ pairs, Text.isSpace p.1 = false := by decide
    have hsingles : ∀ p ∈ singles, Text.isSpace p.1 = false := by decide
    rcases mem_spellings h with ⟨c, d, op, hmem, ht, -⟩ | ⟨c, hmem, ht⟩
    · exact ⟨c, [d], ht, hpairs _ hmem⟩
    · exact ⟨c, [], ht, hsingles _ hmem⟩

/-- What a rule allows has no blank, unless it is a string or a parameter in brackets. -/
theorem Grammar.Matches.isSpace_eq_false {functions : NameSet} {text : List Char} {kind : Kind}
    (h : Matches functions text kind) (hk : kind ≠ .literal .string) {x : Char} (hx : x ∈ text) :
    Text.isSpace x = false := by
  by_contra hspace
  rw [Bool.not_eq_false] at hspace
  obtain ⟨hdigit, hhex, hword⟩ := Text.not_isClass_of_isSpace hspace
  cases h with
  | hex h =>
    rcases List.mem_cons.1 hx with rfl | hx
    · exact absurd hspace (by decide)
    rcases List.mem_cons.1 hx with rfl | hx
    · exact absurd hspace (by decide)
    · simp [h x hx] at hhex
  | dec hd h =>
    have hall : ∀ d ∈ _ :: _, Text.isDigit d = true := List.forall_mem_cons.2 ⟨hd, h⟩
    simp [hall x hx] at hdigit
  | frac h =>
    rcases List.mem_cons.1 hx with rfl | hx
    · exact absurd hspace (by decide)
    · simp [h x hx] at hdigit
  | comma =>
    obtain rfl := List.mem_singleton.1 hx
    exact absurd hspace (by decide)
  | bracket h hclose => exact hk rfl
  | string hq h hclose => exact hk rfl
  | word hl h hkind =>
    have hall := List.forall_mem_cons.2 ⟨.inl hl, h⟩
    simp [Text.isWordChar_iff.2 (hall x hx)] at hword
  | spelled h =>
    have hspellings : ∀ e ∈ spellings, e.1.toList.all (!Text.isSpace ·) = true := by decide
    have hx' := List.all_eq_true.1 (hspellings _ h) x hx
    simp [hspace] at hx'

theorem prefix_takeWhile {p : Char → Bool} {as : List Char} (h : ∀ a ∈ as, p a = true)
    (bs : List Char) : as <+: (as ++ bs).takeWhile p := by
  rw [List.takeWhile_append_of_pos h]
  exact List.prefix_append _ _

/-- An enclosed piece, closed or not, does not reach beyond the first closing character. -/
theorem prefix_munchEnclosed {flaw : Flaw} {opening closing : Char} {cs close : List Char}
    (h : ∀ c ∈ cs, c ≠ closing) (hc : close = [] ∨ close = [closing]) (rest : List Char) :
    opening :: (cs ++ close) <+: (munchEnclosed flaw opening closing (cs ++ close ++ rest)).taken := by
  have hall : ∀ c ∈ cs, (c != closing) = true := fun c hmem => bne_iff_ne.2 (h c hmem)
  rcases hc with rfl | rfl
  · have hpre := prefix_takeWhile hall rest
    unfold munchEnclosed
    rw [List.append_nil]
    split
    · exact List.cons_prefix_cons.2 ⟨rfl, hpre⟩
    · exact List.cons_prefix_cons.2 ⟨rfl, hpre.trans (List.prefix_append _ _)⟩
  · have hd : (cs ++ [closing] ++ rest).dropWhile (· != closing) = closing :: rest := by
      rw [List.append_assoc, List.dropWhile_append_of_pos hall]
      simp
    have ht : (cs ++ [closing] ++ rest).takeWhile (· != closing) = cs := by
      rw [List.append_assoc, List.takeWhile_append_of_pos hall]
      simp
    refine ⟨[], ?_⟩
    unfold munchEnclosed
    rw [hd, ht, List.append_nil]

theorem prefix_munchNumber_of_isDigit {d : Char} {ds : List Char} (hd : Text.isDigit d = true)
    (h : ∀ d ∈ ds, Text.isDigit d = true) (rest : List Char) :
    d :: ds <+: (munchNumber (d :: ds ++ rest)).taken := by
  have hall : ∀ x ∈ d :: ds, Text.isDigit x = true := List.forall_mem_cons.2 ⟨hd, h⟩
  generalize hin : d :: ds ++ rest = input
  unfold munchNumber
  split
  · -- the digits are followed by `x`, so there is only the one
    rename_i cs
    rw [List.cons_append, List.cons.injEq] at hin
    obtain ⟨rfl, hin⟩ := hin
    cases ds with
    | nil => exact List.cons_prefix_cons.2 ⟨rfl, List.nil_prefix⟩
    | cons x ds =>
      rw [List.cons_append, List.cons.injEq] at hin
      have hx := h x List.mem_cons_self
      rw [hin.1] at hx
      cases hx
  · rw [List.cons_append, List.cons.injEq] at hin
    rw [hin.1] at hd
    cases hd
  · rw [← hin]
    exact prefix_takeWhile hall rest

/-- A piece that a rule allows does not reach beyond what the scanner takes, and has the same kind
if it reaches as far. -/
theorem Grammar.Matches.prefix_taken {functions : NameSet} {text cs : List Char} {kind : Kind}
    {c : Char} (h : Matches functions text kind) (hp : text <+: c :: cs) :
    text <+: ((Rule.ofChar c).munch functions [] (c :: cs)).taken ∧
      (text = ((Rule.ofChar c).munch functions [] (c :: cs)).taken →
        kind = ((Rule.ofChar c).munch functions [] (c :: cs)).kind) := by
  obtain ⟨rest, hrest⟩ := hp
  cases h with
  | @hex ds h =>
    rw [List.cons_append, List.cons_append, List.cons.injEq] at hrest
    obtain ⟨rfl, rfl⟩ := hrest
    refine ⟨?_, fun _ => rfl⟩
    exact List.cons_prefix_cons.2 ⟨rfl, List.cons_prefix_cons.2 ⟨rfl, prefix_takeWhile h rest⟩⟩
  | @dec d ds hd h =>
    have hpre := prefix_munchNumber_of_isDigit hd h rest
    rw [List.cons_append, List.cons.injEq] at hrest
    obtain ⟨rfl, rfl⟩ := hrest
    rw [Rule.ofChar_of_isDigit hd]
    exact ⟨hpre, fun _ => (munchNumber_kind _).symm⟩
  | @frac ds h =>
    rw [List.cons_append, List.cons.injEq] at hrest
    obtain ⟨rfl, rfl⟩ := hrest
    exact ⟨List.cons_prefix_cons.2 ⟨rfl, prefix_takeWhile h rest⟩, fun _ => rfl⟩
  | comma =>
    rw [List.cons_append, List.cons.injEq] at hrest
    obtain ⟨rfl, rfl⟩ := hrest
    exact ⟨List.prefix_rfl, fun _ => rfl⟩
  | bracket h hc =>
    rw [List.cons_append, List.cons.injEq] at hrest
    obtain ⟨rfl, rfl⟩ := hrest
    exact ⟨prefix_munchEnclosed h hc rest, fun _ => (munchEnclosed_kind _ _ _ _).symm⟩
  | @string q body close hq h hc =>
    rw [List.cons_append, List.cons.injEq] at hrest
    obtain ⟨rfl, rfl⟩ := hrest
    have hrule : Rule.ofChar q = .string := by rcases hq with rfl | rfl <;> decide
    rw [hrule]
    exact ⟨prefix_munchEnclosed h hc rest, fun _ => (munchEnclosed_kind _ _ _ _).symm⟩
  | @word c' more kind hc h hk =>
    have hall : ∀ x ∈ c' :: more, Text.isWordChar x = true :=
      List.forall_mem_cons.2 ⟨Text.isWordChar_iff.2 (.inl hc),
        fun x hx => Text.isWordChar_iff.2 (h x hx)⟩
    have hpre := prefix_takeWhile hall rest
    rw [hrest] at hpre
    rw [List.cons_append, List.cons.injEq] at hrest
    obtain ⟨rfl, rfl⟩ := hrest
    rw [Rule.ofChar_of_isLetter hc]
    refine ⟨hpre, fun heq => ?_⟩
    rw [← wordKind_iff.1 hk, heq]
    rfl
  | @spelled word kind h =>
    rcases mem_spellings h with ⟨a, b, op, hmem, ht, rfl⟩ | ⟨a, hmem, ht⟩
    · obtain ⟨hrule, hpair⟩ := of_mem_pairs hmem
      rw [ht, List.cons_append, List.cons_append, List.cons.injEq] at hrest
      obtain ⟨rfl, rfl⟩ := hrest
      simp only [ht, hrule, Rule.munch, munchOperator, hpair, List.nil_append]
      exact ⟨List.prefix_rfl, fun _ => trivial⟩
    · obtain ⟨hrule, hsingle, -⟩ := of_mem_singles hmem
      rw [ht, List.cons_append, List.cons.injEq] at hrest
      obtain ⟨rfl, rfl⟩ := hrest
      obtain ⟨more, hmore⟩ := Rule.taken_munch_eq_cons functions a rest
      refine ⟨?_, ?_⟩
      · rw [ht, List.nil_append, hmore]
        exact List.cons_prefix_cons.2 ⟨rfl, List.nil_prefix⟩
      · rw [ht, hrule, ← hsingle]
        rcases rest with _ | ⟨b, rest⟩
        · exact fun _ => rfl
        · simp only [Rule.munch, munchOperator, List.nil_append]
          split
          · simp
          · exact fun _ => rfl

/-! ### What the scanner takes -/

theorem matches_munchNumber {functions : NameSet} {c : Char} {cs : List Char}
    (h : Text.isDigit c = true ∨ c = '.') :
    Matches functions (munchNumber (c :: cs)).taken (munchNumber (c :: cs)).kind := by
  unfold munchNumber
  split
  · exact .hex fun _ => List.mem_takeWhile_imp
  · exact .frac fun _ => List.mem_takeWhile_imp
  · rename_i h₁ h₂
    rcases h with h | rfl
    · rw [List.takeWhile_cons_of_pos h]
      exact .dec h fun _ => List.mem_takeWhile_imp
    · exact absurd rfl (h₂ cs)

theorem matches_ofList {functions : NameSet} {cs : List Char} {kind : Kind}
    (h : (String.ofList cs, kind) ∈ spellings) : Matches functions cs kind := by
  have hm : Matches functions (String.ofList cs).toList kind := .spelled h
  rwa [String.toList_ofList] at hm

theorem matches_munchOperator {functions : NameSet} {c : Char} {cs : List Char}
    (h : (munchOperator (c :: cs)).kind ≠ .unknown) :
    Matches functions (munchOperator (c :: cs)).taken (munchOperator (c :: cs)).kind := by
  cases cs with
  | nil => exact matches_ofList (mem_spellings_of_singleKind h)
  | cons d cs =>
    cases hop : pair? c d with
    | some op =>
      simp only [munchOperator, hop]
      exact matches_ofList (mem_spellings_of_pair? hop)
    | none =>
      simp only [munchOperator, hop] at h ⊢
      exact matches_ofList (mem_spellings_of_singleKind h)

/-- What the scanner takes is allowed by a rule, if its kind is known. -/
theorem matches_munch {functions : NameSet} {c : Char} {cs : List Char}
    (h : ((Rule.ofChar c).munch functions [] (c :: cs)).kind ≠ .unknown) :
    Matches functions ((Rule.ofChar c).munch functions [] (c :: cs)).taken
      ((Rule.ofChar c).munch functions [] (c :: cs)).kind := by
  unfold Rule.ofChar at h ⊢
  split_ifs at h ⊢ with hnumber hcomma hbracket hletter hquote
  · exact matches_munchNumber (by simpa using hnumber)
  · rw [beq_iff_eq.1 hcomma]
    exact .comma
  · obtain ⟨body, close, htaken, hbody, hclose⟩ := munchEnclosed_spec .openBracket c ']' cs
    simp only [Rule.munch, munchBracket, munchEnclosed_kind, htaken]
    rw [beq_iff_eq.1 hbracket]
    exact .bracket hbody (hclose.imp And.left And.left)
  · have hword : Text.isWordChar c = true := Text.isWordChar_iff.2 (.inl hletter)
    simp only [Rule.munch, munchWord, List.nil_append, List.takeWhile_cons_of_pos hword]
    exact .word hletter (fun _ hx => Text.isWordChar_iff.1 (List.mem_takeWhile_imp hx))
      (wordKind_iff.2 rfl)
  · obtain ⟨body, close, htaken, hbody, hclose⟩ := munchEnclosed_spec .openString c c cs
    simp only [Rule.munch, munchString, munchEnclosed_kind, htaken]
    exact .string (by simpa using hquote) hbody (hclose.imp And.left And.left)
  · exact matches_munchOperator h

theorem taken_munch_of_unknown {functions : NameSet} {c : Char} {cs : List Char}
    (h : ((Rule.ofChar c).munch functions [] (c :: cs)).kind = .unknown) :
    ((Rule.ofChar c).munch functions [] (c :: cs)).taken = [c] := by
  have hgives := (Rule.ofChar c).gives_munch functions [] (c :: cs)
  rw [h] at hgives
  cases hr : Rule.ofChar c with
  | operator =>
    cases cs with
    | nil => rfl
    | cons d cs =>
      cases hop : pair? c d with
      | some op => simp [hr, Rule.munch, munchOperator, hop] at h
      | none => simp [Rule.munch, munchOperator, hop]
  | _ =>
    rw [hr] at hgives
    cases hgives

/-! ### The equivalence -/

/-- The scanner takes what maximal munch takes. -/
theorem takes_munch {functions : NameSet} {c : Char} (cs : List Char)
    (hc : Text.isSpace c = false) :
    Takes functions (c :: cs) ((Rule.ofChar c).munch functions [] (c :: cs)).taken
      ((Rule.ofChar c).munch functions [] (c :: cs)).kind := by
  have hp : ((Rule.ofChar c).munch functions [] (c :: cs)).taken <+: c :: cs :=
    ⟨_, Rule.munch_cut functions [] (Rule.ofChar c) (c :: cs)⟩
  by_cases hk : ((Rule.ofChar c).munch functions [] (c :: cs)).kind = .unknown
  · have ht := taken_munch_of_unknown hk
    rw [ht] at hp
    rw [ht, hk]
    refine .unknown hc hp fun other otherKind hm ho => ?_
    -- another piece would be that character too, and so of unknown kind
    obtain ⟨hpre, hkind⟩ := hm.prefix_taken ho
    obtain ⟨d, more, rfl, -⟩ := hm.exists_eq_cons
    rw [ht] at hpre hkind
    obtain ⟨rfl, hmore⟩ := List.cons_prefix_cons.1 hpre
    rw [List.prefix_nil.1 hmore, hk] at hkind
    exact hm.kind_ne_unknown (hkind rfl)
  · exact .longest (matches_munch hk) hp fun other otherKind hm ho =>
      (hm.prefix_taken ho).1.length_le

theorem Grammar.Matches.kind_unique {functions : NameSet} {text : List Char} {kind other : Kind}
    (h₁ : Matches functions text kind) (h₂ : Matches functions text other) : kind = other := by
  obtain ⟨c, cs, rfl, -⟩ := h₁.exists_eq_cons
  obtain ⟨hpre, hkind₁⟩ := h₁.prefix_taken List.prefix_rfl
  obtain ⟨-, hkind₂⟩ := h₂.prefix_taken List.prefix_rfl
  have hp : ((Rule.ofChar c).munch functions [] (c :: cs)).taken <+: c :: cs :=
    ⟨_, Rule.munch_cut functions [] (Rule.ofChar c) (c :: cs)⟩
  have heq := hpre.eq_of_length_le hp.length_le
  rw [hkind₁ heq, hkind₂ heq]

/-- Maximal munch takes one piece only. -/
theorem Grammar.Takes.unique {functions : NameSet} {input text text' : List Char}
    {kind kind' : Kind} (h : Takes functions input text kind)
    (h' : Takes functions input text' kind') : text = text' ∧ kind = kind' := by
  cases h with
  | longest hm hp hmax =>
    cases h' with
    | longest hm' hp' hmax' =>
      have hlen := Nat.le_antisymm (hmax' _ _ hm hp) (hmax _ _ hm' hp')
      obtain rfl := (List.prefix_of_prefix_length_le hp hp' hlen.le).eq_of_length hlen
      exact ⟨rfl, hm.kind_unique hm'⟩
    | unknown hc' hp' hno' => exact absurd hp (hno' _ _ hm)
  | unknown hc hp hno =>
    cases h' with
    | longest hm' hp' hmax' => exact absurd hp' (hno _ _ hm')
    | unknown hc' hp' hno' =>
      have heq := (List.prefix_of_prefix_length_le hp hp' le_rfl).eq_of_length rfl
      exact ⟨heq, rfl⟩

theorem Grammar.Takes.exists_eq_cons {functions : NameSet} {input text : List Char} {kind : Kind}
    (h : Takes functions input text kind) :
    ∃ c more, text = c :: more ∧ Text.isSpace c = false := by
  cases h with
  | longest hm hp hmax => exact hm.exists_eq_cons
  | unknown hc hp hno => exact ⟨_, [], rfl, hc⟩

theorem Grammar.Takes.isSpace_eq_false {functions : NameSet} {input text : List Char} {kind : Kind}
    (h : Takes functions input text kind) (hk : kind ≠ .literal .string) {x : Char}
    (hx : x ∈ text) : Text.isSpace x = false := by
  cases h with
  | longest hm hp hmax => exact hm.isSpace_eq_false hk hx
  | unknown hc hp hno => rwa [List.mem_singleton.1 hx]

theorem Grammar.Tokenizes.isSpace_eq_false {functions : NameSet} {offset : Nat} {input : List Char}
    {ts : List Token} (h : Tokenizes functions offset input ts) {t : Token} (ht : t ∈ ts)
    (hk : t.kind ≠ .literal .string) {x : Char} (hx : x ∈ t.text.toList) :
    Text.isSpace x = false := by
  induction h with
  | finish hb =>
    obtain rfl := List.mem_singleton.1 ht
    exact absurd hx List.not_mem_nil
  | token hb htakes next ih =>
    rcases List.mem_cons.1 ht with rfl | ht
    · rw [String.toList_ofList] at hx
      exact htakes.isSpace_eq_false hk hx
    · exact ih ht

/-- The tokens of a run are those of the grammar. -/
theorem Run.tokenizes {functions : NameSet} {offset : Nat} {cs : List Char} {ls : List Lexeme}
    (h : Run functions offset cs ls) : Tokenizes functions offset cs (ls.map (·.token)) := by
  induction h with
  | finish hb => exact .finish hb
  | @token offset blanks cs c m ls hb hc hm next ih =>
    have ht : Takes functions (c :: cs) m.taken m.kind := by
      rw [hm]
      exact takes_munch cs hc
    have hcut := Munch.eq_taken_append hm
    rw [hcut] at ht
    rw [hcut]
    exact .token hb ht ih

theorem Run.isSpace_eq_false {functions : NameSet} {offset : Nat} {cs : List Char}
    {ls : List Lexeme} (h : Run functions offset cs ls) {l : Lexeme} (hl : l ∈ ls)
    (hk : l.token.kind ≠ .literal .string) {x : Char} (hx : x ∈ l.token.text.toList) :
    Text.isSpace x = false :=
  h.tokenizes.isSpace_eq_false (List.mem_map_of_mem hl) hk hx

/-- The tokens of the grammar are those of a run. -/
theorem Grammar.Tokenizes.exists_run {functions : NameSet} {offset : Nat} {input : List Char}
    {ts : List Token} (h : Tokenizes functions offset input ts) :
    ∃ ls, Run functions offset input ls ∧ ls.map (·.token) = ts := by
  induction h with
  | finish hb => exact ⟨_, .finish hb, rfl⟩
  | @token offset blanks text rest kind ts hb ht next ih =>
    obtain ⟨ls, hrun, rfl⟩ := ih
    obtain ⟨c, more, rfl, hc⟩ := ht.exists_eq_cons
    obtain ⟨htext, hkind⟩ := ht.unique (takes_munch (more ++ rest) hc)
    generalize hm : (Rule.ofChar c).munch functions [] (c :: (more ++ rest)) = m at htext hkind
    have hrest : m.rest = rest := by
      have hcut := Rule.munch_cut functions [] (Rule.ofChar c) (c :: (more ++ rest))
      rw [hm, ← htext, List.cons_append, List.cons.injEq] at hcut
      exact List.append_cancel_left hcut.2
    rw [htext, ← hrest] at hrun
    refine ⟨_, .token hb hc hm.symm hrun, ?_⟩
    rw [htext, hkind]
    rfl

/-- **Scanning is maximal munch**: the tokens of a text are the ones, and the only ones, that the
lexical grammar gives it by taking the longest piece that a rule allows, again and again. -/
theorem tokenize_eq_iff_tokenizes (settings : Settings) (source : String) (ts : List Token) :
    (tokenize settings source).tokens = ts ↔
      Tokenizes settings.functions 0 source.toList ts := by
  constructor
  · rintro rfl
    exact (run_lexemesFrom settings.functions 0 source.toList).tokenizes
  · intro h
    obtain ⟨ls, hrun, rfl⟩ := h.exists_run
    rw [hrun.eq_lexemesFrom]
    rfl

end ExprScan
