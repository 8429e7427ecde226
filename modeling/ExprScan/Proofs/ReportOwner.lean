import ExprScan.Proofs.Reports

/-!
# Reports and their tokens

A report lies within one token: tokens stand one behind the other, and no report is empty. Its code
says what it is about. Five codes are about the whole token, the sixth is about a field of an
accessor that is not exported. Either way the span of the report cuts out of the source just the
text that it is about.

Main statement: `exists_owner`, for any report of a scan.
-/

namespace ExprScan

/-! ### Tokens one behind the other -/

/-- Whether a span lies within the token. -/
def Token.covers (t : Token) (s : Span) : Bool :=
  (⟨t.offset, t.offset + t.size⟩ : Span).containsSpan s

theorem Token.covers_iff {t : Token} {s : Span} :
    t.covers s = true ↔ t.offset ≤ s.start ∧ s.stop ≤ t.offset + t.size := by
  simp [Token.covers, Span.containsSpan]

/-- Tokens of which each ends before the next one starts. -/
def InSequence (ts : List Token) : Prop := ts.Pairwise fun s t => s.offset + s.size ≤ t.offset

/-- A run gives its tokens in sequence. -/
theorem Run.inSequence {functions : NameSet} {offset : Nat} {cs : List Char} {ls : List Lexeme}
    (h : Run functions offset cs ls) : InSequence (ls.map (·.token)) := by
  induction h with
  | finish hb => exact List.pairwise_singleton _ _
  | @token offset blanks cs c m ls hb hc hm next ih =>
    refine List.Pairwise.cons ?_ ih
    intro t ht
    obtain ⟨l, hl, rfl⟩ := List.mem_map.1 ht
    rw [Munch.size_lexeme]
    exact next.le_offset hl

/-- Of tokens in sequence, only one covers a span that is not empty. -/
theorem InSequence.filter_covers {ts : List Token} (h : InSequence ts) {t : Token} (ht : t ∈ ts)
    {s : Span} (hs : s.start < s.stop) (hc : t.covers s = true) :
    ts.filter (·.covers s) = [t] := by
  rw [Token.covers_iff] at hc
  -- a token before or behind the one that covers the span lies apart from it
  have hapart : ∀ u : Token, u.offset + u.size ≤ t.offset ∨ t.offset + t.size ≤ u.offset →
      ¬ u.covers s = true := by
    intro u hu hcu
    rw [Token.covers_iff] at hcu
    omega
  obtain ⟨early, late, rfl⟩ := List.append_of_mem ht
  obtain ⟨-, hlate, hearly⟩ := List.pairwise_append.1 h
  have hnone : early.filter (·.covers s) = [] := List.filter_eq_nil_iff.2 fun u hu =>
    hapart u (.inl (hearly u hu t List.mem_cons_self))
  have hnone' : late.filter (·.covers s) = [] := List.filter_eq_nil_iff.2 fun u hu =>
    hapart u (.inr ((List.pairwise_cons.1 hlate).1 u hu))
  rw [List.filter_append, hnone, List.nil_append, List.filter_cons, hnone',
    if_pos (Token.covers_iff.2 hc)]

/-! ### What a report is about -/

/-- `About t d piece`: the report `d` of the token `t` is about `piece`. -/
inductive About (t : Token) (d : Diagnostic) : String → Prop where
  /-- A report with one of the codes for whole tokens is about the token. -/
  | token (hcode : ∃ code ∈ tokenCodes, d.code = some code)
      (hspan : d.span = ⟨t.offset, t.offset + t.size⟩) : About t d t.text
  /-- Any other report is about a field of an accessor that is not exported. -/
  | field {place : Nat} {field : List Char} (hkind : t.kind = .accessor)
      (hcode : d.code = some .unexportedField) (hfield : HiddenAt t.text.toList place field)
      (hspan : d.span = ⟨t.offset + place, t.offset + place + Text.byteLength field⟩) :
      About t d (String.ofList field)

theorem Flaw.span_of_mem_tokenCodes {f : Flaw} (h : f.code ∈ tokenCodes) (start : Nat)
    (text : String) : f.span start text = ⟨start, start + Text.size text⟩ := by
  cases f with
  | hiddenField place field => exact absurd h (show Code.unexportedField ∉ tokenCodes by decide)
  | _ => rfl

/-- A report of a token is about a piece of it, and not about nothing. -/
theorem Token.exists_about {t : Token} {d : Diagnostic} (hd : d ∈ t.reports) :
    ∃ piece, About t d piece ∧ piece ≠ "" := by
  obtain ⟨f, hf, rfl⟩ := List.mem_map.1 hd
  rcases mem_flawsOf hf with ⟨hcode, hne⟩ | ⟨hkind, place, field, rfl, hfield⟩
  · have habout : About t (f.diagnostic t.offset t.text) t.text :=
      .token ⟨f.code, hcode, rfl⟩ (Flaw.span_of_mem_tokenCodes hcode _ _)
    exact ⟨t.text, habout, by simpa using hne⟩
  · refine ⟨String.ofList field, .field hkind rfl hfield ?_, by simpa using hfield.ne_nil⟩
    rw [← Text.size_ofList field]
    rfl

theorem About.covers {t : Token} {d : Diagnostic} {piece : String} (h : About t d piece) :
    t.covers d.span = true := by
  rw [Token.covers_iff]
  cases h with
  | token hcode hspan =>
    rw [hspan]
    exact ⟨Nat.le_refl _, Nat.le_refl _⟩
  | @field place field hkind hcode hfield hspan =>
    have hle := hfield.add_byteLength_le
    rw [Text.byteLength_toList] at hle
    rw [hspan, Nat.add_assoc]
    exact ⟨Nat.le_add_right _ _, Nat.add_le_add_left hle _⟩

theorem About.stop_eq {t : Token} {d : Diagnostic} {piece : String} (h : About t d piece) :
    d.span.stop = d.span.start + Text.size piece := by
  cases h with
  | token hcode hspan =>
    rw [hspan]
    rfl
  | field hkind hcode hfield hspan => rw [hspan, Text.size_ofList]

theorem About.start_lt_stop {t : Token} {d : Diagnostic} {piece : String} (h : About t d piece)
    (hne : piece ≠ "") : d.span.start < d.span.stop := by
  have hpos : Text.size piece ≠ 0 := by
    rw [← Text.byteLength_toList]
    intro h₀
    exact hne (by simpa using Text.byteLength_eq_zero_iff.1 h₀)
  rw [h.stop_eq]
  omega

/-- If the token stands in the source, the span of the report cuts out what it is about. -/
theorem About.slice?_eq {source : String} {before after : List Char} {t : Token} {d : Diagnostic}
    {piece : String} (h : About t d piece)
    (hs : source.toList = before ++ (t.text.toList ++ after))
    (ho : Text.byteLength before = t.offset) :
    Text.slice? source d.span.start d.span.stop = some piece := by
  cases h with
  | token hcode hspan =>
    have hslice := Text.slice?_of_toList hs
    rw [ho, Text.byteLength_toList, String.ofList_toList] at hslice
    rw [hspan]
    exact hslice
  | @field place field hkind hcode hfield hspan =>
    obtain ⟨front, back, ht, hplace⟩ := hfield.isWithin
    have hs' : source.toList = (before ++ front) ++ (field ++ (back ++ after)) := by
      rw [hs, ht]
      simp
    have hslice := Text.slice?_of_toList hs'
    rw [Text.byteLength_append, ho, hplace] at hslice
    rw [hspan]
    exact hslice

/-! ### Reports of a scan -/

variable {settings : Settings} {source : String}

theorem exists_toList_eq_of_mem_tokens {t : Token} (ht : t ∈ (tokenize settings source).tokens) :
    ∃ before after, source.toList = before ++ (t.text.toList ++ after) ∧
      Text.byteLength before = t.offset := by
  obtain ⟨l, hl, rfl⟩ := List.mem_map.1 ht
  exact (run_lexemesFrom settings.functions 0 source.toList).exists_toList_eq hl [] rfl

theorem inSequence_tokens (settings : Settings) (source : String) :
    InSequence (tokenize settings source).tokens :=
  (run_lexemesFrom settings.functions 0 source.toList).inSequence

theorem tokenize_diagnostics (settings : Settings) (source : String) :
    (tokenize settings source).diagnostics =
      if settings.validate then (tokenize settings source).tokens.flatMap Token.reports
      else [] := by
  have hreports : _ = (tokenize settings source).tokens.flatMap Token.reports :=
    (run_lexemesFrom settings.functions 0 source.toList).diagnostics_eq_reports
  rw [← hreports]
  rfl

theorem exists_mem_reports {d : Diagnostic} (hd : d ∈ (tokenize settings source).diagnostics) :
    ∃ t ∈ (tokenize settings source).tokens, d ∈ t.reports := by
  rw [tokenize_diagnostics] at hd
  split at hd
  · exact List.mem_flatMap.1 hd
  · exact absurd hd List.not_mem_nil

theorem filter_covers_of_mem_reports {t : Token} (ht : t ∈ (tokenize settings source).tokens)
    {d : Diagnostic} (hd : d ∈ t.reports) :
    (tokenize settings source).tokens.filter (·.covers d.span) = [t] := by
  obtain ⟨piece, habout, hne⟩ := t.exists_about hd
  exact (inSequence_tokens settings source).filter_covers ht (habout.start_lt_stop hne)
    habout.covers

/-- A report of a scan lies within one token, is about a piece of it, and its span cuts that piece
out of the source. -/
theorem exists_owner {d : Diagnostic} (hd : d ∈ (tokenize settings source).diagnostics) :
    ∃ t piece, (tokenize settings source).tokens.filter (·.covers d.span) = [t] ∧
      About t d piece ∧ Text.slice? source d.span.start d.span.stop = some piece ∧
      d.span.start < d.span.stop := by
  obtain ⟨t, ht, hd⟩ := exists_mem_reports hd
  obtain ⟨piece, habout, hne⟩ := t.exists_about hd
  obtain ⟨before, after, hs, ho⟩ := exists_toList_eq_of_mem_tokens ht
  exact ⟨t, piece, filter_covers_of_mem_reports ht hd, habout, habout.slice?_eq hs ho,
    habout.start_lt_stop hne⟩

end ExprScan
