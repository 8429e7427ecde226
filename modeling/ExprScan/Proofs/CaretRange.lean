import ExprScan.Proofs.ReportOrder
import ExprScan.Proofs.Underline

/-!
# Carets and the end of the line

The row of carets should end where the line above it ends. A span that goes on after its line is
underlined to the end of what is shown of the line. A span that ends on its line is underlined to
its own end, although the carriage returns at the end of a line are not shown. So the carets run past
the line if the span covers such carriage returns and nothing behind them.

For the reports of a scan this is about literals that are not closed, for no other report covers a
carriage return, and such a literal goes on to the end of the text.

Main statement: `carets_within_iff`, the exact condition under which the carets stay within the line,
and `not_within_carriageReturn`, a text for which they do not.
-/

namespace ExprScan

/-! ### What reports cover -/

theorem isOpen_iff_of_mem_flawsOf {kind : Kind} {text : List Char} {f : Flaw}
    (h : f ∈ flawsOf kind text) : f.isOpen = true ↔ kind = .literal .string := by
  unfold flawsOf at h
  split at h
  · split_ifs at h <;> simp_all [Flaw.isOpen]
  · split_ifs at h <;> simp_all [Flaw.isOpen]
  · rcases mem_accessorFlaws h with ⟨rfl, -⟩ | ⟨place, field, rfl, -⟩ <;> simp [Flaw.isOpen]
  · exact absurd h List.not_mem_nil

theorem About.subset {t : Token} {d : Diagnostic} {piece : String} (h : About t d piece) :
    piece.toList ⊆ t.text.toList := by
  cases h with
  | token hcode hspan => exact List.Subset.refl _
  | field hkind hcode hfield hspan =>
    obtain ⟨before, after, htext, -⟩ := hfield.stands
    intro c hc
    rw [String.toList_ofList] at hc
    simp [htext, hc]

/-- `Covered d piece`: what the report `d` can cover. -/
structure Covered (d : Diagnostic) (piece : List Char) : Prop where
  /-- It starts with a character that is no blank. -/
  head : ∃ c more, piece = c :: more ∧ Text.isSpace c = false
  /-- It has no blank at all, unless a literal is not closed. -/
  closed : d.isOpen = false → ∀ c ∈ piece, Text.isSpace c = false

theorem Run.covered {functions : NameSet} {offset : Nat} {cs : List Char} {ls : List Lexeme}
    (h : Run functions offset cs ls) {l : Lexeme} (hl : l ∈ ls) {d : Diagnostic}
    (hd : d ∈ l.token.reports) {piece : String} (habout : About l.token d piece)
    (hne : piece ≠ "") : Covered d piece.toList := by
  obtain ⟨f, hf, rfl⟩ := List.mem_map.1 hd
  by_cases hk : l.token.kind = .literal .string
  · refine ⟨?_, fun hclosed => ?_⟩
    · cases habout with
      | token hcode hspan =>
        obtain ⟨c, hhead, hc⟩ := h.opening_of_string hl hk
        obtain ⟨more, hmore⟩ := List.head?_eq_some_iff.1 hhead
        refine ⟨c, more, hmore, ?_⟩
        rcases hc with rfl | rfl | rfl <;> decide
      | field hkind hcode hfield hspan =>
        rw [hk] at hkind
        cases hkind
    · rw [Flaw.isOpen_diagnostic, (isOpen_iff_of_mem_flawsOf hf).2 hk] at hclosed
      cases hclosed
  · have hblank : ∀ c ∈ piece.toList, Text.isSpace c = false := fun c hc =>
      h.isSpace_eq_false hl hk (habout.subset hc)
    obtain ⟨c, more, hpiece⟩ := List.exists_cons_of_ne_nil (mt String.toList_eq_nil_iff.1 hne)
    exact ⟨⟨c, more, hpiece, hblank c (hpiece ▸ List.mem_cons_self)⟩, fun _ => hblank⟩

theorem exists_covered {settings : Settings} {source : String} {d : Diagnostic}
    (hd : d ∈ (tokenize settings source).diagnostics) :
    ∃ front piece rest, source.toList = front ++ (piece ++ rest) ∧
      d.span.start = Text.byteLength front ∧ d.span.stop = Text.byteLength (front ++ piece) ∧
      Covered d piece := by
  obtain ⟨t, ht, hd⟩ := exists_mem_reports hd
  obtain ⟨l, hl, rfl⟩ := List.mem_map.1 ht
  obtain ⟨piece, habout, hne⟩ := l.token.exists_about hd
  have hrun := run_lexemesFrom settings.functions 0 source.toList
  obtain ⟨before, after, hs, ho⟩ := exists_toList_eq_of_mem_tokens ht
  obtain ⟨front, rest, hsource, hstart, hstop⟩ :=
    Text.slice?_eq_some_iff.1 (habout.slice?_eq hs ho)
  refine ⟨front.toList, piece.toList, rest.toList, by simp [hsource], ?_, ?_,
    hrun.covered hl hd habout hne⟩
  · rw [Text.byteLength_toList, hstart]
  · rw [Text.byteLength_append, Text.byteLength_toList, Text.byteLength_toList, hstart, hstop]

/-! ### Carets within the line -/

/-- The carets stand below the line: they start in a column of it and do not run past its end. -/
def Snippet.Within (s : Snippet) : Prop :=
  1 ≤ s.startColumn ∧ s.startColumn - 1 + s.caretRow.count '^' ≤ s.line.length

namespace SourceFile

variable {f : SourceFile} {before passed left after : List Char}

theorem isLineEnd_of_isSpace {c : Char} (h : Text.isSpace c = false) : isLineEnd c = false := by
  have hfeed : c ≠ '\n' := by
    rintro rfl
    exact absurd h (by decide)
  have hreturn : c ≠ '\r' := by
    rintro rfl
    exact absurd h (by decide)
  simp [isLineEnd, hfeed, hreturn]

theorem AtPlace.length_lt_shown (h : f.AtPlace before passed left after) {c : Char}
    {more : List Char} (heq : left ++ after = c :: more) (hc : Text.isSpace c = false) :
    passed.length < ((passed ++ left).rdropWhile isLineEnd).length := by
  have hne : '\n' ∉ [c] := by
    intro hmem
    obtain rfl := List.mem_singleton.1 hmem
    exact absurd hc (by decide)
  have hcons : left ++ after = [c] ++ more := heq
  obtain ⟨left', rfl, -⟩ := h.exists_left_eq hcons hne
  rw [List.singleton_append, Text.rdropWhile_append_cons_of_neg (isLineEnd_of_isSpace hc),
    List.length_append, List.length_cons]
  omega

/-- A piece of a line is shown to its end unless it ends with a carriage return and nothing but
carriage returns come after it on the line. -/
theorem AtPlace.length_le_shown_iff {piece more : List Char}
    (h : f.AtPlace before passed (piece ++ more) after) (hne : piece ≠ []) :
    passed.length + piece.length ≤ ((passed ++ (piece ++ more)).rdropWhile isLineEnd).length ↔
      ¬ (piece.getLast? = some '\r' ∧ ∀ c ∈ more, c = '\r') := by
  obtain ⟨early, e, rfl⟩ := (List.eq_nil_or_concat' piece).resolve_left hne
  have hsplit : passed ++ ((early ++ [e]) ++ more) = (passed ++ early) ++ (e :: more) := by simp
  have hlast : (early ++ [e]).getLast? = some '\r' ↔ e = '\r' := by simp
  rw [hsplit, hlast, ← List.forall_mem_cons (p := (· = '\r')), List.length_append,
    List.length_singleton]
  by_cases hall : ∀ c ∈ e :: more, c = '\r'
  · have hend : ∀ c ∈ e :: more, isLineEnd c = true := by
      intro c hc
      rw [hall c hc]
      decide
    have hle := (List.rdropWhile_prefix isLineEnd (passed ++ early)).length_le
    rw [List.length_append] at hle
    rw [Text.rdropWhile_append_of_pos hend]
    constructor
    · intro hlt
      omega
    · intro hnot
      exact absurd hall hnot
  · -- some character from the last one of the piece on ends no line, so that it is shown
    obtain ⟨c, hc, hne⟩ : ∃ c ∈ e :: more, c ≠ '\r' := by
      simpa only [not_forall, exists_prop] using hall
    have hfeed : c ≠ '\n' := by
      rintro rfl
      refine h.lineFeed_notMem ?_
      rw [hsplit]
      exact List.mem_append_right _ hc
    obtain ⟨front, back, hcut⟩ := List.append_of_mem hc
    rw [hcut, ← List.append_assoc,
      Text.rdropWhile_append_cons_of_neg (by simp [isLineEnd, hne, hfeed])]
    refine iff_of_true ?_ (hcut ▸ hall)
    simp only [List.length_append, List.length_cons]
    omega

end SourceFile

namespace Diagnostic

variable {d : Diagnostic} {f : SourceFile} {before passed left after piece rest : List Char}

/-- Under a span that starts with no blank, the carets stay within the line if the span goes on after
its line, and otherwise unless the span ends with a carriage return and nothing but carriage returns
come after it on the line. -/
theorem exists_within_iff (h : f.AtPlace before passed left after)
    (heq : left ++ after = piece ++ rest)
    (hstart : d.span.start = Text.byteLength (before ++ passed))
    (hstop : d.span.stop = Text.byteLength (before ++ passed ++ piece))
    (hhead : ∃ c more, piece = c :: more ∧ Text.isSpace c = false) :
    ∃ s, d.snippet? f = some s ∧ f.lineAt? (f.position d.span.start).line = some s.line ∧
      s.startColumn = (f.position d.span.start).column ∧
      (s.Within ↔ '\n' ∈ piece ∨ ∀ more, left = piece ++ more →
        ¬ (piece.getLast? = some '\r' ∧ ∀ c ∈ more, c = '\r')) := by
  have htext : f.content.toList = (before ++ passed) ++ (piece ++ rest) := by
    rw [h.content_eq, heq, List.append_assoc]
  have hposition : f.position d.span.start = ⟨before.count '\n' + 1, passed.length + 1⟩ := by
    rw [hstart, h.position]
  have hline : f.lineAt? (f.position d.span.start).line =
      some (String.ofList ((passed ++ left).rdropWhile SourceFile.isLineEnd)) := by
    rw [hposition, h.lineAt?]
  obtain ⟨c, tail, rfl, hc⟩ := hhead
  by_cases hp : '\n' ∈ c :: tail
  · refine ⟨_, snippet?_of_lineFeed_mem htext hstart hstop hp hline, hline, rfl,
      iff_of_true ?_ (.inl hp)⟩
    have hlt := h.length_lt_shown heq hc
    simp only [Snippet.Within, Snippet.count_caretRow, Snippet.caretCount, hposition,
      String.length_ofList]
    omega
  · obtain ⟨more, rfl, -⟩ := h.exists_left_eq heq hp
    refine ⟨_, snippet?_of_lineFeed_notMem htext hstart hstop hp hline, hline, rfl, ?_⟩
    have hiff := h.length_le_shown_iff (List.cons_ne_nil c tail)
    have hcount : max 1 (passed.length + 1 + (c :: tail).length - (passed.length + 1)) =
        (c :: tail).length := by
      rw [List.length_cons]
      omega
    simp only [Snippet.Within, Snippet.count_caretRow, Snippet.caretCount, hposition, hcount,
      String.length_ofList, Nat.add_sub_cancel, Nat.le_add_left, true_and, hiff, hp, false_or,
      List.append_cancel_left_eq, forall_eq']

end Diagnostic

/-! ### Reports of a scan -/

/-- A report of a scan that ends with a carriage return is about a literal that goes on to the end of
the text. -/
theorem Covered.isOpen_of_getLast? {d : Diagnostic} {piece : List Char} (h : Covered d piece)
    (hlast : piece.getLast? = some '\r') : d.isOpen = true := by
  by_contra hclosed
  have hblank := h.closed (by simpa using hclosed) _ (List.mem_of_getLast? hlast)
  exact absurd hblank (by decide)

theorem exists_within_diagnostic {settings : Settings} {f : SourceFile} {d : Diagnostic}
    (hd : d ∈ (tokenize settings f.content).diagnostics) :
    ∃ s piece, d.snippet? f = some s ∧
      f.lineAt? (f.position d.span.start).line = some s.line ∧
      s.startColumn = (f.position d.span.start).column ∧ 1 ≤ s.startColumn ∧
      f.extract d.span = .ok (String.ofList piece) ∧ Covered d piece ∧
      (s.Within ↔ ¬ ('\n' ∉ piece ∧ piece.getLast? = some '\r')) := by
  obtain ⟨front, piece, rest, htext, hstart, hstop, hcovered⟩ := exists_covered hd
  obtain ⟨before, passed, left, after, rfl, hleft, hplace⟩ := SourceFile.exists_atPlace htext
  obtain ⟨s, hs, hline, hcolumn, hiff⟩ :=
    Diagnostic.exists_within_iff hplace hleft.symm hstart hstop hcovered.head
  have hslice := Text.slice?_of_toList htext
  rw [← Text.byteLength_append, ← hstart, ← hstop] at hslice
  refine ⟨s, piece, hs, hline, hcolumn, ?_, SourceFile.extract_of_slice? hslice, hcovered,
    hiff.trans ?_⟩
  · rw [hcolumn, hstart, hplace.position]
    exact Nat.le_add_left _ _
  · constructor
    · rintro (hmem | hall) ⟨hfeed, hlast⟩
      · exact hfeed hmem
      · -- the literal goes on to the end of the text, so that nothing comes after it on the line
        have hsize := (endsScan_of_isOpen hd (hcovered.isOpen_of_getLast? hlast)).stop_eq
        rw [hstop, ← Text.byteLength_toList, htext, ← List.append_assoc,
          Text.byteLength_append _ rest] at hsize
        obtain ⟨more, hmore, hrest⟩ := hplace.exists_left_eq hleft.symm hfeed
        have hnil : rest = [] := Text.byteLength_eq_zero_iff.1 (by omega)
        rw [hnil] at hrest
        have hempty : more = [] := (List.append_eq_nil_iff.1 hrest.symm).1
        refine hall more hmore ⟨hlast, ?_⟩
        rw [hempty]
        exact List.forall_mem_nil _
    · intro hnot
      by_cases hmem : '\n' ∈ piece
      · exact .inl hmem
      · exact .inr fun more _ hlast => hnot ⟨hmem, hlast.1⟩

/-- **Carets and the end of the line**: the carets under a report of a scan start in a column of the
line that is shown. They do not run past the end of the line, except where the text that the report
covers has no line feed and ends with a carriage return; and that can only be a literal that is not
closed. -/
theorem carets_within_iff (settings : Settings) (name content : String) {d : Diagnostic}
    (hd : d ∈ (tokenize settings content).diagnostics) :
    ∃ s piece, d.snippet? (.ofContent name content) = some s ∧
      (SourceFile.ofContent name content).lineAt?
        ((SourceFile.ofContent name content).position d.span.start).line = some s.line ∧
      s.startColumn = ((SourceFile.ofContent name content).position d.span.start).column ∧
      1 ≤ s.startColumn ∧
      (SourceFile.ofContent name content).extract d.span = .ok piece ∧
      (s.startColumn - 1 + s.caretRow.count '^' ≤ s.line.length ↔
        ¬ ('\n' ∉ piece.toList ∧ piece.toList.getLast? = some '\r')) ∧
      (d.code ≠ some .unclosedBracket → d.code ≠ some .unterminatedString →
        s.startColumn - 1 + s.caretRow.count '^' ≤ s.line.length) := by
  obtain ⟨s, piece, hs, hline, hcolumn, hpos, hextract, hcovered, hiff⟩ :=
    exists_within_diagnostic (f := .ofContent name content) hd
  rw [Snippet.Within, and_iff_right hpos] at hiff
  refine ⟨s, _, hs, hline, hcolumn, hpos, hextract, by rwa [String.toList_ofList], ?_⟩
  intro hbracket hstring
  rw [hiff]
  rintro ⟨-, hlast⟩
  have hopen := hcovered.isOpen_of_getLast? hlast
  simp [Diagnostic.isOpen, hbracket, hstring] at hopen

/-- For instance for a string that is not closed and goes on to a second line: the carets end with
the first one. -/
theorem carets_within_iff_two_lines :
    (⟨.error, "unclosed string literal", ⟨2, 6⟩, some .unterminatedString, []⟩ : Diagnostic) ∈
        (tokenize {} "a 'b\nc").diagnostics ∧
      ∃ s, (⟨.error, "unclosed string literal", ⟨2, 6⟩, some .unterminatedString, []⟩ :
          Diagnostic).snippet? (.ofContent "rule" "a 'b\nc") = some s ∧
        1 ≤ s.startColumn ∧ s.startColumn - 1 + s.caretRow.count '^' ≤ s.line.length := by
  have hd : (⟨.error, "unclosed string literal", ⟨2, 6⟩, some .unterminatedString, []⟩ :
      Diagnostic) ∈ (tokenize {} "a 'b\nc").diagnostics := by decide +kernel
  have hpiece : (SourceFile.ofContent "rule" "a 'b\nc").extract ⟨2, 6⟩ = .ok "'b\nc" := by
    decide +kernel
  obtain ⟨s, piece, hs, -, -, hpos, hextract, hiff, -⟩ := carets_within_iff {} "rule" _ hd
  obtain rfl : "'b\nc" = piece := Except.ok.inj (hpiece.symm.trans hextract)
  exact ⟨hd, s, hs, hpos, hiff.2 fun h => absurd h.1 (by decide)⟩

/-- Under a quote with a carriage return behind it there are two carets, although the line that is
shown is the quote alone. -/
theorem not_within_carriageReturn :
    ∃ d s, d ∈ (tokenize {} "\x22\r").diagnostics ∧
      d.snippet? (.ofContent "rule" "\x22\r") = some s ∧ s.line = "\x22" ∧ s.startColumn = 1 ∧
      s.caretRow.count '^' = 2 ∧
      ¬ s.startColumn - 1 + s.caretRow.count '^' ≤ s.line.length := by
  refine ⟨⟨.error, "unclosed string literal", ⟨0, 2⟩, some .unterminatedString, []⟩,
    ⟨"\x22", 1, 1, 3⟩, ?_, ?_, rfl, rfl, ?_, ?_⟩
  · decide +kernel
  · decide +kernel
  · decide
  · decide

end ExprScan
