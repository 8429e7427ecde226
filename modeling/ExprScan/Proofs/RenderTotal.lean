import ExprScan.Proofs.Underline

/-!
# Any span can be shown

Spans come from outside, too: they may be left over from another text, run backwards or start inside
a character. A report of such a span need not be useful, but there is one. An offset past the end
counts as the end, and the line table has a line for every offset within the text, so that there is
a line to show; and a column is no further to the right than the text is long, so that there is room
for the carets.

## The model

A file is as large as its text, without a bound, while the rows of a snippet can be printed if their
columns are in reach. So that they are in reach is proved for a text that is itself in reach.

Main statement: `Diagnostic.renderAll_total`.
-/

namespace ExprScan

theorem Text.length_le_size (s : String) : s.length ≤ Text.size s := by
  rw [← String.length_toList, ← Text.byteLength_toList]
  induction s.toList with
  | nil => exact Nat.le_refl 0
  | cons c cs ih =>
    have hc := c.utf8Size_pos
    rw [List.length_cons, Text.byteLength_cons]
    omega

/-! ### Looking up in the line table -/

/-- In an increasing list, the number of entries below a number is the index at which the number
stands, or else the index just behind the last entry below it. -/
theorem countP_lt_of_pairwise {l : List Nat} (h : l.Pairwise (· < ·)) {k a n : Nat}
    (hk : l[k]? = some a) (hle : a ≤ n) (hnext : ∀ b, l[k + 1]? = some b → n < b) :
    l.countP (· < n) = if a = n then k else k + 1 := by
  induction l generalizing k with
  | nil => simp at hk
  | cons x xs ih =>
    obtain ⟨hx, hxs⟩ := List.pairwise_cons.1 h
    cases k with
    | zero =>
      obtain rfl : x = a := by simpa using hk
      have hnone : xs.countP (· < n) = 0 := by
        cases xs with
        | nil => rfl
        | cons y ys =>
          have hy : n < y := hnext y rfl
          have hys := (List.pairwise_cons.1 hxs).1
          rw [List.countP_eq_zero]
          intro b hb
          rcases List.mem_cons.1 hb with rfl | hb
          · simpa using Nat.le_of_lt hy
          · simpa using Nat.le_of_lt (hy.trans (hys b hb))
      rw [List.countP_cons, hnone]
      by_cases hx : x = n
      · simp [hx]
      · simp [hx, Nat.lt_of_le_of_ne hle hx]
    | succ k =>
      have hlt : x < n := Nat.lt_of_lt_of_le (hx a (List.mem_of_getElem? hk)) hle
      have hcount := ih hxs (by simpa using hk) (by simpa using hnext)
      rw [List.countP_cons, hcount, decide_eq_true hlt]
      split <;> rfl

namespace SourceFile

variable {f : SourceFile}

/-- `f.Locates offset`: the file has a place for the offset. An offset past the end counts as the
end. -/
structure Locates (f : SourceFile) (offset : Nat) : Prop where
  /-- The line table has the line of the offset, which does not start behind it. Either it starts at
  the offset, or the offset would have to be put in just behind the start of the line. -/
  lookup : ∃ start, f.lineStart? (f.lineIndex (min offset f.size)) = some start ∧
    start ≤ min offset f.size ∧
    f.lineStarts.toList.countP (· < min offset f.size) =
      if start = min offset f.size then f.lineIndex (min offset f.size)
      else f.lineIndex (min offset f.size) + 1
  /-- Lines are counted from 1. -/
  one_le_line : 1 ≤ (f.position offset).line
  /-- The line is one of the file. -/
  line_le : (f.position offset).line ≤ f.lineCount
  /-- Columns are counted from 1. -/
  one_le_column : 1 ≤ (f.position offset).column
  /-- The line has a text to be shown. -/
  lineAt? : ∃ text, f.lineAt? (f.position offset).line = some text

theorem locates (f : SourceFile) (offset : Nat) : f.Locates offset := by
  have hlt := f.lineIndex_lt (min offset f.size)
  obtain ⟨hle, hnext⟩ := f.lineStart?_lineIndex (min offset f.size)
  obtain ⟨text, htext, -⟩ := f.exists_lineAt? hlt
  have hstart : f.lineStart? (f.lineIndex (min offset f.size)) =
      some f.lineStarts[f.lineIndex (min offset f.size)] := Array.getElem?_eq_getElem hlt
  rw [hstart, Option.getD_some] at hle
  refine ⟨⟨_, hstart, hle, ?_⟩, Nat.le_add_left _ _, hlt, Nat.le_add_left _ _, text, htext⟩
  refine countP_lt_of_pairwise f.lines_lineStarts.pairwise_lt ?_ hle ?_
  · rw [Array.getElem?_toList]
    exact hstart
  · intro b hb
    rw [Array.getElem?_toList] at hb
    exact hnext b hb

/-! ### Columns in reach -/

theorem columnsBetween_le (f : SourceFile) (start stop : Nat) :
    f.columnsBetween start stop ≤ stop - start := by
  cases hslice : Text.slice? f.content start stop with
  | none => rw [columnsBetween, hslice]
  | some piece =>
    obtain ⟨hlen, -⟩ := Text.bounds_of_slice? hslice
    have hpiece := Text.length_le_size piece
    rw [columnsBetween_of_slice? hslice]
    omega

theorem column_le (f : SourceFile) (offset : Nat) : (f.position offset).column ≤ f.size + 1 := by
  have hcolumns := f.columnsBetween_le
    (f.lineStarts.getD (f.lineIndex (min offset f.size)) 0) (min offset f.size)
  have hmin := Nat.min_le_right offset f.size
  rw [position]
  dsimp only
  omega

theorem length_le_of_lineAt? {n : Nat} {line : String} (h : f.lineAt? n = some line) :
    line.length ≤ f.size := by
  cases n with
  | zero => simp [lineAt?] at h
  | succ k =>
    rw [lineAt?_succ, Option.map_eq_some_iff] at h
    obtain ⟨piece, hpiece, rfl⟩ := h
    obtain ⟨start, -, hslice⟩ := Option.bind_eq_some_iff.1 hpiece
    obtain ⟨hlen, hstop, -⟩ := Text.bounds_of_slice? hslice
    have htrimmed := (List.rdropWhile_prefix isLineEnd piece.toList).length_le
    have hsize := Text.length_le_size piece
    rw [String.length_ofList, Text.dropEndWhile_eq_rdropWhile]
    rw [String.length_toList] at htrimmed
    rw [size]
    omega

end SourceFile

/-! ### Reports -/

namespace Diagnostic

variable {d : Diagnostic} {f : SourceFile}

/-- `d.ShownBy f block`: the block shows the diagnostic, wherever its span is. It has a header, a
place, a row with the line in which the span starts, a row with carets from the column of the start
on, and the advice. -/
def ShownBy (d : Diagnostic) (f : SourceFile) (block : String) : Prop :=
  ∃ line width carets, f.lineAt? (f.position d.span.start).line = some line ∧ 1 ≤ carets ∧
    (Text.padLeft width ' ' (Text.decimal (f.position d.span.start).line)).length = width ∧
    block = d.header ++ "\n" ++ d.place f ++ "\n" ++
      String.ofList (Text.padLeft width ' ' (Text.decimal (f.position d.span.start).line) ++
        Snippet.bar ++ line.toList) ++ "\n" ++
      String.ofList (List.replicate width ' ' ++ Snippet.bar ++
        List.replicate ((f.position d.span.start).column - 1) ' ' ++
        List.replicate carets '^') ++ "\n" ++
      String.join (d.helps.map fun advice => helpLine advice ++ "\n")

/-- There is a line to show, with columns that are no further to the right than the text is long. -/
theorem exists_snippet? (d : Diagnostic) (f : SourceFile) :
    ∃ s, d.snippet? f = some s ∧ f.lineAt? (f.position d.span.start).line = some s.line ∧
      s.lineNumber = (f.position d.span.start).line ∧
      s.startColumn = (f.position d.span.start).column ∧ s.endColumn ≤ f.size + 1 := by
  obtain ⟨line, hline⟩ := (f.locates d.span.start).lineAt?
  refine ⟨_, by rw [snippet?, hline]; rfl, hline, rfl, rfl, ?_⟩
  dsimp only
  split
  · exact f.column_le _
  · exact Nat.succ_le_succ (SourceFile.length_le_of_lineAt? hline)

/-- Neither the spaces before the carets nor the carets take more room than the text, but for the
one caret of an empty span. -/
theorem snippet?_fits {s : Snippet} (h : d.snippet? f = some s) :
    s.indent ≤ f.size ∧ s.caretCount ≤ max 1 f.size := by
  obtain ⟨t, ht, -, -, hstart, hend⟩ := d.exists_snippet? f
  obtain rfl : s = t := Option.some.inj (h.symm.trans ht)
  have hcolumn := f.column_le d.span.start
  have hone := (f.locates d.span.start).one_le_column
  rw [Snippet.indent, Snippet.caretCount, hstart]
  omega

theorem render_snippet?_eq_ok {s : Snippet} (h : d.snippet? f = some s)
    (hsize : f.size < Snippet.textLimit) : s.render = .ok s.rows := by
  obtain ⟨hindent, hcarets⟩ := snippet?_fits h
  have hone : 1 < Snippet.textLimit := by decide
  have hreach : s.isInReach = true := by
    rw [Snippet.isInReach, Bool.and_eq_true, decide_eq_true_eq, decide_eq_true_eq]
    omega
  rw [Snippet.render, if_pos hreach]

theorem shownBy_render (d : Diagnostic) (f : SourceFile) : d.ShownBy f (d.render f) := by
  obtain ⟨s, hs, hline, hnumber, hstart, -⟩ := d.exists_snippet? f
  have hgutter := s.length_gutter
  have hblock := render_of_snippet? hs
  rw [Snippet.sourceRow, Snippet.caretRow, Snippet.indent, hnumber, hstart] at hblock
  rw [hnumber] at hgutter
  exact ⟨s.line, s.gutterWidth, s.caretCount, hline, Nat.le_max_left _ _, hgutter, hblock⟩

/-- **Any span can be shown**: there is a place for any offset. For any diagnostic, there is a line
to show, with spaces and carets that take no more room than the text; so they can be printed if the
text is itself in reach. A report of several diagnostics is a block for each of them, in order, that
shows it. -/
theorem renderAll_total (f : SourceFile) (ds : List Diagnostic) :
    (∀ offset, f.Locates offset) ∧
      (∀ d : Diagnostic, ∃ s, d.snippet? f = some s ∧
        s.indent ≤ f.size ∧ s.caretCount ≤ max 1 f.size ∧
        (f.size < Snippet.textLimit → s.render = .ok s.rows) ∧ d.ShownBy f (d.render f)) ∧
      ∃ blocks, renderAll ds f = "\n".intercalate blocks ∧
        List.Forall₂ (fun d block => d.ShownBy f block) ds blocks := by
  refine ⟨f.locates, fun d => ?_, ds.map (·.render f), rfl, ?_⟩
  · obtain ⟨s, hs, -⟩ := d.exists_snippet? f
    obtain ⟨hindent, hcarets⟩ := snippet?_fits hs
    exact ⟨s, hs, hindent, hcarets, render_snippet?_eq_ok hs, d.shownBy_render f⟩
  · rw [List.forall₂_map_right_iff, List.forall₂_same]
    exact fun d _ => d.shownBy_render f

/-- A span that is stale: it runs backwards, from past the end to inside a character. -/
theorem renderAll_total_reversed :
    (SourceFile.ofContent "rule" "é").size < Snippet.textLimit ∧
      ∃ s, (error "stale" ⟨9, 1⟩).snippet? (.ofContent "rule" "é") = some s ∧
        s.render = .ok s.rows := by
  have hsize : (SourceFile.ofContent "rule" "é").size < Snippet.textLimit := by decide
  obtain ⟨s, hs, -, -, hrender, -⟩ :=
    (renderAll_total (.ofContent "rule" "é") []).2.1 (error "stale" ⟨9, 1⟩)
  exact ⟨hsize, s, hs, hrender hsize⟩

/-- The start counts as the end, which is behind the character. -/
example : (error "stale" ⟨9, 1⟩).render (.ofContent "rule" "é") =
    "error: stale\n  --> rule:1:2\n  1 | é\n    |  ^\n" := by
  decide +kernel

end Diagnostic

end ExprScan
