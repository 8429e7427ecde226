import ExprScan.Proofs.LinePosition
import ExprScan.Proofs.Located
import ExprScan.Proofs.ReportLines

/-!
# Carets under a span

A report shows the line in which its span starts and puts carets under the span. The span is a range
of bytes, while carets stand in columns, behind a gutter whose width depends on the number of the
line. So the start and the end of the span are turned into columns, each on its own, and the carets
are right only if all of this fits together.

## The model

`AtPlace` says what a place between two characters is for its line: what is passed of the line, what
is left of it, and what is shown of it. A span that has no line feed ends on the line on
which it starts, as many columns further on as it has characters; any other span ends on a later
line.

Main statement: `Diagnostic.render_underlines`, for every span that the shown line holds.
-/

namespace ExprScan

/-! ### Places in their lines -/

namespace SourceFile

variable {f : SourceFile} {before passed left after : List Char}

/-- `f.AtPlace before passed left after`: the place behind `before ++ passed` is on the line
`passed ++ left`, which starts behind `before`. -/
structure AtPlace (f : SourceFile) (before passed left after : List Char) : Prop where
  /-- The line and what stands around it make up the text. -/
  content_eq : f.content.toList = before ++ (passed ++ (left ++ after))
  /-- The line has no line feed. -/
  lineFeed_notMem : '\n' ∉ passed ++ left
  /-- The line goes on to a line feed or to the end of the text. -/
  ends : after = [] ∨ after.head? = some '\n'
  /-- The table has the line where it starts. -/
  start : f.lineStart? (before.count '\n') = some (Text.byteLength before)
  /-- The column counts what is passed of the line. -/
  position : f.position (Text.byteLength (before ++ passed)) =
    ⟨before.count '\n' + 1, passed.length + 1⟩
  /-- The line is shown without the carriage returns at its end. -/
  lineAt? : f.lineAt? (before.count '\n' + 1) =
    some (String.ofList ((passed ++ left).rdropWhile isLineEnd))

theorem exists_atPlace {front rest : List Char} (h : f.content.toList = front ++ rest) :
    ∃ before passed left after, front = before ++ passed ∧ rest = left ++ after ∧
      f.AtPlace before passed left after := by
  obtain ⟨before, body, after, hline, hends, hshown⟩ :=
    f.exists_inLine_lineAt? (byteLength_le_size h)
  obtain ⟨passed, left, rfl, rfl, rfl, hposition⟩ := hline.exists_passed h
  rw [← hline.count] at hshown
  refine ⟨before, passed, left, after, rfl, rfl, ?_⟩
  exact {
    content_eq := by rw [h, List.append_assoc]
    lineFeed_notMem := hline.lineFeed_notMem
    ends := hends
    start := by rw [hline.count, hline.start]
    position := hposition
    lineAt? := hshown }

theorem AtPlace.exists_left_eq (h : f.AtPlace before passed left after) {piece rest : List Char}
    (heq : left ++ after = piece ++ rest) (hp : '\n' ∉ piece) :
    ∃ more, left = piece ++ more ∧ rest = more ++ after := by
  rcases List.append_eq_append_iff.1 heq with ⟨beyond, rfl, hafter⟩ | ⟨more, hleft, hrest⟩
  · -- the line would end within the piece, and a line feed would follow
    have hnil : beyond = [] := by
      rcases h.ends with hends | hends
      · rw [hends] at hafter
        exact (List.append_eq_nil_iff.1 hafter.symm).1
      · rw [hafter] at hends
        cases beyond with
        | nil => rfl
        | cons c cs =>
          obtain rfl : c = '\n' := by simpa using hends
          exact absurd (List.mem_append_right left List.mem_cons_self) hp
    subst hnil
    exact ⟨[], by simp, by simpa using hafter.symm⟩
  · exact ⟨more, hleft, hrest⟩

/-- A piece that starts on a line and ends within what is shown of it is shown. -/
theorem exists_shown_eq {piece rest : List Char} (heq : left ++ after = piece ++ rest)
    (hle : Text.byteLength (before ++ passed ++ piece) ≤
      Text.byteLength before + Text.byteLength ((passed ++ left).rdropWhile isLineEnd)) :
    ∃ more, (passed ++ left).rdropWhile isLineEnd = passed ++ (piece ++ more) := by
  obtain ⟨ending, hshown⟩ := List.rdropWhile_prefix isLineEnd (passed ++ left)
  have htext : (before ++ passed ++ piece) ++ rest =
      (before ++ (passed ++ left).rdropWhile isLineEnd) ++ (ending ++ after) := by
    calc (before ++ passed ++ piece) ++ rest
        = before ++ (passed ++ (piece ++ rest)) := by simp
      _ = before ++ ((passed ++ left) ++ after) := by rw [← heq, List.append_assoc]
      _ = before ++ (((passed ++ left).rdropWhile isLineEnd ++ ending) ++ after) := by rw [hshown]
      _ = _ := by simp
  rw [← Text.byteLength_append] at hle
  obtain ⟨more, hmore, -⟩ := Text.exists_eq_append_of_byteLength_le htext hle
  exact ⟨more, by simpa using hmore⟩

end SourceFile

/-! ### Columns of a snippet -/

namespace Snippet

theorem length_gutter (s : Snippet) :
    (Text.padLeft s.gutterWidth ' ' (Text.decimal s.lineNumber)).length = s.gutterWidth := by
  have hle : (Text.decimal s.lineNumber).length ≤ s.gutterWidth := Nat.le_max_right _ _
  simp only [Text.padLeft, List.length_append, List.length_replicate]
  omega

theorem count_caretRow (s : Snippet) : s.caretRow.count '^' = s.caretCount := by
  have hbar : bar.count '^' = 0 := by decide
  simp [caretRow, List.count_append, List.count_replicate, hbar]

end Snippet

namespace Diagnostic

variable {d : Diagnostic} {f : SourceFile} {front piece rest : List Char} {line : String}

/-- The end of a span on the line on which it starts is found as many columns further on as the span
has characters. -/
theorem snippet?_of_lineFeed_notMem (h : f.content.toList = front ++ (piece ++ rest))
    (hstart : d.span.start = Text.byteLength front)
    (hstop : d.span.stop = Text.byteLength (front ++ piece)) (hp : '\n' ∉ piece)
    (hline : f.lineAt? (f.position d.span.start).line = some line) :
    d.snippet? f = some ⟨line, (f.position d.span.start).line, (f.position d.span.start).column,
      (f.position d.span.start).column + piece.length⟩ := by
  have hposition := SourceFile.position_append h hp
  rw [← hstart, ← hstop] at hposition
  simp [snippet?, hline, hposition]

/-- A span that goes on after its line ends, for the snippet, with what is shown of the line. -/
theorem snippet?_of_lineFeed_mem (h : f.content.toList = front ++ (piece ++ rest))
    (hstart : d.span.start = Text.byteLength front)
    (hstop : d.span.stop = Text.byteLength (front ++ piece)) (hp : '\n' ∈ piece)
    (hline : f.lineAt? (f.position d.span.start).line = some line) :
    d.snippet? f = some ⟨line, (f.position d.span.start).line, (f.position d.span.start).column,
      line.length + 1⟩ := by
  have hlt := SourceFile.line_lt_line_append h hp
  rw [← hstart, ← hstop] at hlt
  simp [snippet?, hline, Nat.ne_of_gt hlt]

theorem render_of_snippet? {s : Snippet} (h : d.snippet? f = some s) :
    d.render f = d.header ++ "\n" ++ d.place f ++ "\n" ++ String.ofList s.sourceRow ++ "\n" ++
      String.ofList s.caretRow ++ "\n" ++
        String.join (d.helps.map fun advice => helpLine advice ++ "\n") := by
  simp [render, h, Snippet.rows, String.append_assoc]

end Diagnostic

/-! ### Underlined pieces -/

/-- `Underlined p line piece top bottom`: the row `top` shows the line of the position `p`, and the
row `bottom` has carets under `piece`, which starts at `p`, and under nothing else. -/
structure Underlined (p : Position) (line piece : String) (top bottom : List Char) : Prop where
  /-- Both rows start with a gutter of the same width. In the first one it holds the number of the
  line. In the second one there are spaces up to the column of the position, and then carets. -/
  rows : ∃ width,
    (Text.padLeft width ' ' (Text.decimal p.line)).length = width ∧
    top = Text.padLeft width ' ' (Text.decimal p.line) ++ Snippet.bar ++ line.toList ∧
    bottom = List.replicate width ' ' ++ Snippet.bar ++ List.replicate (p.column - 1) ' ' ++
      List.replicate piece.length '^'
  /-- There is a caret. -/
  carets : 1 ≤ piece.length
  /-- What stands in the line above the carets is the piece. -/
  above : (line.toList.drop (p.column - 1)).take piece.length = piece.toList
  /-- The rows are two lines of the report. -/
  lines : '\n' ∉ top ∧ '\n' ∉ bottom

namespace Diagnostic

variable {d : Diagnostic} {f : SourceFile} {before passed left after piece rest : List Char}

theorem exists_underlined (h : f.AtPlace before passed left after)
    (heq : left ++ after = piece ++ rest) (hne : piece ≠ [])
    (hstart : d.span.start = Text.byteLength (before ++ passed))
    (hstop : d.span.stop = Text.byteLength (before ++ passed ++ piece))
    (hend : d.span.stop ≤ Text.byteLength before +
      Text.byteLength ((passed ++ left).rdropWhile SourceFile.isLineEnd)) :
    ∃ top bottom, f.extract d.span = .ok (String.ofList piece) ∧
      Underlined (f.position d.span.start)
        (String.ofList ((passed ++ left).rdropWhile SourceFile.isLineEnd)) (String.ofList piece) top
        bottom ∧
      d.render f = d.header ++ "\n" ++ d.place f ++ "\n" ++ String.ofList top ++ "\n" ++
        String.ofList bottom ++ "\n" ++
          String.join (d.helps.map fun advice => helpLine advice ++ "\n") := by
  have htext : f.content.toList = (before ++ passed) ++ (piece ++ rest) := by
    rw [h.content_eq, heq, List.append_assoc]
  have hposition : f.position d.span.start = ⟨before.count '\n' + 1, passed.length + 1⟩ := by
    rw [hstart, h.position]
  have hslice := Text.slice?_of_toList htext
  rw [← Text.byteLength_append, ← hstart, ← hstop] at hslice
  rw [hstop] at hend
  obtain ⟨more, hshown⟩ := SourceFile.exists_shown_eq heq hend
  have hline : f.lineAt? (f.position d.span.start).line =
      some (String.ofList (passed ++ (piece ++ more))) := by
    rw [hposition, h.lineAt?, hshown]
  have hfeed : '\n' ∉ passed ++ (piece ++ more) := by
    intro hmem
    rw [← hshown] at hmem
    exact h.lineFeed_notMem ((List.rdropWhile_prefix _ _).mem hmem)
  have hsnippet := snippet?_of_lineFeed_notMem htext hstart hstop
    (fun hmem => hfeed (by simp [hmem])) hline
  refine ⟨_, _, SourceFile.extract_of_slice? hslice, ?_, render_of_snippet? hsnippet⟩
  rw [hshown, hposition]
  have hpos : 1 ≤ piece.length := List.length_pos_iff.2 hne
  refine ⟨⟨_, Snippet.length_gutter _, rfl, ?_⟩, ?_, ?_, ?_, ?_⟩
  · simp [Snippet.caretRow, Snippet.indent, Snippet.caretCount, Nat.max_eq_right hpos]
  · simpa using hpos
  · simp
  · exact Snippet.lineFeed_notMem_sourceRow (by simpa using hfeed)
  · exact Snippet.lineFeed_notMem_caretRow _

/-- **Carets underline the span**: a report whose span is not empty and lies between two characters
shows the line in which the span starts. If the span ends within what is shown, then the report is
a header, a place, the line, carets exactly under what the span covers, and the advice. -/
theorem render_underlines (hlt : d.span.start < d.span.stop)
    (hstart : Text.isBoundary f.content d.span.start = true)
    (hstop : Text.isBoundary f.content d.span.stop = true) :
    ∃ line start, f.lineAt? (f.position d.span.start).line = some line ∧
      f.lineStart? ((f.position d.span.start).line - 1) = some start ∧
      (d.span.stop ≤ start + Text.size line →
        ∃ piece top bottom, f.extract d.span = .ok piece ∧
          Underlined (f.position d.span.start) line piece top bottom ∧
          d.render f = d.header ++ "\n" ++ d.place f ++ "\n" ++ String.ofList top ++ "\n" ++
            String.ofList bottom ++ "\n" ++
              String.join (d.helps.map fun advice => helpLine advice ++ "\n")) := by
  obtain ⟨front, behind, htext, hfront⟩ := Text.exists_toList_eq_of_isBoundary hstart
  obtain ⟨upTo, rest, htext', hupTo⟩ := Text.exists_toList_eq_of_isBoundary hstop
  obtain ⟨piece, rfl, rfl⟩ := Text.exists_eq_append_of_byteLength_le (htext.symm.trans htext')
    (by omega)
  have hne : piece ≠ [] := by
    rintro rfl
    simp [← hupTo, ← hfront] at hlt
  obtain ⟨before, passed, left, after, rfl, hleft, hplace⟩ := SourceFile.exists_atPlace htext
  have hposition := hplace.position
  rw [hfront] at hposition
  refine ⟨_, _, by rw [hposition, hplace.lineAt?],
    by rw [hposition, Nat.add_sub_cancel, hplace.start], fun hend => ?_⟩
  rw [Text.size_ofList] at hend
  obtain ⟨top, bottom, hall⟩ :=
    exists_underlined hplace hleft.symm hne hfront.symm hupTo.symm hend
  exact ⟨_, top, bottom, hall⟩

/-- For instance for a field on the second of two lines, behind a letter of two bytes. -/
theorem render_underlines_field :
    14 < 17 ∧ Text.isBoundary "x > 1 &&\n  é.bar" 14 = true ∧
      Text.isBoundary "x > 1 &&\n  é.bar" 17 = true ∧ 17 ≤ 9 + Text.size "  é.bar" ∧
      ∃ piece top bottom,
        (SourceFile.ofContent "rule" "x > 1 &&\n  é.bar").extract ⟨14, 17⟩ = .ok piece ∧
        Underlined ((SourceFile.ofContent "rule" "x > 1 &&\n  é.bar").position 14) "  é.bar" piece
          top bottom ∧
        (error "hidden" ⟨14, 17⟩).render (.ofContent "rule" "x > 1 &&\n  é.bar") =
          (error "hidden" ⟨14, 17⟩).header ++ "\n" ++
            (error "hidden" ⟨14, 17⟩).place (.ofContent "rule" "x > 1 &&\n  é.bar") ++ "\n" ++
              String.ofList top ++ "\n" ++ String.ofList bottom ++ "\n" ++ "" := by
  have hstart : Text.isBoundary "x > 1 &&\n  é.bar" 14 = true := by decide +kernel
  have hstop : Text.isBoundary "x > 1 &&\n  é.bar" 17 = true := by decide +kernel
  have hend : 17 ≤ 9 + Text.size "  é.bar" := by decide +kernel
  have hline : (SourceFile.ofContent "rule" "x > 1 &&\n  é.bar").lineAt?
      ((SourceFile.ofContent "rule" "x > 1 &&\n  é.bar").position 14).line = some "  é.bar" := by
    decide +kernel
  have hbegin : (SourceFile.ofContent "rule" "x > 1 &&\n  é.bar").lineStart?
      (((SourceFile.ofContent "rule" "x > 1 &&\n  é.bar").position 14).line - 1) = some 9 := by
    decide +kernel
  obtain ⟨line, start, hline', hbegin', hall⟩ :=
    render_underlines (d := error "hidden" ⟨14, 17⟩)
      (f := .ofContent "rule" "x > 1 &&\n  é.bar") (by decide) hstart hstop
  obtain rfl : "  é.bar" = line := Option.some.inj (hline.symm.trans hline')
  obtain rfl : 9 = start := Option.some.inj (hbegin.symm.trans hbegin')
  exact ⟨by decide, hstart, hstop, hend, hall hend⟩

/-- The block of that report. -/
example : (error "hidden" ⟨14, 17⟩).render (.ofContent "rule" "x > 1 &&\n  é.bar") =
    "error: hidden\n  --> rule:2:5\n  2 |   é.bar\n    |     ^^^\n" := by
  decide +kernel

end Diagnostic

end ExprScan
