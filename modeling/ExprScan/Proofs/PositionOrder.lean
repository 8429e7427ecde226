import ExprScan.Proofs.LinePosition
import ExprScan.Proofs.ReportOwner
import ExprScan.Report.Located

/-!
# Positions in order

A reader finds a place by its line and column, so that two places must not share them. The offset of
a place between two characters can be told from its position, and a place further on in the text has
a later position. For the tokens of a scan this means that they are listed in the order in which
they stand in the text, each at a position of its own.

Main statement: `position_ordered`.
-/

namespace ExprScan

/-! ### The order of positions -/

/-- On an earlier line, or earlier on the same line. -/
def Position.Before (p q : Position) : Prop :=
  p.line < q.line ∨ p.line = q.line ∧ p.column < q.column

instance (p q : Position) : Decidable (p.Before q) := inferInstanceAs (Decidable (_ ∨ _))

namespace SourceFile

variable {f : SourceFile}

/-- A place further on is on a later line if a line feed stands in between, and else further on in
the same line. -/
theorem position_before_append {front passed rest : List Char}
    (h : f.content.toList = front ++ (passed ++ rest)) (hne : passed ≠ []) :
    (f.position (Text.byteLength front)).Before
      (f.position (Text.byteLength (front ++ passed))) := by
  by_cases hmem : '\n' ∈ passed
  · exact .inl (line_lt_line_append h hmem)
  · rw [position_append h hmem]
    exact .inr ⟨rfl, Nat.lt_add_of_pos_right (List.length_pos_iff.2 hne)⟩

theorem position_before (f : SourceFile) {a b : Nat} (ha : Text.isBoundary f.content a = true)
    (hb : Text.isBoundary f.content b = true) (hab : a < b) :
    (f.position a).Before (f.position b) := by
  obtain ⟨front, rest, h, rfl⟩ := Text.exists_toList_eq_of_isBoundary ha
  obtain ⟨front', rest', h', rfl⟩ := Text.exists_toList_eq_of_isBoundary hb
  obtain ⟨passed, rfl, rfl⟩ :=
    Text.exists_eq_append_of_byteLength_le (h.symm.trans h') (Nat.le_of_lt hab)
  refine position_before_append h ?_
  rintro rfl
  simp at hab

/-- `f.Finds p offset`: the line of the position `p` is in the table, and as many characters from
its start on as the column counts lead to the offset. -/
structure Finds (f : SourceFile) (p : Position) (offset : Nat) : Prop where
  /-- Lines are counted from 1. -/
  line_pos : 1 ≤ p.line
  /-- Columns are counted from 1. -/
  column_pos : 1 ≤ p.column
  /-- The characters from the start of the line to the offset. -/
  offset_eq : ∃ start rest, f.lineStart? (p.line - 1) = some start ∧
    Text.slice? f.content start (Text.size f.content) = some rest ∧
    p.column - 1 ≤ rest.toList.length ∧
    offset = start + Text.byteLength (rest.toList.take (p.column - 1))

theorem finds_position (f : SourceFile) {offset : Nat}
    (hb : Text.isBoundary f.content offset = true) : f.Finds (f.position offset) offset := by
  obtain ⟨front, rest, h, rfl⟩ := Text.exists_toList_eq_of_isBoundary hb
  obtain ⟨before, passed, rfl, -, -, hstart, hposition⟩ := exists_passed h
  have hrest : f.content.toList = before ++ ((passed ++ rest) ++ []) := by
    rw [h, List.append_nil, List.append_assoc]
  have hsize : Text.size f.content = Text.byteLength before + Text.byteLength (passed ++ rest) := by
    rw [← Text.byteLength_toList, hrest, Text.byteLength_append, List.append_nil]
  have hslice := Text.slice?_of_toList hrest
  rw [← hsize] at hslice
  rw [hposition]
  refine ⟨Nat.le_add_left _ _, Nat.le_add_left _ _, _, _, hstart, hslice, ?_, ?_⟩
  · simp
  · simp

end SourceFile

/-! ### Tokens -/

/-- The tokens of a run start one behind the other: none of them but the last is empty. -/
theorem Run.pairwise_offset_lt {functions : NameSet} {offset : Nat} {cs : List Char}
    {ls : List Lexeme} (h : Run functions offset cs ls) :
    ls.Pairwise fun l l' => l.token.offset < l'.token.offset := by
  induction h with
  | finish hb => exact List.pairwise_singleton _ _
  | @token offset blanks cs c m ls hb hc hm next ih =>
    refine List.Pairwise.cons (fun l hl => ?_) ih
    have hle := next.le_offset hl
    have hpos := Munch.byteLength_taken_pos hm
    show offset + Text.byteLength blanks < l.token.offset
    omega

theorem pairwise_locate (settings : Settings) (f : SourceFile) :
    ((tokenize settings f.content).tokens.map (·.locate f)).Pairwise
      fun t t' => t.position.Before t'.position := by
  have hboundary : ∀ t ∈ (tokenize settings f.content).tokens,
      Text.isBoundary f.content t.offset = true := by
    intro t ht
    obtain ⟨before, after, hs, ho⟩ := exists_toList_eq_of_mem_tokens ht
    rw [← ho]
    exact Text.isBoundary_of_toList hs
  have hlt : (tokenize settings f.content).tokens.Pairwise fun t t' => t.offset < t'.offset :=
    List.pairwise_map.2 (run_lexemesFrom settings.functions 0 f.content.toList).pairwise_offset_lt
  rw [List.pairwise_map]
  refine hlt.imp_of_mem fun ht ht' hlt => ?_
  exact f.position_before (hboundary _ ht) (hboundary _ ht') hlt

/-- **Positions are in order**: the offset of a place between two characters can be told from its
position, and of two such places the one further on has the later position. So the tokens of a scan,
the mark of the end included, are located at positions of which each is before the next. -/
theorem position_ordered (settings : Settings) (name content : String) :
    (∀ offset, Text.isBoundary content offset = true →
        (SourceFile.ofContent name content).Finds
          ((SourceFile.ofContent name content).position offset) offset) ∧
      (∀ a b, Text.isBoundary content a = true → Text.isBoundary content b = true → a < b →
        ((SourceFile.ofContent name content).position a).Before
          ((SourceFile.ofContent name content).position b)) ∧
      ((tokenize settings content).tokens.map (·.locate (.ofContent name content))).Pairwise
        fun t t' => t.position.Before t'.position := by
  refine ⟨fun offset hb => ?_, fun a b ha hb hab => ?_, ?_⟩
  · exact (SourceFile.ofContent name content).finds_position hb
  · exact (SourceFile.ofContent name content).position_before ha hb hab
  · exact pairwise_locate settings (.ofContent name content)

/-- For instance, for tokens on three lines, with a string that goes over a line feed. -/
example : ((tokenize {} "é +\n'a\nb' c").tokens.map
    (·.locate (.ofContent "rule" "é +\n'a\nb' c"))).map (·.position) =
      [⟨1, 1⟩, ⟨1, 3⟩, ⟨2, 1⟩, ⟨3, 4⟩, ⟨3, 5⟩] := by
  decide +kernel

end ExprScan
