import ExprScan.Source.File
import Mathlib.Data.List.DropRight

/-!
# Lines of a text

A line ends at a line feed, and the last one at the end of the text. This module says so as a
relation between a text and the offsets at which its lines start, `Lines`, so that a law of the
lines is proved by induction on them: one case for the last line, one for a line and what follows
its line feed.

## The model

The lines themselves, each with the line feed that ends it, are the `pieces` of the text. `LineCut`
ties them to the offsets: a piece starts where the pieces before it end. All else about the lines of
a file is read off this.

Main statements: the line table of a file lists its lines (`lines_lineTable`) and cuts the text into
them (`Lines.exists_cut`), every offset falls into one of them (`SourceFile.lineIndex_lt`,
`SourceFile.lineStart?_lineIndex`), and the table splits the text without loss
(`SourceFile.exists_splitsInto`).
-/

namespace ExprScan

/-! ### The line table -/

theorem utf8Size_lineFeed : '\n'.utf8Size = 1 := by decide

/-- `Lines offset cs starts`: the lines of the text `cs`, which starts at byte `offset`, start at
the offsets `starts`. -/
inductive Lines : Nat → List Char → List Nat → Prop where
  /-- A text without a line feed is one line. -/
  | last {offset : Nat} {body : List Char} (hb : '\n' ∉ body) : Lines offset body [offset]
  /-- A line up to its line feed, then the lines of what follows. -/
  | line {offset : Nat} {body rest : List Char} {starts : List Nat} (hb : '\n' ∉ body)
      (next : Lines (offset + Text.byteLength body + 1) rest starts) :
      Lines offset (body ++ '\n' :: rest) (offset :: starts)

/-- A character that is no line feed makes the first line longer. -/
theorem Lines.cons {offset start : Nat} {c : Char} {cs : List Char} {starts : List Nat}
    (hc : c ≠ '\n') (h : Lines (offset + c.utf8Size) cs (start :: starts)) :
    Lines offset (c :: cs) (offset :: starts) := by
  cases h with
  | last hb => exact .last (by simp [hb, Ne.symm hc])
  | @line _ body rest starts hb next =>
    have hb' : '\n' ∉ c :: body := by simp [hb, Ne.symm hc]
    have hcount : offset + c.utf8Size + Text.byteLength body + 1 =
        offset + Text.byteLength (c :: body) + 1 := by
      rw [Text.byteLength_cons, Nat.add_assoc offset]
    rw [hcount] at next
    exact .line hb' next

/-- The offsets after the line feeds, with the offset of the text before them, are where its lines
start. -/
theorem lines_lineStartsAfter (offset : Nat) (cs : List Char) :
    Lines offset cs (offset :: lineStartsAfter offset cs) := by
  induction cs generalizing offset with
  | nil => exact .last List.not_mem_nil
  | cons c cs ih =>
    have h := ih (offset + c.utf8Size)
    by_cases hc : c = '\n'
    · subst hc
      rw [lineStartsAfter, if_pos (beq_self_eq_true '\n')]
      rw [utf8Size_lineFeed] at h ⊢
      exact .line List.not_mem_nil h
    · rw [lineStartsAfter, if_neg (by simpa using hc)]
      exact h.cons hc

theorem lines_lineTable (content : String) :
    Lines 0 content.toList (lineTable content).toList := lines_lineStartsAfter 0 content.toList

theorem Lines.offset_le {offset : Nat} {cs : List Char} {starts : List Nat}
    (h : Lines offset cs starts) {start : Nat} (hs : start ∈ starts) : offset ≤ start := by
  induction h with
  | last hb => exact Nat.le_of_eq (List.mem_singleton.1 hs).symm
  | @line offset body rest starts hb next ih =>
    rcases List.mem_cons.1 hs with rfl | hs
    · exact Nat.le_refl _
    · have := ih hs
      omega

theorem Lines.pairwise_lt {offset : Nat} {cs : List Char} {starts : List Nat}
    (h : Lines offset cs starts) : starts.Pairwise (· < ·) := by
  induction h with
  | last hb => exact List.pairwise_singleton _ _
  | @line offset body rest starts hb next ih =>
    refine List.Pairwise.cons (fun start hs => ?_) ih
    have := next.offset_le hs
    omega

/-! ### Cutting a text into its lines -/

/-- `LineCut offset cs starts pieces`: the text `cs`, which starts at byte `offset`, falls into the
lines `pieces`, each with the line feed that ends it, and these start at the offsets `starts`. -/
structure LineCut (offset : Nat) (cs : List Char) (starts : List Nat) (pieces : List (List Char)) :
    Prop where
  /-- The lines one behind the other are the text. -/
  flatten_eq : pieces.flatten = cs
  /-- There are as many lines as there are starts. -/
  length_eq : pieces.length = starts.length
  /-- A line starts where the lines before it end. -/
  start : ∀ k < pieces.length, starts[k]? = some (offset + Text.byteLength (pieces.take k).flatten)
  /-- A line has one line feed, at its end. The last line has none. -/
  ending : ∀ k < pieces.length, ∃ body, '\n' ∉ body ∧
    pieces[k]? = some (body ++ if k + 1 < pieces.length then ['\n'] else [])

/-- The offsets at which the lines of a text start cut it into its lines. -/
theorem Lines.exists_cut {offset : Nat} {cs : List Char} {starts : List Nat}
    (h : Lines offset cs starts) : ∃ pieces, LineCut offset cs starts pieces := by
  induction h with
  | @last offset body hb =>
    refine ⟨[body], by simp, rfl, fun k hk => ?_, fun k hk => ?_⟩
    · obtain rfl : k = 0 := by simpa using hk
      simp
    · obtain rfl : k = 0 := by simpa using hk
      exact ⟨body, hb, by simp⟩
  | @line offset body rest starts hb next ih =>
    obtain ⟨pieces, hcut⟩ := ih
    refine ⟨(body ++ ['\n']) :: pieces, by simp [hcut.flatten_eq], by simp [hcut.length_eq],
      fun k hk => ?_, fun k hk => ?_⟩
    · cases k with
      | zero => simp
      | succ k =>
        rw [List.getElem?_cons_succ, hcut.start k (by simpa using hk)]
        simp [utf8Size_lineFeed, Nat.add_assoc]
    · cases k with
      | zero =>
        -- other lines follow the first one, so that it has its line feed
        have hmore : 0 < pieces.length := by
          rw [hcut.length_eq]
          cases next <;> simp
        exact ⟨body, hb, by simp [hmore]⟩
      | succ k =>
        obtain ⟨body', hb', hpiece⟩ := hcut.ending k (by simpa using hk)
        exact ⟨body', hb', by simp [hpiece]⟩

namespace LineCut

variable {offset : Nat} {cs : List Char} {starts : List Nat} {pieces : List (List Char)}

theorem flatten_take_succ {k : Nat} {piece : List Char} (hp : pieces[k]? = some piece) :
    (pieces.take (k + 1)).flatten = (pieces.take k).flatten ++ piece := by
  rw [List.take_add_one, hp, Option.toList_some, List.flatten_concat]

/-- A line stands behind the lines before it and in front of the others. -/
theorem text_eq (h : LineCut offset cs starts pieces) {k : Nat} {piece : List Char}
    (hp : pieces[k]? = some piece) :
    cs = (pieces.take k).flatten ++ (piece ++ (pieces.drop (k + 1)).flatten) := by
  rw [← List.append_assoc, ← flatten_take_succ hp, ← List.flatten_append, List.take_append_drop,
    h.flatten_eq]

/-- A line ends where the next one starts, or else with the text. -/
theorem stop (h : LineCut offset cs starts pieces) {k : Nat} {piece : List Char}
    (hp : pieces[k]? = some piece) :
    starts[k + 1]?.getD (offset + Text.byteLength cs) =
      offset + (Text.byteLength (pieces.take k).flatten + Text.byteLength piece) := by
  rw [← Text.byteLength_append, ← flatten_take_succ hp]
  by_cases hk : k + 1 < pieces.length
  · rw [h.start (k + 1) hk, Option.getD_some]
  · have hall : pieces.take (k + 1) = pieces := List.take_of_length_le (by omega)
    have hnone : starts[k + 1]? = none := by
      rw [List.getElem?_eq_none_iff, ← h.length_eq]
      omega
    rw [hnone, hall, h.flatten_eq, Option.getD_none]

/-- As many line feeds stand before a line as there are lines before it. -/
theorem count_take (h : LineCut offset cs starts pieces) {k : Nat} (hk : k < pieces.length) :
    (pieces.take k).flatten.count '\n' = k := by
  induction k with
  | zero => simp
  | succ k ih =>
    obtain ⟨body, hb, hpiece⟩ := h.ending k (by omega)
    rw [if_pos hk] at hpiece
    rw [flatten_take_succ hpiece, List.count_append, ih (by omega), List.count_append,
      List.count_eq_zero.2 hb]
    simp

theorem take_eq_nil_or (h : LineCut offset cs starts pieces) {k : Nat} (hk : k < pieces.length) :
    (pieces.take k).flatten = [] ∨ ∃ front, (pieces.take k).flatten = front ++ ['\n'] := by
  cases k with
  | zero => exact .inl (by simp)
  | succ k =>
    obtain ⟨body, -, hpiece⟩ := h.ending k (by omega)
    rw [if_pos hk] at hpiece
    refine .inr ⟨(pieces.take k).flatten ++ body, ?_⟩
    rw [flatten_take_succ hpiece, List.append_assoc]

theorem count_eq (h : LineCut offset cs starts pieces) (hne : 0 < pieces.length) :
    cs.count '\n' + 1 = pieces.length := by
  obtain ⟨k, hk⟩ : ∃ k, pieces.length = k + 1 := ⟨pieces.length - 1, by omega⟩
  obtain ⟨body, hb, hpiece⟩ := h.ending k (by omega)
  have hall : pieces.take (k + 1) = pieces := List.take_of_length_le (by omega)
  rw [if_neg (by omega), List.append_nil] at hpiece
  rw [← h.flatten_eq, ← hall, flatten_take_succ hpiece, List.count_append, h.count_take (by omega),
    List.count_eq_zero.2 hb, hall, hk]

end LineCut

/-! ### Halving -/

theorem lastAtMost_lt (table : Array Nat) (n : Nat) {low high : Nat} (h : low < high) :
    lastAtMost table n low high < high := by
  fun_induction lastAtMost table n low high with
  | case1 low high hle => exact h
  | case2 low high hle hmid ih => exact ih (by omega)
  | case3 low high hle hmid ih =>
    have := ih (by omega)
    omega

/-- Halving finds a number of at most `n` and has a greater one behind it, if it starts between two
such numbers. Behind the table counts as greater. -/
theorem lastAtMost_spec (table : Array Nat) (n : Nat) {low high : Nat} (h : low < high)
    (hlow : table.getD low 0 ≤ n) (hhigh : high < table.size → n < table.getD high 0) :
    table.getD (lastAtMost table n low high) 0 ≤ n ∧
      (lastAtMost table n low high + 1 < table.size →
        n < table.getD (lastAtMost table n low high + 1) 0) := by
  fun_induction lastAtMost table n low high with
  | case1 low high hle =>
    obtain rfl : high = low + 1 := by omega
    exact ⟨hlow, hhigh⟩
  | case2 low high hle hmid ih => exact ih (by omega) hmid hhigh
  | case3 low high hle hmid ih => exact ih (by omega) hlow fun _ => Nat.lt_of_not_le hmid

/-! ### The text of a line -/

theorem Text.dropEndWhile_eq_rdropWhile (p : Char → Bool) (cs : List Char) :
    Text.dropEndWhile p cs = cs.rdropWhile p := rfl

/-- `Trimmed p piece line`: `line` is `piece` without its longest run of characters of a class at
the end. -/
structure Text.Trimmed (p : Char → Prop) (piece line : String) : Prop where
  /-- What is missing stands at the end and is of the class. -/
  dropped : ∃ ending, piece = line ++ ending ∧ ∀ c ∈ ending.toList, p c
  /-- What is left does not end with a character of the class. -/
  longest : ∀ c, line.toList.getLast? = some c → ¬ p c

theorem Text.trimmed_dropEndWhile (p : Char → Bool) (piece : String) :
    Text.Trimmed (p · = true) piece (String.ofList (Text.dropEndWhile p piece.toList)) := by
  rw [Text.dropEndWhile_eq_rdropWhile]
  refine ⟨⟨String.ofList (piece.toList.rtakeWhile p), ?_, fun c hc => ?_⟩, fun c hc => ?_⟩
  · rw [← String.ofList_append, List.rdropWhile_append_rtakeWhile, String.ofList_toList]
  · exact List.mem_rtakeWhile_imp (by simpa using hc)
  · rw [String.toList_ofList] at hc
    have hne : piece.toList.rdropWhile p ≠ [] := by
      intro hnil
      rw [hnil] at hc
      cases hc
    rw [List.getLast?_eq_some_getLast hne, Option.some.injEq] at hc
    rw [← hc]
    exact List.rdropWhile_last_not p _ hne

namespace SourceFile

/-- The text from the start of a line to the start of the next one, or to the end of the file. Lines
are counted from 0. -/
def linePiece? (f : SourceFile) (k : Nat) : Option String :=
  (f.lineStart? k).bind fun start =>
    Text.slice? f.content start ((f.lineStart? (k + 1)).getD f.size)

variable {f : SourceFile} {pieces : List (List Char)}

theorem lineCount_pos (f : SourceFile) : 0 < f.lineCount := by
  rw [lineCount, f.lineStarts_eq]
  exact Nat.succ_pos _

theorem lineStart?_zero (f : SourceFile) : f.lineStart? 0 = some 0 := by
  rw [lineStart?, f.lineStarts_eq]
  rfl

theorem lines_lineStarts (f : SourceFile) : Lines 0 f.content.toList f.lineStarts.toList := by
  rw [f.lineStarts_eq]
  exact lines_lineTable f.content

/-- `f.CutsInto pieces`: the lines of the file are `pieces`, each with the line feed that ends
it. -/
def CutsInto (f : SourceFile) (pieces : List (List Char)) : Prop :=
  LineCut 0 f.content.toList f.lineStarts.toList pieces

theorem exists_cutsInto (f : SourceFile) : ∃ pieces, f.CutsInto pieces :=
  f.lines_lineStarts.exists_cut

theorem CutsInto.length_eq (h : f.CutsInto pieces) : pieces.length = f.lineCount :=
  LineCut.length_eq h

theorem CutsInto.lineStart? (h : f.CutsInto pieces) {k : Nat} (hk : k < pieces.length) :
    f.lineStart? k = some (Text.byteLength (pieces.take k).flatten) := by
  have hstart := LineCut.start h k hk
  rwa [Nat.zero_add, Array.getElem?_toList] at hstart

/-- A line is found between its start and the start of the next one, or the end of the text. -/
theorem CutsInto.linePiece? (h : f.CutsInto pieces) (k : Nat) :
    f.linePiece? k = (pieces.map String.ofList)[k]? := by
  rw [SourceFile.linePiece?, List.getElem?_map]
  cases hp : pieces[k]? with
  | none =>
    have hnone : f.lineStart? k = none := by
      rw [List.getElem?_eq_none_iff, h.length_eq] at hp
      exact Array.getElem?_eq_none hp
    rw [hnone]
    rfl
  | some piece =>
    have hk : k < pieces.length := (List.getElem?_eq_some_iff.1 hp).1
    have hstop := LineCut.stop h hp
    rw [Nat.zero_add, Nat.zero_add, Text.byteLength_toList, Array.getElem?_toList] at hstop
    rw [h.lineStart? hk, Option.bind_some, SourceFile.lineStart?, size, hstop]
    exact Text.slice?_of_toList (LineCut.text_eq h hp)

theorem lineAt?_succ (f : SourceFile) (k : Nat) :
    f.lineAt? (k + 1) = (f.linePiece? k).map fun piece =>
      String.ofList (Text.dropEndWhile isLineEnd piece.toList) := by
  rw [lineAt?, if_neg (Nat.succ_ne_zero k), Nat.add_sub_cancel, linePiece?]
  cases f.lineStart? k with
  | none => rfl
  | some start =>
    dsimp only [Option.bind_eq_bind, Option.bind_some]
    cases Text.slice? f.content start ((f.lineStart? (k + 1)).getD f.size) <;> rfl

/-- Every line has a text: the line without the line feeds and carriage returns at its end. -/
theorem CutsInto.exists_lineAt? (h : f.CutsInto pieces) {k : Nat} {piece : List Char}
    (hp : pieces[k]? = some piece) :
    ∃ line, f.lineAt? (k + 1) = some line ∧
      Text.Trimmed (isLineEnd · = true) (String.ofList piece) line ∧ '\n' ∉ line.toList := by
  have htrimmed := Text.trimmed_dropEndWhile isLineEnd (String.ofList piece)
  refine ⟨_, ?_, htrimmed, ?_⟩
  · rw [lineAt?_succ, h.linePiece?, List.getElem?_map, hp]
    rfl
  · -- the line feed that ends the line is dropped, and there is no other
    obtain ⟨body, hb, hbody⟩ := LineCut.ending h k (List.getElem?_eq_some_iff.1 hp).1
    obtain rfl : piece = _ := Option.some.inj (hp.symm.trans hbody)
    rw [String.toList_ofList, String.toList_ofList, Text.dropEndWhile_eq_rdropWhile]
    intro hmem
    split_ifs at hmem with hmore
    · rw [List.rdropWhile_concat_pos _ _ _ (by decide)] at hmem
      exact hb ((List.rdropWhile_prefix isLineEnd body).mem hmem)
    · rw [List.append_nil] at hmem
      exact hb ((List.rdropWhile_prefix isLineEnd body).mem hmem)

theorem exists_lineAt? (f : SourceFile) {k : Nat} (hk : k < f.lineCount) :
    ∃ line, f.lineAt? (k + 1) = some line ∧ '\n' ∉ line.toList := by
  obtain ⟨pieces, h⟩ := f.exists_cutsInto
  rw [← h.length_eq] at hk
  obtain ⟨line, hline, -, hfeed⟩ := h.exists_lineAt? (List.getElem?_eq_getElem hk)
  exact ⟨line, hline, hfeed⟩

/-! ### The line of an offset -/

theorem lineIndex_lt (f : SourceFile) (offset : Nat) : f.lineIndex offset < f.lineCount :=
  lastAtMost_lt f.lineStarts offset f.lineCount_pos

/-- `f.InLine offset before body after`: the line of the offset has the text `body`, without its
line feed, and stands between `before` and `after`. -/
structure InLine (f : SourceFile) (offset : Nat) (before body after : List Char) : Prop where
  /-- The three parts make up the text. -/
  content_eq : f.content.toList = before ++ (body ++ after)
  /-- The table has the line where it starts. -/
  start : f.lineStart? (f.lineIndex offset) = some (Text.byteLength before)
  /-- The number of the line is that of the line feeds before it. -/
  count : before.count '\n' = f.lineIndex offset
  /-- The line stands at the start of the text or behind a line feed. -/
  begins : before = [] ∨ ∃ front, before = front ++ ['\n']
  /-- The line has no line feed before its end. -/
  lineFeed_notMem : '\n' ∉ body
  /-- The offset is not before the line. -/
  start_le : Text.byteLength before ≤ offset
  /-- The offset is not behind the line. -/
  le_stop : offset ≤ Text.byteLength before + Text.byteLength body

theorem getD_lineStarts (f : SourceFile) (k : Nat) :
    f.lineStarts.getD k 0 = (f.lineStart? k).getD 0 := by
  rw [lineStart?, Array.getD_eq_getD_getElem?]

/-- Halving finds the line that starts last of those that do not start behind the offset. -/
theorem lineStart?_lineIndex (f : SourceFile) (offset : Nat) :
    (f.lineStart? (f.lineIndex offset)).getD 0 ≤ offset ∧
      ∀ next, f.lineStart? (f.lineIndex offset + 1) = some next → offset < next := by
  obtain ⟨hle, hlt⟩ := lastAtMost_spec f.lineStarts offset f.lineCount_pos (by
    rw [getD_lineStarts, f.lineStart?_zero]
    exact Nat.zero_le _) (fun h => absurd h (Nat.lt_irrefl _))
  rw [getD_lineStarts] at hle hlt
  refine ⟨hle, fun next hnext => ?_⟩
  have hlast := hlt (Array.getElem?_eq_some_iff.1 hnext).1
  have hindex : lastAtMost f.lineStarts offset 0 f.lineCount = f.lineIndex offset := rfl
  rwa [hindex, hnext] at hlast

/-- Every offset within the text falls into a line, which halving finds. The line goes on to a line
feed or to the end of the text, and its text is what stands before the carriage returns at its
end. -/
theorem exists_inLine_lineAt? (f : SourceFile) {offset : Nat} (ho : offset ≤ f.size) :
    ∃ before body after, f.InLine offset before body after ∧
      (after = [] ∨ after.head? = some '\n') ∧
      f.lineAt? (f.lineIndex offset + 1) = some (String.ofList (body.rdropWhile isLineEnd)) := by
  obtain ⟨pieces, h⟩ := f.exists_cutsInto
  have hk : f.lineIndex offset < pieces.length := by
    rw [h.length_eq]
    exact f.lineIndex_lt offset
  obtain ⟨hle, hlt⟩ := f.lineStart?_lineIndex offset
  obtain ⟨body, hb, hpiece⟩ := LineCut.ending h _ hk
  refine ⟨_, body, (if f.lineIndex offset + 1 < pieces.length then ['\n'] else []) ++
    (pieces.drop (f.lineIndex offset + 1)).flatten, ⟨?_, h.lineStart? hk, LineCut.count_take h hk,
    LineCut.take_eq_nil_or h hk, hb, ?_, ?_⟩, ?_, ?_⟩
  · rw [LineCut.text_eq h hpiece, List.append_assoc]
  · rwa [h.lineStart? hk] at hle
  · by_cases hmore : f.lineIndex offset + 1 < pieces.length
    · have hnext := hlt _ (h.lineStart? hmore)
      rw [LineCut.flatten_take_succ hpiece, if_pos hmore] at hnext
      simp only [Text.byteLength_append, Text.byteLength_cons, Text.byteLength_nil,
        utf8Size_lineFeed] at hnext
      omega
    · have hall : pieces.take (f.lineIndex offset + 1) = pieces :=
        List.take_of_length_le (by omega)
      have hsize : f.size = Text.byteLength (pieces.take (f.lineIndex offset + 1)).flatten := by
        rw [hall, LineCut.flatten_eq h, Text.byteLength_toList, size]
      rw [LineCut.flatten_take_succ hpiece, if_neg hmore, List.append_nil,
        Text.byteLength_append] at hsize
      rwa [← hsize]
  · by_cases hmore : f.lineIndex offset + 1 < pieces.length
    · rw [if_pos hmore]
      exact .inr rfl
    · rw [if_neg hmore, List.drop_of_length_le (by omega)]
      exact .inl rfl
  · rw [lineAt?_succ, h.linePiece?, List.getElem?_map, hpiece, Option.map_some, Option.map_some,
      String.toList_ofList, Text.dropEndWhile_eq_rdropWhile]
    by_cases hmore : f.lineIndex offset + 1 < pieces.length
    · rw [if_pos hmore, List.rdropWhile_concat_pos _ _ _ (by decide)]
    · rw [if_neg hmore, List.append_nil]

theorem exists_inLine (f : SourceFile) {offset : Nat} (ho : offset ≤ f.size) :
    ∃ before body after, f.InLine offset before body after := by
  obtain ⟨before, body, after, h, -⟩ := f.exists_inLine_lineAt? ho
  exact ⟨before, body, after, h⟩

/-! ### The table splits the text -/

/-- `f.SplitsInto pieces`: the line table splits the text of the file into `pieces` without loss. -/
structure SplitsInto (f : SourceFile) (pieces : List String) : Prop where
  /-- There is one line more than there are line feeds. -/
  lineCount_eq : f.lineCount = f.content.toList.count '\n' + 1
  /-- The first line starts at the start of the text. -/
  lineStart?_zero : f.lineStart? 0 = some 0
  /-- A line starts behind the start of any line before it. -/
  increasing : ∀ j k a b, j < k → f.lineStart? j = some a → f.lineStart? k = some b → a < b
  /-- A line starts at a boundary within the text. -/
  boundary : ∀ k a, f.lineStart? k = some a →
    Text.isBoundary f.content a = true ∧ a ≤ Text.size f.content
  /-- There is a piece for each line. -/
  length_eq : pieces.length = f.lineCount
  /-- It goes from the start of the line to the start of the next one, or to the end of the text. -/
  linePiece?_eq : ∀ k, f.linePiece? k = pieces[k]?
  /-- The pieces one behind the other are the text. -/
  join_eq : String.join pieces = f.content
  /-- Lines are counted from 1 to the number of lines. -/
  lineAt?_eq_none : ∀ n, f.lineAt? n = none ↔ n = 0 ∨ f.lineCount < n
  /-- The text of a line is its piece without the longest run of line feeds and carriage returns at
  the end. It has no line feed. -/
  lineAt? : ∀ k piece, pieces[k]? = some piece →
    ∃ line, f.lineAt? (k + 1) = some line ∧
      Text.Trimmed (fun c => c = '\n' ∨ c = '\r') piece line ∧ '\n' ∉ line.toList

theorem lineStart?_lt (f : SourceFile) {j k a b : Nat} (hjk : j < k)
    (ha : f.lineStart? j = some a) (hb : f.lineStart? k = some b) : a < b := by
  rw [lineStart?, ← Array.getElem?_toList] at ha hb
  obtain ⟨hj, rfl⟩ := List.getElem?_eq_some_iff.1 ha
  obtain ⟨hk, rfl⟩ := List.getElem?_eq_some_iff.1 hb
  exact List.pairwise_iff_getElem.1 f.lines_lineStarts.pairwise_lt j k hj hk hjk

theorem isBoundary_of_lineStart? (f : SourceFile) {k start : Nat}
    (h : f.lineStart? k = some start) :
    Text.isBoundary f.content start = true ∧ start ≤ Text.size f.content := by
  obtain ⟨pieces, hcut⟩ := f.exists_cutsInto
  have hk : k < pieces.length := by
    rw [hcut.length_eq]
    exact (Array.getElem?_eq_some_iff.1 h).1
  obtain rfl : _ = start := Option.some.inj ((hcut.lineStart? hk).symm.trans h)
  have htext : f.content.toList = (pieces.take k).flatten ++ (pieces.drop k).flatten := by
    rw [← List.flatten_append, List.take_append_drop, LineCut.flatten_eq hcut]
  refine ⟨Text.isBoundary_of_toList htext, ?_⟩
  rw [← Text.byteLength_toList, htext, Text.byteLength_append]
  exact Nat.le_add_right _ _

/-- The lines have texts up to the last one. -/
theorem lineAt?_eq_none_iff (f : SourceFile) (n : Nat) :
    f.lineAt? n = none ↔ n = 0 ∨ f.lineCount < n := by
  cases n with
  | zero => simp [SourceFile.lineAt?]
  | succ k =>
    obtain ⟨pieces, h⟩ := f.exists_cutsInto
    rw [lineAt?_succ, Option.map_eq_none_iff, h.linePiece?, List.getElem?_eq_none_iff,
      List.length_map, h.length_eq]
    omega

/-- **The line table splits the text without loss**: the lines start at increasing boundaries, from
the start of the text on, and each goes up to the next one, so that they make up the text. The text
of a line is what stands before the line feeds and carriage returns at its end. -/
theorem exists_splitsInto (name content : String) :
    ∃ pieces, (ofContent name content).SplitsInto pieces := by
  obtain ⟨pieces, h⟩ := (ofContent name content).exists_cutsInto
  generalize ofContent name content = f at h ⊢
  refine ⟨pieces.map String.ofList, ?_⟩
  exact {
    lineCount_eq := by
      rw [LineCut.count_eq h (by rw [h.length_eq]; exact f.lineCount_pos), h.length_eq]
    lineStart?_zero := f.lineStart?_zero
    increasing := fun j k a b => f.lineStart?_lt
    boundary := fun k a => f.isBoundary_of_lineStart?
    length_eq := by rw [List.length_map, h.length_eq]
    linePiece?_eq := h.linePiece?
    join_eq := by
      rw [← String.toList_inj, String.toList_join, List.flatMap_map, ← LineCut.flatten_eq h]
      simp [List.flatMap_def]
    lineAt?_eq_none := f.lineAt?_eq_none_iff
    lineAt? := by
      intro k piece hpiece
      rw [List.getElem?_map, Option.map_eq_some_iff] at hpiece
      obtain ⟨cs, hcs, rfl⟩ := hpiece
      obtain ⟨line, hline, htrimmed, hfeed⟩ := h.exists_lineAt? hcs
      refine ⟨line, hline, ?_, hfeed⟩
      simpa [isLineEnd] using htrimmed }

/-- For instance, carriage returns before the line feed do not show, and a line feed at the end of
the text starts an empty line. -/
example : (ofContent "rule" "a &&\r\r\nb\n").lineStarts = #[0, 7, 9] ∧
    (List.range 5).map (ofContent "rule" "a &&\r\r\nb\n").lineAt? =
      [none, some "a &&", some "b", some "", none] := by
  decide +kernel

end SourceFile

end ExprScan
