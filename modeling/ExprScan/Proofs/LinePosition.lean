import ExprScan.Proofs.LineTable

/-!
# Lines and columns of offsets

The line of an offset is found by halving in the line table, and its column by the length of a
slice. Both can also be counted from the start of the text: the line from the line feeds before the
offset, the column from what follows the last of them. This module proves that the two agree.

## The model

An offset may lie inside a character, so that what stands before it need not be a text. The count is
therefore a count of bytes. It is right because no character but the line feed has the byte of a
line feed in it (`Text.lineFeed_mem_utf8EncodeChar`).

Main statements: `SourceFile.position_of_toList` for an offset between two characters, and
`SourceFile.position_counted` for any offset.
-/

namespace ExprScan

/-! ### Texts as bytes -/

namespace Text

/-- The bytes of a text in UTF-8. -/
def bytes (s : String) : List UInt8 := s.toByteArray.data.toList

/-- The byte of a line feed. -/
def lineFeed : UInt8 := 10

/-- The bytes of characters in UTF-8. -/
def encode (cs : List Char) : List UInt8 := cs.flatMap String.utf8EncodeChar

theorem bytes_eq_encode (s : String) : bytes s = encode s.toList := by
  have h : s.toByteArray = s.toList.utf8Encode := by
    rw [← String.toByteArray_ofList, String.ofList_toList]
  rw [bytes, h, List.utf8Encode, List.toList_data_toByteArray, encode]

@[simp] theorem encode_append (as bs : List Char) : encode (as ++ bs) = encode as ++ encode bs :=
  List.flatMap_append

@[simp] theorem length_encode (cs : List Char) : (encode cs).length = byteLength cs := by
  induction cs with
  | nil => rfl
  | cons c cs ih =>
    rw [encode, List.flatMap_cons, List.length_append, String.length_utf8EncodeChar, ← encode, ih,
      byteLength_cons]

/-- Only the line feed has the byte of a line feed: the bytes of a character outside ASCII are 128
or more, and a character of ASCII is its own byte. -/
theorem lineFeed_mem_utf8EncodeChar {c : Char} :
    lineFeed ∈ String.utf8EncodeChar c ↔ c = '\n' := by
  have hbyte : ∀ n, lineFeed = UInt8.ofNat n ↔ n % 256 = 10 := by
    intro n
    rw [← UInt8.toNat_inj, UInt8.toNat_ofNat', eq_comm]
    rfl
  have hchar : c = '\n' ↔ c.val.toNat = 10 := by
    rw [← Char.toNat_inj]
    rfl
  rw [hchar, String.utf8EncodeChar]
  split_ifs <;> simp only [List.mem_cons, List.not_mem_nil, or_false, hbyte] <;> omega

theorem count_encode (cs : List Char) : (encode cs).count lineFeed = cs.count '\n' := by
  induction cs with
  | nil => rfl
  | cons c cs ih =>
    rw [encode, List.flatMap_cons, List.count_append, ← encode, ih, List.count_cons]
    by_cases hc : c = '\n'
    · subst hc
      rw [Nat.add_comm]
      rfl
    · rw [List.count_eq_zero.2 (mt lineFeed_mem_utf8EncodeChar.1 hc)]
      simp [hc]

/-- The number of line feeds in the first bytes of a text. -/
def lineFeedsBefore (s : String) (n : Nat) : Nat := ((bytes s).take n).count lineFeed

/-- The offset just after the last line feed in the first bytes of a text, or 0 if there is none:
the number of these bytes without the longest run at their end in which there is no line feed. -/
def lineBegin (s : String) (n : Nat) : Nat :=
  (((bytes s).take n).rdropWhile (· != lineFeed)).length

theorem rdropWhile_append_of_pos {α : Type} {p : α → Bool} {as bs : List α}
    (h : ∀ b ∈ bs, p b = true) : (as ++ bs).rdropWhile p = as.rdropWhile p := by
  have hall : ∀ b ∈ bs.reverse, p b = true := fun b hb => h b (List.mem_reverse.1 hb)
  rw [List.rdropWhile, List.rdropWhile, List.reverse_append, List.dropWhile_append_of_pos hall]

theorem rdropWhile_append_cons_of_neg {α : Type} {p : α → Bool} {b : α} (hb : p b = false)
    (as bs : List α) : (as ++ b :: bs).rdropWhile p = as ++ b :: bs.rdropWhile p := by
  have hdrop : (bs.reverse ++ b :: as.reverse).dropWhile p =
      bs.reverse.dropWhile p ++ b :: as.reverse := by
    rw [List.dropWhile_append]
    split
    · rename_i hnil
      rw [List.isEmpty_iff.1 hnil, List.dropWhile_cons_of_neg (by simp [hb]), List.nil_append]
    · rfl
  simp [List.rdropWhile, hdrop]

theorem rtakeWhile_append_of_pos {α : Type} {p : α → Bool} {as bs : List α}
    (h : ∀ b ∈ bs, p b = true) : (as ++ bs).rtakeWhile p = as.rtakeWhile p ++ bs := by
  have hall : ∀ b ∈ bs.reverse, p b = true := fun b hb => h b (List.mem_reverse.1 hb)
  rw [List.rtakeWhile, List.rtakeWhile, List.reverse_append, List.takeWhile_append_of_pos hall,
    List.reverse_append, List.reverse_reverse]

end Text

namespace SourceFile

variable {f : SourceFile} {offset : Nat} {before body after : List Char}

/-! ### The line of an offset, counted -/

namespace InLine

/-- Up to the offset there are the bytes before its line and some bytes of the line. -/
theorem take_bytes (h : f.InLine offset before body after) :
    (Text.bytes f.content).take offset =
      Text.encode before ++ (Text.encode body).take (offset - Text.byteLength before) := by
  have hlen : offset - Text.byteLength before ≤ (Text.encode body).length := by
    rw [Text.length_encode]
    exact Nat.sub_le_iff_le_add'.2 h.le_stop
  rw [Text.bytes_eq_encode, h.content_eq, Text.encode_append, Text.encode_append, List.take_append,
    List.take_of_length_le (by rw [Text.length_encode]; exact h.start_le), Text.length_encode,
    List.take_append_of_le_length hlen]

theorem lineFeed_notMem_take (h : f.InLine offset before body after) (n : Nat) :
    Text.lineFeed ∉ (Text.encode body).take n := by
  intro hmem
  have hcount := Text.count_encode body
  rw [List.count_eq_zero.2 h.lineFeed_notMem, List.count_eq_zero] at hcount
  exact hcount (List.mem_of_mem_take hmem)

/-- The number of the line is that of the line feeds before the offset. -/
theorem lineFeedsBefore_eq (h : f.InLine offset before body after) :
    Text.lineFeedsBefore f.content offset = f.lineIndex offset := by
  rw [Text.lineFeedsBefore, h.take_bytes, List.count_append, Text.count_encode, h.count,
    List.count_eq_zero.2 (h.lineFeed_notMem_take _), Nat.add_zero]

/-- The line starts just after the last line feed before the offset. -/
theorem lineBegin_eq (h : f.InLine offset before body after) :
    Text.lineBegin f.content offset = Text.byteLength before := by
  have hbody : ∀ b ∈ (Text.encode body).take (offset - Text.byteLength before),
      (b != Text.lineFeed) = true := fun b hb =>
    bne_iff_ne.2 fun heq => h.lineFeed_notMem_take _ (heq ▸ hb)
  have hbefore : (Text.encode before).rdropWhile (· != Text.lineFeed) = Text.encode before := by
    rcases h.begins with rfl | ⟨front, rfl⟩
    · rfl
    · rw [Text.encode_append]
      exact List.rdropWhile_concat_neg _ _ _ (by decide)
  rw [Text.lineBegin, h.take_bytes, Text.rdropWhile_append_of_pos hbody, hbefore,
    Text.length_encode]

end InLine

theorem InLine.position_eq (h : f.InLine offset before body after) (ho : offset ≤ f.size) :
    f.position offset =
      ⟨f.lineIndex offset + 1, f.columnsBetween (Text.byteLength before) offset + 1⟩ := by
  rw [position, Nat.min_eq_left ho, getD_lineStarts, h.start, Option.getD_some]

theorem position_min (f : SourceFile) (offset : Nat) :
    f.position (min offset f.size) = f.position offset := by
  rw [position, position, Nat.min_assoc, Nat.min_self]

/-- `Counted content offset p`: the position `p` of an offset, counted from the start of the
text. -/
structure Counted (content : String) (offset : Nat) (p : Position) : Prop where
  /-- The line is one more than the line feeds before the offset. -/
  line : p.line = Text.lineFeedsBefore content offset + 1
  /-- Between two characters, the column is one more than the characters from the last of these line
  feeds to the offset. -/
  column : Text.isBoundary content offset = true →
    ∃ piece, Text.slice? content (Text.lineBegin content offset) offset = some piece ∧
      p.column = piece.length + 1
  /-- Inside a character, it is one more than the bytes. -/
  inside : Text.isBoundary content offset = false →
    p.column = offset - Text.lineBegin content offset + 1

theorem columnsBetween_of_slice? {start stop : Nat} {piece : String}
    (h : Text.slice? f.content start stop = some piece) :
    f.columnsBetween start stop = piece.length := by
  rw [columnsBetween, h]

theorem columnsBetween_of_inside (start : Nat) {stop : Nat}
    (h : Text.isBoundary f.content stop = false) : f.columnsBetween start stop = stop - start := by
  have hslice : Text.slice? f.content start stop = none :=
    Text.slice?_eq_none_iff.2 fun hs => by simp [h] at hs
  rw [columnsBetween, hslice]

theorem counted_position (f : SourceFile) {offset : Nat} (ho : offset ≤ f.size) :
    Counted f.content offset (f.position offset) := by
  obtain ⟨before, body, after, h⟩ := f.exists_inLine ho
  rw [h.position_eq ho]
  refine ⟨?_, fun hb => ?_, fun hb => ?_⟩
  · rw [h.lineFeedsBefore_eq]
  · rw [h.lineBegin_eq]
    -- the line starts at a boundary, so that there is a slice up to any other
    cases hslice : Text.slice? f.content (Text.byteLength before) offset with
    | none =>
      have hstart := Text.isBoundary_of_toList h.content_eq
      exact absurd ⟨h.start_le, hstart, hb⟩ (Text.slice?_eq_none_iff.1 hslice)
    | some piece =>
      refine ⟨piece, rfl, ?_⟩
      rw [columnsBetween_of_slice? hslice]
  · rw [h.lineBegin_eq, columnsBetween_of_inside _ hb]

/-- **Positions are counted**: the position that halving finds for an offset is the one that is
counted from the start of the text, byte by byte, up to the offset or to the end of the text. -/
theorem position_counted (name content : String) (n : Nat) :
    Counted content (min n (Text.size content)) ((ofContent name content).position n) := by
  rw [← position_min]
  exact (ofContent name content).counted_position (Nat.min_le_right _ _)

/-- For instance, at the start, at a line feed, behind it, inside the last character and past the
end of a text with characters of several bytes. -/
example : [0, 3, 4, 6, 99].map (ofContent "rule" "aé\nbö").position =
    [⟨1, 1⟩, ⟨1, 3⟩, ⟨2, 1⟩, ⟨2, 3⟩, ⟨2, 3⟩] := by
  decide +kernel

/-! ### Offsets between two characters -/

theorem byteLength_le_size {front rest : List Char} (h : f.content.toList = front ++ rest) :
    Text.byteLength front ≤ f.size := by
  rw [size, ← Text.byteLength_toList, h, Text.byteLength_append]
  exact Nat.le_add_right _ _

/-- What stands before an offset between two characters is what stands before its line, and a front
of the line. The characters of the latter are counted by the column. -/
theorem InLine.exists_passed {front rest : List Char}
    (hline : f.InLine (Text.byteLength front) before body after)
    (h : f.content.toList = front ++ rest) :
    ∃ passed left, front = before ++ passed ∧ body = passed ++ left ∧ rest = left ++ after ∧
      f.position (Text.byteLength front) = ⟨before.count '\n' + 1, passed.length + 1⟩ := by
  have ho := byteLength_le_size h
  obtain ⟨passed, rfl, hleft⟩ := Text.exists_eq_append_of_byteLength_le
    (hline.content_eq.symm.trans h) hline.start_le
  have hle := hline.le_stop
  rw [Text.byteLength_append] at hle
  obtain ⟨left, rfl, hrest⟩ :=
    Text.exists_eq_append_of_byteLength_le hleft.symm (Nat.le_of_add_le_add_left hle)
  rw [List.append_assoc] at h
  have hslice := Text.slice?_of_toList h
  rw [← Text.byteLength_append] at hslice
  refine ⟨passed, left, rfl, rfl, hrest, ?_⟩
  rw [hline.position_eq ho, columnsBetween_of_slice? hslice, hline.count, String.length_ofList]

theorem exists_passed {front rest : List Char} (h : f.content.toList = front ++ rest) :
    ∃ before passed, front = before ++ passed ∧ '\n' ∉ passed ∧
      (before = [] ∨ ∃ lines, before = lines ++ ['\n']) ∧
      f.lineStart? (before.count '\n') = some (Text.byteLength before) ∧
      f.position (Text.byteLength front) = ⟨before.count '\n' + 1, passed.length + 1⟩ := by
  obtain ⟨before, body, after, hline⟩ := f.exists_inLine (byteLength_le_size h)
  obtain ⟨passed, left, hfront, rfl, -, hposition⟩ := hline.exists_passed h
  refine ⟨before, passed, hfront, ?_, hline.begins, by rw [hline.count, hline.start], hposition⟩
  exact fun hmem => hline.lineFeed_notMem (List.mem_append_left _ hmem)

/-- The position of an offset between two characters: the line from the line feeds before it, the
column from the characters behind the last of them. -/
theorem position_of_toList {front rest : List Char} (h : f.content.toList = front ++ rest) :
    f.position (Text.byteLength front) =
      ⟨front.count '\n' + 1, (front.rtakeWhile (· != '\n')).length + 1⟩ := by
  obtain ⟨before, passed, rfl, hpassed, hbegins, -, hposition⟩ := exists_passed h
  have hall : ∀ c ∈ passed, (c != '\n') = true := fun c hc =>
    bne_iff_ne.2 fun heq => hpassed (heq ▸ hc)
  have hbefore : before.rtakeWhile (· != '\n') = [] := by
    rcases hbegins with rfl | ⟨lines, rfl⟩
    · rfl
    · exact List.rtakeWhile_concat_neg _ _ _ (by decide)
  rw [hposition, List.count_append, List.count_eq_zero.2 hpassed, Nat.add_zero,
    Text.rtakeWhile_append_of_pos hall, hbefore, List.nil_append]

/-- Further on in the same line, the line is the same and the column counts the characters passed. -/
theorem position_append {front passed rest : List Char}
    (h : f.content.toList = front ++ (passed ++ rest)) (hp : '\n' ∉ passed) :
    f.position (Text.byteLength (front ++ passed)) =
      ⟨(f.position (Text.byteLength front)).line,
        (f.position (Text.byteLength front)).column + passed.length⟩ := by
  have h' : f.content.toList = (front ++ passed) ++ rest := by rw [h, List.append_assoc]
  have hall : ∀ c ∈ passed, (c != '\n') = true := by
    intro c hc
    exact bne_iff_ne.2 fun heq => hp (heq ▸ hc)
  rw [position_of_toList h, position_of_toList h', List.count_append, List.count_eq_zero.2 hp,
    Text.rtakeWhile_append_of_pos hall, List.length_append]
  simp [Nat.add_right_comm]

theorem line_lt_line_append {front passed rest : List Char}
    (h : f.content.toList = front ++ (passed ++ rest)) (hp : '\n' ∈ passed) :
    (f.position (Text.byteLength front)).line <
      (f.position (Text.byteLength (front ++ passed))).line := by
  have h' : f.content.toList = (front ++ passed) ++ rest := by rw [h, List.append_assoc]
  have hpos : 0 < passed.count '\n' := List.count_pos_iff.2 hp
  rw [position_of_toList h, position_of_toList h', List.count_append]
  dsimp only
  omega

end SourceFile

end ExprScan
