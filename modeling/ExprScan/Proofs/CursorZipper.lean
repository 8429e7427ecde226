import ExprScan.Cursor
import Mathlib.Data.List.TakeWhile

/-!
# A cursor is a zipper

A cursor keeps a byte offset, and its operations count characters. What they do is said more simply
about a text that is cut in two: moving takes characters from the one part to the other, and
reading looks at the two parts where they meet. This module says it so, and shows that any sequence
of operations on a cursor goes as on the two parts.

## The model

A `Zipper` is the two parts. `Zipper.Step` is what an operation may answer and what it may make of a
zipper: a rule for each operation, and one for each way in which an operation can fault. There are
such ways only for operations that take offsets from the caller. An operation that faults leaves
the cursor, and the zipper, as it is.

Main statement: `Cursor.performAll_simulates`.
-/

namespace ExprScan

namespace Cursor

/-! ### Operations -/

/-- What can be asked of a cursor. -/
inductive Operation where
  /-- The text. -/
  | source
  /-- The number of bytes of the text. -/
  | size
  /-- Whether the text has no character. -/
  | isEmpty
  /-- The byte offset at which the cursor stands. -/
  | position
  /-- Whether the cursor stands at the end. -/
  | atEnd
  /-- The text from the cursor to the end. -/
  | remaining
  /-- The character at the cursor. -/
  | current
  /-- The character that is `n` characters ahead. -/
  | peek (n : Nat)
  /-- The character that lies `n` characters before the one just passed. -/
  | lookBehind (n : Nat)
  /-- The text between two offsets. -/
  | substring (start stop : Nat)
  /-- The text from an offset to the cursor. -/
  | sliceFrom (start : Nat)
  /-- To an offset, or to the end. -/
  | seek (n : Nat)
  /-- Back by `n` characters, or to the start. -/
  | rewind (n : Nat)
  /-- On by one character. -/
  | advance
  /-- On by `n` characters, or to the end. -/
  | advanceBy (n : Nat)
  /-- The character at the cursor, and on past it. -/
  | next
  /-- On past a character, if it is next. -/
  | take (expected : Char)
  /-- On past several characters, if they are next in this order. -/
  | takeAll (expected : List Char)
  /-- On past the characters of a class. -/
  | advanceWhile (p : Char → Bool)

/-- What a cursor answers. -/
inductive Answer where
  /-- Nothing. -/
  | done
  /-- A character. -/
  | char (c : Char)
  /-- A text. -/
  | text (s : String)
  /-- A number. -/
  | number (n : Nat)
  /-- Yes or no. -/
  | flag (b : Bool)
  deriving DecidableEq, Repr

/-- Does what is asked. After a fault, and after a match that fails, the cursor stands where it
stood. -/
def perform (c : Cursor) : Operation → Except Fault Answer × Cursor
  | .source => (.ok (.text c.source), c)
  | .size => (.ok (.number c.size), c)
  | .isEmpty => (.ok (.flag c.isEmpty), c)
  | .position => (.ok (.number c.position), c)
  | .atEnd => (.ok (.flag c.atEnd), c)
  | .remaining => (.ok (.text c.remaining), c)
  | .current => (.ok (.char c.current), c)
  | .peek n => (.ok (.char (c.peek n)), c)
  | .lookBehind n => (.ok (.char (c.lookBehind n)), c)
  | .substring start stop => ((c.substring start stop).map .text, c)
  | .sliceFrom start => ((c.sliceFrom start).map .text, c)
  | .seek n =>
    match c.seek n with
    | .ok c' => (.ok .done, c')
    | .error fault => (.error fault, c)
  | .rewind n => (.ok .done, c.rewind n)
  | .advance => (.ok .done, c.advance)
  | .advanceBy n => (.ok .done, c.advanceBy n)
  | .next => (.ok (.char c.next.1), c.next.2)
  | .take expected => (.ok (.flag (c.take? expected).isSome), (c.take? expected).getD c)
  | .takeAll expected => (.ok (.flag (c.takeAll? expected).isSome), (c.takeAll? expected).getD c)
  | .advanceWhile p => (.ok (.number (c.advanceWhile p).1), (c.advanceWhile p).2)

/-- Does what is asked, one thing after the other. -/
def performAll (c : Cursor) : List Operation → List (Except Fault Answer) × Cursor
  | [] => ([], c)
  | op :: ops =>
    let more := (c.perform op).2.performAll ops
    ((c.perform op).1 :: more.1, more.2)

end Cursor

/-! ### Zippers -/

/-- A text that is cut in two. -/
structure Zipper where
  /-- The characters before the cut. -/
  before : List Char
  /-- The characters after the cut. -/
  after : List Char
  deriving DecidableEq, Repr

namespace Zipper

/-- The characters of the whole text. -/
def chars (z : Zipper) : List Char := z.before ++ z.after

/-- `z.Passes passed z'`: from `z` the characters `passed` are passed, and that leads to `z'`. -/
structure Passes (z : Zipper) (passed : List Char) (z' : Zipper) : Prop where
  /-- What is passed comes next. -/
  after : z.after = passed ++ z'.after
  /-- What is passed is behind the cut then. -/
  before : z'.before = z.before ++ passed

theorem Passes.trans {z z₁ z' : Zipper} {as bs : List Char} (h : z.Passes as z₁)
    (h' : z₁.Passes bs z') : z.Passes (as ++ bs) z' := by
  refine ⟨?_, ?_⟩
  · rw [h.after, h'.after, List.append_assoc]
  · rw [h'.before, h.before, List.append_assoc]

theorem Passes.chars_eq {z z' : Zipper} {passed : List Char} (h : z.Passes passed z') :
    z'.chars = z.chars := by
  rw [chars, chars, h.before, h.after, List.append_assoc]

/-- The text can be cut at byte `n`. -/
def CanCut (z : Zipper) (n : Nat) : Prop :=
  ∃ front back, z.chars = front ++ back ∧ Text.byteLength front = n

/-- `z.Step op answer z'`: asked for `op`, the zipper `z` gives the answer and becomes `z'`. -/
inductive Step (z : Zipper) : Cursor.Operation → Except Fault Cursor.Answer → Zipper → Prop where
  /-- The text is both parts. -/
  | source : Step z .source (.ok (.text (String.ofList z.chars))) z
  /-- The size is that of both parts. -/
  | size : Step z .size (.ok (.number (Text.byteLength z.chars))) z
  /-- The text is empty if both parts are. -/
  | isEmpty : Step z .isEmpty (.ok (.flag z.chars.isEmpty)) z
  /-- The position is the size of the first part. -/
  | position : Step z .position (.ok (.number (Text.byteLength z.before))) z
  /-- At the end, the second part is empty. -/
  | atEnd : Step z .atEnd (.ok (.flag z.after.isEmpty)) z
  /-- The second part is what remains. -/
  | remaining : Step z .remaining (.ok (.text (String.ofList z.after))) z
  /-- The current character is the first one ahead. -/
  | current : Step z .current (.ok (.char (z.after.getD 0 Cursor.nothing))) z
  /-- Characters ahead are read from the second part. -/
  | peek (n : Nat) : Step z (.peek n) (.ok (.char (z.after.getD n Cursor.nothing))) z
  /-- Characters behind are read from the first part, the last one first. -/
  | lookBehind (n : Nat) :
      Step z (.lookBehind n) (.ok (.char (z.before.reverse.getD n Cursor.nothing))) z
  /-- A piece between two offsets is cut out of the text. -/
  | substring {front piece back : List Char} (h : z.chars = front ++ (piece ++ back)) :
      Step z (.substring (Text.byteLength front) (Text.byteLength front + Text.byteLength piece))
        (.ok (.text (String.ofList piece))) z
  /-- The offsets of a piece must be in order. -/
  | substringReversed {start stop : Nat} (h : stop < start) :
      Step z (.substring start stop) (.error .reversed) z
  /-- A piece must end within the text. -/
  | substringPastEnd {start stop : Nat} (h : start ≤ stop) (hs : Text.byteLength z.chars < stop) :
      Step z (.substring start stop) (.error .pastEnd) z
  /-- A piece must start and end where the text can be cut. -/
  | substringInside {start stop : Nat} (h : start ≤ stop) (hs : stop ≤ Text.byteLength z.chars)
      (hc : ¬ (z.CanCut start ∧ z.CanCut stop)) :
      Step z (.substring start stop) (.error .insideCharacter) z
  /-- A piece up to the cut is one between two offsets. -/
  | sliceFrom {start : Nat} {answer : Except Fault Cursor.Answer}
      (h : Step z (.substring start (Text.byteLength z.before)) answer z) :
      Step z (.sliceFrom start) answer z
  /-- The text is cut anew at an offset, or at the end if that is less. -/
  | seek {n : Nat} {z' : Zipper} (h : z'.chars = z.chars)
      (hn : Text.byteLength z'.before = min n (Text.byteLength z.chars)) :
      Step z (.seek n) (.ok .done) z'
  /-- An offset within the text must be one where the text can be cut. -/
  | seekInside {n : Nat} (h : n < Text.byteLength z.chars) (hc : ¬ z.CanCut n) :
      Step z (.seek n) (.error .insideCharacter) z
  /-- Rewinding goes back by so many characters, or by all there are. -/
  | rewind {n : Nat} {passed : List Char} {z' : Zipper} (h : z'.Passes passed z)
      (hn : passed.length = min n z.before.length) : Step z (.rewind n) (.ok .done) z'
  /-- Advancing passes one character, if there is one. -/
  | advance {passed : List Char} {z' : Zipper} (h : z.Passes passed z')
      (hn : passed.length = min 1 z.after.length) : Step z .advance (.ok .done) z'
  /-- Advancing passes so many characters, or all there are. -/
  | advanceBy {n : Nat} {passed : List Char} {z' : Zipper} (h : z.Passes passed z')
      (hn : passed.length = min n z.after.length) : Step z (.advanceBy n) (.ok .done) z'
  /-- The next character is read and passed, if there is one. -/
  | next {passed : List Char} {z' : Zipper} (h : z.Passes passed z')
      (hn : passed.length = min 1 z.after.length) :
      Step z .next (.ok (.char (z.after.getD 0 Cursor.nothing))) z'
  /-- An expected character is passed. -/
  | take {c : Char} {z' : Zipper} (h : z.Passes [c] z') : Step z (.take c) (.ok (.flag true)) z'
  /-- Any other character is not. -/
  | takeNot {c : Char} (h : ¬ [c] <+: z.after) : Step z (.take c) (.ok (.flag false)) z
  /-- Expected characters are passed all together. -/
  | takeAll {cs : List Char} {z' : Zipper} (h : z.Passes cs z') :
      Step z (.takeAll cs) (.ok (.flag true)) z'
  /-- If they are not all next, none is passed. -/
  | takeAllNot {cs : List Char} (h : ¬ cs <+: z.after) :
      Step z (.takeAll cs) (.ok (.flag false)) z
  /-- The most characters of a class that come next are passed and counted. -/
  | advanceWhile {p : Char → Bool} {passed : List Char} {z' : Zipper} (h : z.Passes passed z')
      (hp : ∀ c ∈ passed, p c = true)
      (hmost : ∀ more, more <+: z.after → (∀ c ∈ more, p c = true) → more.length ≤ passed.length) :
      Step z (.advanceWhile p) (.ok (.number passed.length)) z'

/-- `z.Runs ops answers z'`: asked for one thing after the other, the zipper `z` gives the answers
and becomes `z'`. -/
inductive Runs : Zipper → List Cursor.Operation → List (Except Fault Cursor.Answer) → Zipper → Prop
  where
  /-- Nothing is asked. -/
  | nil {z : Zipper} : Runs z [] [] z
  /-- One thing is asked, and then the others. -/
  | cons {z z₁ z' : Zipper} {op : Cursor.Operation} {ops : List Cursor.Operation}
      {answer : Except Fault Cursor.Answer} {answers : List (Except Fault Cursor.Answer)}
      (step : z.Step op answer z₁) (more : Runs z₁ ops answers z') :
      Runs z (op :: ops) (answer :: answers) z'

/-- A step moves the cut and leaves the text. -/
theorem Step.chars_eq {z z' : Zipper} {op : Cursor.Operation} {answer : Except Fault Cursor.Answer}
    (h : z.Step op answer z') : z'.chars = z.chars := by
  cases h with
  | seek h _ => exact h
  | rewind h _ => exact h.chars_eq.symm
  | advance h _ => exact h.chars_eq
  | advanceBy h _ => exact h.chars_eq
  | next h _ => exact h.chars_eq
  | take h => exact h.chars_eq
  | takeAll h => exact h.chars_eq
  | advanceWhile h _ _ => exact h.chars_eq
  | _ => rfl

theorem Runs.chars_eq {z z' : Zipper} {ops : List Cursor.Operation}
    {answers : List (Except Fault Cursor.Answer)} (h : z.Runs ops answers z') :
    z'.chars = z.chars := by
  induction h with
  | nil => rfl
  | cons step _ ih => rw [ih, step.chars_eq]

end Zipper

namespace Cursor

/-! ### Cursors and zippers -/

/-- The cursor stands where the zipper is cut. -/
structure Shows (c : Cursor) (z : Zipper) : Prop where
  /-- They have the same text. -/
  source : c.source.toList = z.chars
  /-- The position is the size of the first part. -/
  position : Text.byteLength z.before = c.position

variable {c : Cursor} {z : Zipper}

theorem shows_ofString (source : String) : (ofString source).Shows ⟨[], source.toList⟩ :=
  ⟨rfl, rfl⟩

namespace Shows

theorem before_eq (h : c.Shows z) : c.before = z.before := (before_after_eq h.source h.position).1

theorem after_eq (h : c.Shows z) : c.after = z.after := (before_after_eq h.source h.position).2

theorem onBoundary (h : c.Shows z) : c.OnBoundary := .of_eq h.source h.position

theorem size_eq (h : c.Shows z) : c.size = Text.byteLength z.chars := by
  rw [Cursor.size, ← Text.byteLength_toList, h.source]

theorem position_le_size (h : c.Shows z) : c.position ≤ c.size := by
  rw [h.size_eq, Zipper.chars, Text.byteLength_append, h.position]
  exact Nat.le_add_right _ _

theorem atEnd_iff (h : c.Shows z) : c.atEnd = true ↔ z.after = [] := by
  rw [Cursor.atEnd, decide_eq_true_eq, h.size_eq, Zipper.chars, Text.byteLength_append, h.position,
    ← Text.byteLength_eq_zero_iff]
  omega

theorem isBoundary_iff (h : c.Shows z) {n : Nat} :
    Text.isBoundary c.source n = true ↔ z.CanCut n := by
  constructor
  · intro hb
    obtain ⟨front, back, hs, hn⟩ := Text.exists_toList_eq_of_isBoundary hb
    exact ⟨front, back, h.source.symm.trans hs, hn⟩
  · rintro ⟨front, back, hs, rfl⟩
    exact Text.isBoundary_of_toList (h.source.trans hs)

/-! ### Moving -/

theorem skip (h : c.Shows z) {passed : List Char} {z' : Zipper} (hp : z.Passes passed z') :
    (c.skip passed).Shows z' := by
  refine ⟨?_, ?_⟩
  · show c.source.toList = z'.chars
    rw [h.source, Zipper.chars, Zipper.chars, hp.after, hp.before, List.append_assoc]
  · rw [hp.before, Text.byteLength_append, h.position]
    rfl

/-- Going back over characters moves the cursor before them. -/
theorem rewind (h : c.Shows z) (n : Nat) :
    ∃ passed z', z'.Passes passed z ∧ passed.length = min n z.before.length ∧
      (c.rewind n).Shows z' := by
  have hcut := List.take_append_drop (z.before.length - n) z.before
  refine ⟨z.before.drop (z.before.length - n),
    ⟨z.before.take (z.before.length - n), z.before.drop (z.before.length - n) ++ z.after⟩,
    ⟨rfl, hcut.symm⟩, ?_, ?_, ?_⟩
  · rw [List.length_drop]
    omega
  · show c.source.toList = _ ++ (_ ++ z.after)
    rw [← List.append_assoc, hcut, h.source, Zipper.chars]
  · show Text.byteLength (z.before.take (z.before.length - n)) =
      c.position - Text.byteLength (c.before.reverse.take n)
    have hlen := congrArg Text.byteLength hcut
    rw [Text.byteLength_append] at hlen
    rw [h.before_eq, List.take_reverse, Text.byteLength_reverse, ← h.position]
    omega

/-- Advancing passes the characters that come next, as many as asked for. -/
theorem advanceBy (h : c.Shows z) (n : Nat) :
    ∃ passed z', z.Passes passed z' ∧ passed.length = min n z.after.length ∧
      (c.advanceBy n).Shows z' := by
  have hp : z.Passes (z.after.take n) ⟨z.before ++ z.after.take n, z.after.drop n⟩ :=
    ⟨(List.take_append_drop n z.after).symm, rfl⟩
  refine ⟨_, _, hp, List.length_take, ?_⟩
  rw [Cursor.advanceBy, h.after_eq]
  exact h.skip hp

/-- Expected characters are passed if they come next, and otherwise there is no match. -/
theorem takeAll? (h : c.Shows z) (cs : List Char) :
    (∃ z', z.Passes cs z' ∧ c.takeAll? cs = some (c.skip cs)) ∨
      ¬ cs <+: z.after ∧ c.takeAll? cs = none := by
  induction cs generalizing c z with
  | nil => exact .inl ⟨z, ⟨rfl, (List.append_nil _).symm⟩, rfl⟩
  | cons x xs ih =>
    cases ha : z.after with
    | nil =>
      refine .inr ⟨by simp, ?_⟩
      rw [Cursor.takeAll?, take?, h.after_eq, ha]
      rfl
    | cons y ys =>
      by_cases hxy : y = x
      · subst hxy
        have hp : z.Passes [y] ⟨z.before ++ [y], ys⟩ := ⟨ha, rfl⟩
        have htake : c.takeAll? (y :: xs) = (c.skip [y]).takeAll? xs := by
          rw [Cursor.takeAll?, take?, h.after_eq, ha]
          simp
        have hskip : (c.skip [y]).skip xs = c.skip (y :: xs) := by
          simp [Cursor.skip, Nat.add_assoc]
        rw [htake, ← hskip]
        rcases ih (h.skip hp) with ⟨z', hp', hxs⟩ | ⟨hnot, hxs⟩
        · exact .inl ⟨z', hp.trans hp', hxs⟩
        · exact .inr ⟨fun hpre => hnot (List.cons_prefix_cons.1 hpre).2, hxs⟩
      · refine .inr ⟨fun hpre => hxy (List.cons_prefix_cons.1 hpre).1.symm, ?_⟩
        rw [Cursor.takeAll?, take?, h.after_eq, ha]
        simp [hxy]

/-- Seeking cuts the text at the offset, or at its end. -/
theorem seek (h : c.Shows z) (n : Nat) :
    (∃ c' z', c.seek n = .ok c' ∧ c'.Shows z' ∧ z'.chars = z.chars ∧
        Text.byteLength z'.before = min n (Text.byteLength z.chars)) ∨
      c.seek n = .error .insideCharacter ∧ n < Text.byteLength z.chars ∧ ¬ z.CanCut n := by
  rw [Cursor.seek, h.size_eq]
  by_cases hb : Text.isBoundary c.source (min n (Text.byteLength z.chars)) = true
  · obtain ⟨front, back, hs, hn⟩ := h.isBoundary_iff.1 hb
    rw [if_pos hb]
    exact .inl ⟨_, ⟨front, back⟩, rfl, ⟨h.source.trans hs, hn⟩, hs.symm, hn⟩
  · rw [if_neg hb]
    rw [h.isBoundary_iff] at hb
    -- the end of the text is a boundary, so the offset lies before it
    have hend : z.CanCut (Text.byteLength z.chars) := ⟨z.chars, [], by simp, rfl⟩
    have hlt : n < Text.byteLength z.chars := by
      by_contra hle
      rw [Nat.min_eq_right (by omega)] at hb
      exact hb hend
    rw [Nat.min_eq_left (Nat.le_of_lt hlt)] at hb
    exact .inr ⟨rfl, hlt, hb⟩

/-- Taking out a piece goes by the offsets alone. -/
theorem substring (h : c.Shows z) (start stop : Nat) :
    z.Step (.substring start stop) ((c.substring start stop).map .text) z := by
  rw [Cursor.substring, h.size_eq]
  by_cases hordered : stop < start
  · rw [if_pos hordered]
    exact .substringReversed hordered
  rw [if_neg hordered]
  by_cases hinside : Text.byteLength z.chars < stop
  · rw [if_pos hinside]
    exact .substringPastEnd (by omega) hinside
  rw [if_neg hinside]
  cases hslice : Text.slice? c.source start stop with
  | some piece =>
    obtain ⟨front, back, hs, rfl, rfl⟩ := Text.slice?_eq_some_iff.1 hslice
    have hchars : z.chars = front.toList ++ (piece.toList ++ back.toList) := by
      rw [← h.source, hs, String.toList_append, String.toList_append]
    have hstep := Zipper.Step.substring hchars
    rw [Text.byteLength_toList, Text.byteLength_toList, String.ofList_toList] at hstep
    exact hstep
  | none =>
    rw [Text.slice?_eq_none_iff, h.isBoundary_iff, h.isBoundary_iff] at hslice
    refine .substringInside (by omega) (by omega) fun hcuts => hslice ⟨by omega, hcuts⟩

end Shows

/-! ### Operations and steps -/

theorem advance_eq_advanceBy (c : Cursor) : c.advance = c.advanceBy 1 := by
  rw [advance, advanceBy]
  cases c.after <;> rfl

theorem next_eq (c : Cursor) : c.next = (c.peek 0, c.advanceBy 1) := by
  rw [next, peek, advanceBy]
  cases c.after <;> rfl

theorem take?_eq_takeAll? (c : Cursor) (x : Char) : c.take? x = c.takeAll? [x] := by
  rw [takeAll?]
  cases c.take? x <;> rfl

/-- An operation on a cursor is a step of the zipper, and the cursor stands where the zipper is cut
then. -/
theorem Shows.perform (h : c.Shows z) (op : Operation) :
    ∃ z', z.Step op (c.perform op).1 z' ∧ (c.perform op).2.Shows z' := by
  have hsource : c.source = String.ofList z.chars := by rw [← h.source, String.ofList_toList]
  have hremaining : c.remaining = String.ofList z.after := by
    rw [← h.after_eq, after, String.ofList_toList]
  have hpeek : ∀ n, c.peek n = z.after.getD n nothing := by
    intro n
    rw [peek, h.after_eq]
  cases op with
  | source => exact ⟨z, by rw [Cursor.perform, hsource]; exact .source, h⟩
  | size => exact ⟨z, by rw [Cursor.perform, h.size_eq]; exact .size, h⟩
  | isEmpty =>
    have hempty : c.isEmpty = z.chars.isEmpty := by
      rw [Bool.eq_iff_iff, isEmpty, String.isEmpty_iff, List.isEmpty_iff, ← h.source]
      simp
    exact ⟨z, by rw [Cursor.perform, hempty]; exact .isEmpty, h⟩
  | position => exact ⟨z, by rw [Cursor.perform, ← h.position]; exact .position, h⟩
  | atEnd =>
    have hend : c.atEnd = z.after.isEmpty := by
      rw [Bool.eq_iff_iff, h.atEnd_iff, List.isEmpty_iff]
    exact ⟨z, by rw [Cursor.perform, hend]; exact .atEnd, h⟩
  | remaining => exact ⟨z, by rw [Cursor.perform, hremaining]; exact .remaining, h⟩
  | current => exact ⟨z, by rw [Cursor.perform, current, hpeek]; exact .current, h⟩
  | peek n => exact ⟨z, by rw [Cursor.perform, hpeek]; exact .peek n, h⟩
  | lookBehind n =>
    exact ⟨z, by rw [Cursor.perform, lookBehind, h.before_eq]; exact .lookBehind n, h⟩
  | substring start stop => exact ⟨z, h.substring start stop, h⟩
  | sliceFrom start =>
    refine ⟨z, .sliceFrom ?_, h⟩
    rw [h.position]
    exact h.substring start c.position
  | seek n =>
    rcases h.seek n with ⟨c', z', hseek, hshows, hchars, hn⟩ | ⟨hseek, hlt, hcut⟩
    · rw [Cursor.perform, hseek]
      exact ⟨z', .seek hchars hn, hshows⟩
    · rw [Cursor.perform, hseek]
      exact ⟨z, .seekInside hlt hcut, h⟩
  | rewind n =>
    obtain ⟨passed, z', hp, hn, hshows⟩ := h.rewind n
    exact ⟨z', .rewind hp hn, hshows⟩
  | advance =>
    obtain ⟨passed, z', hp, hn, hshows⟩ := h.advanceBy 1
    rw [Cursor.perform, advance_eq_advanceBy]
    exact ⟨z', .advance hp hn, hshows⟩
  | advanceBy n =>
    obtain ⟨passed, z', hp, hn, hshows⟩ := h.advanceBy n
    exact ⟨z', .advanceBy hp hn, hshows⟩
  | next =>
    obtain ⟨passed, z', hp, hn, hshows⟩ := h.advanceBy 1
    rw [Cursor.perform, next_eq, hpeek]
    exact ⟨z', .next hp hn, hshows⟩
  | take x =>
    rw [Cursor.perform, take?_eq_takeAll?]
    rcases h.takeAll? [x] with ⟨z', hp, htake⟩ | ⟨hnot, htake⟩
    · rw [htake]
      exact ⟨z', .take hp, h.skip hp⟩
    · rw [htake]
      exact ⟨z, .takeNot hnot, h⟩
  | takeAll xs =>
    rw [Cursor.perform]
    rcases h.takeAll? xs with ⟨z', hp, htake⟩ | ⟨hnot, htake⟩
    · rw [htake]
      exact ⟨z', .takeAll hp, h.skip hp⟩
    · rw [htake]
      exact ⟨z, .takeAllNot hnot, h⟩
  | advanceWhile p =>
    have hp : z.Passes (z.after.takeWhile p)
        ⟨z.before ++ z.after.takeWhile p, z.after.dropWhile p⟩ :=
      ⟨List.takeWhile_append_dropWhile.symm, rfl⟩
    rw [Cursor.perform, advanceWhile, h.after_eq]
    refine ⟨_, .advanceWhile hp (fun _ => List.mem_takeWhile_imp) ?_, h.skip hp⟩
    rintro more ⟨rest, hrest⟩ hmore
    rw [← hrest, List.takeWhile_append_of_pos hmore, List.length_append]
    exact Nat.le_add_right _ _

/-- Operations on a cursor, one after the other, are steps of the zipper. -/
theorem Shows.performAll (h : c.Shows z) (ops : List Operation) :
    ∃ z', z.Runs ops (c.performAll ops).1 z' ∧ (c.performAll ops).2.Shows z' := by
  induction ops generalizing c z with
  | nil => exact ⟨z, .nil, h⟩
  | cons op ops ih =>
    obtain ⟨z₁, hstep, h₁⟩ := h.perform op
    obtain ⟨z', hruns, h'⟩ := ih h₁
    exact ⟨z', .cons hstep hruns, h'⟩

/-- **A cursor is a zipper**: whatever is asked of a cursor, from the start of a text on, goes as
with the two parts of the text. The cursor stands between the two: they make up the text and its
position is the size of the first. So it stands within the text and on a boundary, and at the end
if the second part is empty. -/
theorem performAll_simulates (source : String) (ops : List Operation) :
    ∃ z, Zipper.Runs ⟨[], source.toList⟩ ops ((ofString source).performAll ops).1 z ∧
      source.toList = z.before ++ z.after ∧
      ((ofString source).performAll ops).2 = ⟨source, Text.byteLength z.before⟩ ∧
      ((ofString source).performAll ops).2.position ≤ Text.size source ∧
      ((ofString source).performAll ops).2.OnBoundary ∧
      (((ofString source).performAll ops).2.atEnd = true ↔ z.after = []) := by
  obtain ⟨z, hruns, hshows⟩ := (shows_ofString source).performAll ops
  have hchars : z.chars = source.toList := hruns.chars_eq
  have hcursor : ((ofString source).performAll ops).2 = ⟨source, Text.byteLength z.before⟩ := by
    have hsource : ((ofString source).performAll ops).2.source = source := by
      rw [← String.toList_inj, hshows.source, hchars]
    rw [hshows.position]
    exact congrArg (Cursor.mk · _) hsource
  have hsize : ((ofString source).performAll ops).2.size = Text.size source := by
    rw [hcursor]
    rfl
  exact ⟨z, hruns, hchars.symm, hcursor, hsize ▸ hshows.position_le_size, hshows.onBoundary,
    hshows.atEnd_iff⟩

end Cursor

end ExprScan
