import ExprScan.Scan.Rule

/-!
# Where flaws lie

A report is about a whole token or about one field of an accessor. The place of a field comes from
a running byte count over the segments of the accessor; this module ties the count back to the
text, so that every report lies within its token and on boundaries of the source.

Main statements: what is wrong with an accessor is a dot at its end or a field between two dots
(`mem_accessorFlaws`), a flaw that a rule finds is about a piece of the token's text
(`Rule.isWithin_of_mem_flaws`), and the span of such a flaw is in order, within the token and on
boundaries (`Flaw.IsWithin.span_fits`).
-/

namespace ExprScan

/-! ### Fields of an accessor -/

theorem utf8Size_dot : '.'.utf8Size = 1 := by decide

theorem byteLength_append_dot (front s : List Char) :
    Text.byteLength front + 1 + Text.byteLength s + 1 = Text.byteLength (front ++ '.' :: s) + 1 := by
  simp only [Text.byteLength_append, Text.byteLength_cons, utf8Size_dot]
  omega

/-- A text is its first segment and then, for each further segment, a dot and that segment. -/
theorem segments_eq_cons (text : List Char) :
    ∃ first more, segments text = first :: more ∧ text = first ++ more.flatMap ('.' :: ·) := by
  induction text with
  | nil => exact ⟨[], [], rfl, rfl⟩
  | cons c cs ih =>
    obtain ⟨first, more, hs, ht⟩ := ih
    by_cases hc : c = '.'
    · subst hc
      refine ⟨[], first :: more, by simp [segments, hs], ?_⟩
      rw [List.nil_append, List.flatMap_cons, List.cons_append, ← ht]
    · refine ⟨c :: first, more, by simp [segments, hs, hc], ?_⟩
      rw [List.cons_append, ← ht]

theorem dot_notMem_of_mem_segments {text s : List Char} (h : s ∈ segments text) : '.' ∉ s := by
  induction text generalizing s with
  | nil =>
    rw [List.mem_singleton.1 h]
    exact List.not_mem_nil
  | cons c cs ih =>
    obtain ⟨first, more, hs, -⟩ := segments_eq_cons cs
    rw [hs] at ih
    by_cases hc : c = '.'
    · have h' : s = [] ∨ s ∈ first :: more := by simpa [segments, hc, hs] using h
      rcases h' with rfl | h'
      · exact List.not_mem_nil
      · exact ih h'
    · have h' : s = c :: first ∨ s ∈ more := by simpa [segments, hc, hs] using h
      rcases h' with rfl | h'
      · rw [List.mem_cons, not_or]
        exact ⟨Ne.symm hc, ih List.mem_cons_self⟩
      · exact ih (List.mem_cons_of_mem _ h')

/-- `HiddenAt text place field`: at byte `place` the accessor `text` has a field that is not
exported. -/
structure HiddenAt (text : List Char) (place : Nat) (field : List Char) : Prop where
  /-- The field stands after a dot and goes on to the next dot or to the end. -/
  stands : ∃ before after, text = before ++ '.' :: (field ++ after) ∧
    Text.byteLength before + 1 = place ∧ (after = [] ∨ after.head? = some '.')
  /-- The field has no dot itself. -/
  dotless : '.' ∉ field
  /-- The field is not exported. -/
  hidden : isExported field = false

theorem HiddenAt.ne_nil {text field : List Char} {place : Nat} (h : HiddenAt text place field) :
    field ≠ [] := by
  rintro rfl
  exact Bool.noConfusion h.hidden

theorem HiddenAt.add_byteLength_le {text field : List Char} {place : Nat}
    (h : HiddenAt text place field) :
    place + Text.byteLength field ≤ Text.byteLength text := by
  obtain ⟨before, after, rfl, rfl, -⟩ := h.stands
  simp only [Text.byteLength_append, Text.byteLength_cons, utf8Size_dot]
  omega

/-- The fields that are found not exported, behind a text and the dot after it, are such fields. -/
theorem hiddenAt_of_mem_hiddenFields {ss : List (List Char)} (hss : ∀ s ∈ ss, '.' ∉ s)
    {front : List Char} {f : Flaw} (h : f ∈ hiddenFields (Text.byteLength front + 1) ss) :
    ∃ place field, f = .hiddenField place (String.ofList field) ∧
      HiddenAt (front ++ ss.flatMap ('.' :: ·)) place field := by
  induction ss generalizing front with
  | nil => exact absurd h List.not_mem_nil
  | cons s ss ih =>
    obtain ⟨hs, hss⟩ := List.forall_mem_cons.1 hss
    rw [hiddenFields, List.mem_append] at h
    rcases h with h | h
    · split at h
      · exact absurd h List.not_mem_nil
      · rename_i hidden
        have hafter : ss.flatMap ('.' :: ·) = [] ∨ (ss.flatMap ('.' :: ·)).head? = some '.' := by
          cases ss with
          | nil => exact .inl rfl
          | cons s' ss => exact .inr rfl
        exact ⟨_, s, List.mem_singleton.1 h, ⟨front, _, rfl, rfl, hafter⟩, hs,
          by simpa using hidden⟩
    · -- the count goes on behind the segment and its dot
      rw [byteLength_append_dot] at h
      have htext : front ++ (s :: ss).flatMap ('.' :: ·) =
          (front ++ '.' :: s) ++ ss.flatMap ('.' :: ·) := by simp
      rw [htext]
      exact ih hss h

/-- What is wrong with an accessor is the dot at its end, or a field that is not exported. -/
theorem mem_accessorFlaws {text : List Char} {f : Flaw} (h : f ∈ accessorFlaws text) :
    f = .hangingDot ∧ text.getLast? = some '.' ∨
      ∃ place field, f = .hiddenField place (String.ofList field) ∧ HiddenAt text place field := by
  obtain ⟨first, more, hs, ht⟩ := segments_eq_cons text
  have hdots : ∀ s ∈ more, '.' ∉ s := by
    intro s hm
    have hmem : s ∈ segments text := by rw [hs]; exact List.mem_cons_of_mem _ hm
    exact dot_notMem_of_mem_segments hmem
  rw [accessorFlaws, hs, List.mem_append] at h
  rcases h with h | h
  · split at h
    · rename_i hlast
      exact .inl ⟨List.mem_singleton.1 h, hlast⟩
    · exact absurd h List.not_mem_nil
  · rw [ht]
    exact .inr (hiddenAt_of_mem_hiddenFields hdots h)

/-! ### Flaws within a text -/

/-- A flaw of a token with the given text is about the whole of it or about a piece of it. -/
def Flaw.IsWithin (text : List Char) : Flaw → Prop
  | .hiddenField place field =>
    ∃ before after, text = before ++ (field.toList ++ after) ∧ Text.byteLength before = place
  | _ => True

theorem HiddenAt.isWithin {text field : List Char} {place : Nat} (h : HiddenAt text place field) :
    (Flaw.hiddenField place (String.ofList field)).IsWithin text := by
  obtain ⟨before, after, ht, hp, -⟩ := h.stands
  refine ⟨before ++ ['.'], after, ?_, ?_⟩
  · rw [ht, String.toList_ofList]
    simp
  · rw [← hp]
    simp [utf8Size_dot]

theorem isWithin_of_mem_accessorFlaws {text : List Char} {f : Flaw}
    (h : f ∈ accessorFlaws text) : f.IsWithin text := by
  rcases mem_accessorFlaws h with ⟨rfl, -⟩ | ⟨place, field, rfl, hfield⟩
  · trivial
  · exact hfield.isWithin

theorem mem_munchNumber_flaws {cs : List Char} {f : Flaw} (h : f ∈ (munchNumber cs).flaws) :
    f = .noHexDigit ∨ f = .noDigit := by
  unfold munchNumber at h
  split at h
  · exact .inl (by simp_all)
  · exact .inr (by simp_all)
  · exact absurd h List.not_mem_nil

theorem mem_munchEnclosed_flaws {flaw f : Flaw} {opening closing : Char} {cs : List Char}
    (h : f ∈ (munchEnclosed flaw opening closing cs).flaws) : f = flaw := by
  unfold munchEnclosed at h
  split at h
  · exact List.mem_singleton.1 h
  · exact absurd h List.not_mem_nil

/-- What a rule finds wrong is about a piece of the token, which includes the text before it. -/
theorem Rule.isWithin_of_mem_flaws {functions : NameSet} {before cs : List Char} {r : Rule}
    {f : Flaw} (h : f ∈ (r.munch functions before cs).flaws) :
    f.IsWithin (before ++ (r.munch functions before cs).taken) := by
  cases r with
  | number => rcases mem_munchNumber_flaws h with rfl | rfl <;> trivial
  | comma => cases cs <;> exact absurd h List.not_mem_nil
  | bracket =>
    cases cs with
    | nil => rw [List.mem_singleton.1 h]; trivial
    | cons c cs => rw [mem_munchEnclosed_flaws h]; trivial
  | word =>
    simp only [Rule.munch, munchWord, wordFlaws] at h
    split at h
    · exact isWithin_of_mem_accessorFlaws h
    · exact absurd h List.not_mem_nil
  | string =>
    cases cs with
    | nil => rw [List.mem_singleton.1 h]; trivial
    | cons c cs => rw [mem_munchEnclosed_flaws h]; trivial
  | operator =>
    rcases cs with _ | ⟨c, _ | ⟨d, cs⟩⟩
    · exact absurd h List.not_mem_nil
    · exact absurd h List.not_mem_nil
    · simp only [Rule.munch, munchOperator] at h
      split at h <;> exact absurd h List.not_mem_nil

/-! ### Spans -/

/-- A span in order, between two offsets and on boundaries of the source. -/
structure Span.Fits (source : String) (lower upper : Nat) (s : Span) : Prop where
  /-- The span does not start before the lower offset. -/
  lower_le : lower ≤ s.start
  /-- The span does not run backwards. -/
  ordered : s.start ≤ s.stop
  /-- The span does not end after the upper offset. -/
  le_upper : s.stop ≤ upper
  /-- The span starts at a boundary. -/
  starts : Text.isBoundary source s.start = true
  /-- The span ends at a boundary. -/
  stops : Text.isBoundary source s.stop = true

theorem Span.fits_of_toList {source : String} {before piece after : List Char} {lower upper : Nat}
    (h : source.toList = before ++ (piece ++ after)) (hl : lower ≤ Text.byteLength before)
    (hu : Text.byteLength before + Text.byteLength piece ≤ upper) :
    (⟨Text.byteLength before, Text.byteLength before + Text.byteLength piece⟩ : Span).Fits
      source lower upper := by
  refine ⟨hl, Nat.le_add_right _ _, hu, Text.isBoundary_of_toList h, ?_⟩
  rw [← List.append_assoc] at h
  simpa using Text.isBoundary_of_toList h

/-- A flaw about a piece of a token that stands in the source has a span that fits the token. -/
theorem Flaw.IsWithin.span_fits {source : String} {before text after : List Char} {f : Flaw}
    (hf : f.IsWithin text) (h : source.toList = before ++ (text ++ after)) :
    (f.span (Text.byteLength before) (String.ofList text)).Fits source (Text.byteLength before)
      (Text.byteLength before + Text.byteLength text) := by
  cases f with
  | hiddenField place field =>
    obtain ⟨pre, post, rfl, rfl⟩ := hf
    have h' : source.toList = (before ++ pre) ++ (field.toList ++ (post ++ after)) := by
      rw [h]
      simp
    have hfits : (⟨Text.byteLength (before ++ pre),
        Text.byteLength (before ++ pre) + Text.byteLength field.toList⟩ : Span).Fits source
        (Text.byteLength before)
        (Text.byteLength before + Text.byteLength (pre ++ (field.toList ++ post))) :=
      Span.fits_of_toList h' (by simp) (by simp; omega)
    rw [Text.byteLength_append before pre, Text.byteLength_toList] at hfits
    exact hfits
  | _ =>
    show (⟨_, _ + Text.size (String.ofList text)⟩ : Span).Fits _ _ _
    rw [Text.size_ofList]
    exact Span.fits_of_toList h (Nat.le_refl _) (Nat.le_refl _)

end ExprScan
