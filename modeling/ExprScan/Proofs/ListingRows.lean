import ExprScan.Proofs.LinePosition
import ExprScan.Proofs.ReportLines

/-!
# The rows of the listing

The listing of tokens is read line by line: a line has the place of a token, its label and its text,
with spaces between them. But the columns have a fixed width, the text of a token is printed as it
is, and white space is cut off at the end of a line. So a row is spoilt if the place has eight
characters or more, for then the label follows at once; if the text has a line feed, which makes two
lines of one; and if the text ends with white space, which is lost. Nothing else spoils a row.

Of the tokens only strings and parameters in brackets can have a line feed. White space at the end
can also be that of a name, which may have any letter outside ASCII.

Main statement: `listing_shows_iff`, the exact condition under which the listing shows the tokens
line by line, and `not_shown_whiteSpace`, texts for which it does not.
-/

namespace ExprScan

/-! ### White space at the end -/

namespace Text

theorem trimEnd_eq (cs : List Char) : trimEnd cs = cs.rdropWhile isBlank := rfl

theorem trimEnd_append {as bs : List Char} (hne : bs ≠ [])
    (h : ∀ c, bs.getLast? = some c → isBlank c = false) : trimEnd (as ++ bs) = as ++ bs := by
  obtain ⟨early, c, rfl⟩ := (List.eq_nil_or_concat' bs).resolve_left hne
  have hc : isBlank c = false := h c (by simp)
  rw [trimEnd_eq, ← List.append_assoc, List.rdropWhile_concat_neg _ _ _ (by simp [hc])]

theorem isBlank_of_getLast?_trimEnd {cs : List Char} {c : Char}
    (h : (trimEnd cs).getLast? = some c) : isBlank c = false := by
  have hne : trimEnd cs ≠ [] := by
    intro hnil
    rw [hnil] at h
    cases h
  rw [List.getLast?_eq_some_getLast hne, Option.some.injEq] at h
  rw [← h]
  exact Bool.eq_false_iff.2 (List.rdropWhile_last_not isBlank cs hne)

theorem trimEnd_subset (cs : List Char) : trimEnd cs ⊆ cs :=
  (List.rdropWhile_prefix isBlank cs).subset

theorem eq_or_mem_of_mem_padRight {width : Nat} {c : Char} {cs : List Char}
    (h : c ∈ padRight width cs) : c = ' ' ∨ c ∈ cs := by
  rw [padRight, List.mem_append, List.mem_replicate] at h
  exact h.symm.imp And.right id

end Text

/-! ### Places and labels -/

theorem Position.isDigit_of_mem_render {p : Position} {c : Char} (h : c ∈ p.render) :
    c.isDigit = true ∨ c = ':' := by
  rw [render, List.mem_append, List.mem_append, List.mem_singleton] at h
  rcases h with (h | h) | h
  · exact .inl (Text.isDigit_of_mem_decimal h)
  · exact .inr h
  · exact .inl (Text.isDigit_of_mem_decimal h)

/-- A label is not empty, has no white space and is shorter than its column. -/
theorem Kind.label_fits (k : Kind) :
    k.label.toList ≠ [] ∧ k.label.toList.all (!Text.isBlank ·) = true ∧
      k.label.toList.length < 12 := by
  cases k with
  | literal value => cases value <;> decide
  | separator mark => cases mark <;> decide
  | delimiter mark => cases mark <;> decide
  | operator op => cases op <;> decide
  | _ => decide

theorem Kind.isBlank_of_mem_label {k : Kind} {c : Char} (h : c ∈ k.label.toList) :
    Text.isBlank c = false := by
  have hall := List.all_eq_true.1 k.label_fits.2.1 c h
  simpa using hall

/-! ### Rows -/

namespace LocatedToken

variable {t : LocatedToken} {cs : List Char}

/-- `t.Row cs`: the characters show the token `t`. -/
inductive Row (t : LocatedToken) : List Char → Prop where
  /-- A token without a text has its place and its label. -/
  | mark {gap : Nat} (h : t.token.text = "") (hgap : 0 < gap) :
      Row t (t.position.render ++ List.replicate gap ' ' ++ t.token.kind.label.toList)
  /-- Any other token has its text besides. -/
  | text {gap gap' : Nat} (h : t.token.text ≠ "") (hgap : 0 < gap) (hgap' : 0 < gap') :
      Row t (t.position.render ++ List.replicate gap ' ' ++ t.token.kind.label.toList ++
        List.replicate gap' ' ' ++ t.token.text.toList)

/-- What it takes for a token to be shown on a row of the listing. -/
structure Fits (t : LocatedToken) : Prop where
  /-- Its place is shorter than its column. -/
  place : t.position.render.length < 8
  /-- Its text has no line feed. -/
  lineFeed : '\n' ∉ t.token.text.toList
  /-- Its text does not end with white space. -/
  last : ∀ c, t.token.text.toList.getLast? = some c → Text.isBlank c = false

theorem Row.exists_space (h : t.Row cs) : ∃ more, cs = t.position.render ++ ' ' :: more := by
  cases h with
  | mark h hgap =>
    obtain ⟨n, rfl⟩ := Nat.exists_eq_succ_of_ne_zero (Nat.ne_of_gt hgap)
    exact ⟨_, by rw [List.replicate_succ, List.append_assoc, List.cons_append]⟩
  | text h hgap hgap' =>
    obtain ⟨n, rfl⟩ := Nat.exists_eq_succ_of_ne_zero (Nat.ne_of_gt hgap)
    exact ⟨_, by simp only [List.replicate_succ, List.append_assoc, List.cons_append]; rfl⟩

theorem Row.suffix (h : t.Row cs) : t.token.text.toList <:+ cs := by
  cases h with
  | mark h hgap => simp [h]
  | text h hgap hgap' => exact List.suffix_append _ _

/-- Where the place does not fit into its column, the label follows it at once. -/
theorem exists_line_eq (h : 8 ≤ t.position.render.length) :
    ∃ c more, t.line = t.position.render ++ c :: more ∧ Text.isBlank c = false := by
  obtain ⟨c, more, hlabel⟩ := List.exists_cons_of_ne_nil t.token.kind.label_fits.1
  have hc : Text.isBlank c = false := Kind.isBlank_of_mem_label (hlabel ▸ List.mem_cons_self)
  have hpad : Text.padRight 8 t.position.render = t.position.render := by
    rw [Text.padRight, Nat.sub_eq_zero_of_le h, List.replicate_zero, List.append_nil]
  have hline : t.line = Text.trimEnd (t.position.render ++ c ::
      (more ++ List.replicate (12 - (c :: more).length) ' ' ++ t.token.text.toList)) := by
    rw [line, hpad, hlabel]
    simp [Text.padRight]
  exact ⟨c, _, by rw [hline, Text.trimEnd_eq, Text.rdropWhile_append_cons_of_neg hc], hc⟩

theorem line_of_empty (h : t.token.text = "") :
    t.line = Text.padRight 8 t.position.render ++ t.token.kind.label.toList := by
  have hspace : ∀ c ∈ List.replicate (12 - t.token.kind.label.toList.length) ' ',
      Text.isBlank c = true := by
    intro c hc
    rw [List.eq_of_mem_replicate hc]
    decide
  rw [line, h, Text.padRight.eq_1 12, ← List.append_assoc, String.toList_empty, List.append_nil,
    Text.trimEnd_eq, Text.rdropWhile_append_of_pos hspace, ← Text.trimEnd_eq]
  exact Text.trimEnd_append t.token.kind.label_fits.1 fun c hc =>
    Kind.isBlank_of_mem_label (List.mem_of_getLast? hc)

theorem line_of_last (hne : t.token.text ≠ "")
    (h : ∀ c, t.token.text.toList.getLast? = some c → Text.isBlank c = false) :
    t.line = Text.padRight 8 t.position.render ++
      Text.padRight 12 t.token.kind.label.toList ++ t.token.text.toList :=
  Text.trimEnd_append (mt String.toList_eq_nil_iff.1 hne) h

/-- The line for a token shows it if the place fits into its column and the text does not end with
white space, and only then. -/
theorem row_line_iff : t.Row t.line ↔ t.position.render.length < 8 ∧
    ∀ c, t.token.text.toList.getLast? = some c → Text.isBlank c = false := by
  constructor
  · intro h
    refine ⟨?_, fun c hc => ?_⟩
    · by_contra hwide
      obtain ⟨c, more, hline, hc⟩ := exists_line_eq (Nat.le_of_not_lt hwide)
      obtain ⟨more', hspace⟩ := h.exists_space
      rw [hline] at hspace
      obtain ⟨rfl, -⟩ := List.cons.inj (List.append_cancel_left hspace)
      exact absurd hc (by decide)
    · obtain ⟨front, hline⟩ := h.suffix
      have hne : t.token.text.toList ≠ [] := by
        intro hnil
        rw [hnil] at hc
        cases hc
      have hlast : t.line.getLast? = some c := by
        rw [← hline, List.getLast?_append_of_ne_nil _ hne, hc]
      exact Text.isBlank_of_getLast?_trimEnd hlast
  · rintro ⟨hplace, hlast⟩
    obtain ⟨-, -, hlabel⟩ := t.token.kind.label_fits
    by_cases hne : t.token.text = ""
    · rw [line_of_empty hne]
      exact .mark hne (Nat.sub_pos_of_lt hplace)
    · rw [line_of_last hne hlast, Text.padRight, Text.padRight, ← List.append_assoc]
      exact .text hne (Nat.sub_pos_of_lt hplace) (Nat.sub_pos_of_lt hlabel)

theorem lineFeed_notMem_line (h : '\n' ∉ t.token.text.toList) : '\n' ∉ t.line := by
  intro hmem
  have hall := Text.trimEnd_subset _ hmem
  rw [List.mem_append, List.mem_append] at hall
  rcases hall with (hplace | hlabel) | htext
  · rcases Text.eq_or_mem_of_mem_padRight hplace with heq | hplace
    · exact absurd heq (by decide)
    · exact absurd (Position.isDigit_of_mem_render hplace) (by decide)
  · rcases Text.eq_or_mem_of_mem_padRight hlabel with heq | hlabel
    · exact absurd heq (by decide)
    · exact absurd (Kind.isBlank_of_mem_label hlabel) (by decide)
  · exact h htext

/-- The line for a token is one row, which shows the token, if the token fits, and only then. -/
theorem fits_iff : t.Fits ↔ '\n' ∉ t.line ∧ t.Row t.line := by
  constructor
  · intro h
    exact ⟨lineFeed_notMem_line h.lineFeed, row_line_iff.2 ⟨h.place, h.last⟩⟩
  · rintro ⟨hfeed, hrow⟩
    obtain ⟨hplace, hlast⟩ := row_line_iff.1 hrow
    exact ⟨hplace, fun hmem => hfeed (hrow.suffix.subset hmem), hlast⟩

end LocatedToken

/-! ### The listing -/

/-- The output has a line for each token, which shows it. All lines are ended by line feeds. -/
def ShownLineByLine (ts : List LocatedToken) (out : String) : Prop :=
  ∃ rows : List String, Text.lines out = rows ++ [""] ∧
    List.Forall₂ (fun t row => LocatedToken.Row t row.toList) ts rows

theorem listing_eq_intercalate (ts : List LocatedToken) :
    listing ts = "\n".intercalate (ts.map (fun t => String.ofList t.line) ++ [""]) := by
  rw [Text.intercalate_concat_empty, listing]
  induction ts with
  | nil => rfl
  | cons t ts ih =>
    rw [List.flatMap_cons, String.ofList_append, ih, List.map_cons, List.map_cons,
      String.join_cons, String.ofList_append]

/-- The listing has a line feed for each token, and those in the lines for the tokens. -/
theorem count_listing (ts : List LocatedToken) :
    (listing ts).toList.count '\n' = (ts.flatMap (·.line)).count '\n' + ts.length := by
  rw [listing, String.toList_ofList]
  induction ts with
  | nil => rfl
  | cons t ts ih =>
    rw [List.flatMap_cons, List.count_append, ih, List.flatMap_cons, List.count_append,
      List.count_append, List.length_cons, List.count_singleton_self]
    omega

theorem lines_listing {ts : List LocatedToken} (h : ∀ t ∈ ts, '\n' ∉ t.line) :
    Text.lines (listing ts) = ts.map (fun t => String.ofList t.line) ++ [""] := by
  rw [listing_eq_intercalate]
  refine Text.lines_intercalate (by simp) fun l hl => ?_
  rcases List.mem_append.1 hl with hl | hl
  · obtain ⟨t, ht, rfl⟩ := List.mem_map.1 hl
    rw [String.toList_ofList]
    exact h t ht
  · rw [List.mem_singleton.1 hl]
    exact List.not_mem_nil

/-- The listing shows tokens line by line if each of them fits, and only then. -/
theorem shownLineByLine_listing_iff {ts : List LocatedToken} :
    ShownLineByLine ts (listing ts) ↔ ∀ t ∈ ts, t.Fits := by
  constructor
  · rintro ⟨rows, hlines, hrows⟩
    -- there are as many lines as tokens, so that no line for a token has a line feed
    have hcount := Text.length_lines (listing ts)
    rw [hlines, count_listing, List.length_append, List.length_singleton, ← hrows.length_eq] at hcount
    have hnone : '\n' ∉ ts.flatMap (·.line) := List.count_eq_zero.1 (by omega)
    have hfeed : ∀ t ∈ ts, '\n' ∉ t.line := fun t ht hmem =>
      hnone (List.mem_flatMap.2 ⟨t, ht, hmem⟩)
    rw [lines_listing hfeed] at hlines
    rw [← List.append_cancel_right hlines, List.forall₂_map_right_iff, List.forall₂_same] at hrows
    intro t ht
    refine LocatedToken.fits_iff.2 ⟨hfeed t ht, ?_⟩
    simpa using hrows t ht
  · intro h
    refine ⟨_, lines_listing fun t ht => (LocatedToken.fits_iff.1 (h t ht)).1, ?_⟩
    rw [List.forall₂_map_right_iff, List.forall₂_same]
    intro t ht
    rw [String.toList_ofList]
    exact (LocatedToken.fits_iff.1 (h t ht)).2

/-- **The rows of the listing**: the listing of the tokens of a text succeeds. It shows the tokens
line by line, each with its place, its label and its whole text, if all tokens fit, and only then:
places of seven characters at most, no line feed in a token and no white space at its end. A token
that is no string and no parameter in brackets has no line feed. -/
theorem listing_shows_iff (settings : Settings) (name content : String) :
    ∃ out err, Job.list ⟨.ofContent name content, settings, .text⟩ = .ok (out, err) ∧
      (ShownLineByLine
          ((tokenize settings content).tokens.map (·.locate (.ofContent name content))) out ↔
        ∀ t ∈ (tokenize settings content).tokens,
          (t.locate (.ofContent name content)).Fits) ∧
      ∀ t ∈ (tokenize settings content).tokens, t.kind ≠ .literal .string →
        '\n' ∉ t.text.toList := by
  refine ⟨_, _, rfl, ?_, ?_⟩
  · exact shownLineByLine_listing_iff.trans List.forall_mem_map
  · intro t ht hk hmem
    obtain ⟨l, hl, rfl⟩ := List.mem_map.1 ht
    have hrun := run_lexemesFrom settings.functions 0 content.toList
    exact absurd (hrun.isSpace_eq_false hl hk hmem) (by decide)

/-- The space at the end of a string that is not closed is lost, and a string with a line feed takes
two lines, so that there are three lines for two tokens. -/
theorem not_shown_whiteSpace :
    (∃ out err, Job.list ⟨.ofContent "<expr>" "\x22a ", {}, .text⟩ = .ok (out, err) ∧
      out = "1:1     string      \x22a\n1:4     eof\n" ∧
      ¬ ShownLineByLine
        ((tokenize {} "\x22a ").tokens.map (·.locate (.ofContent "<expr>" "\x22a "))) out) ∧
    ∃ out err, Job.list ⟨.ofContent "<expr>" "\x22a\nb\x22", {}, .text⟩ = .ok (out, err) ∧
      out = "1:1     string      \x22a\nb\x22\n2:3     eof\n" ∧
      ¬ ShownLineByLine
        ((tokenize {} "\x22a\nb\x22").tokens.map (·.locate (.ofContent "<expr>" "\x22a\nb\x22")))
        out := by
  have hspace : (⟨.literal .string, "\x22a ", 0⟩ : Token) ∈ (tokenize {} "\x22a ").tokens := by
    decide +kernel
  have hfeed : (⟨.literal .string, "\x22a\nb\x22", 0⟩ : Token) ∈
      (tokenize {} "\x22a\nb\x22").tokens := by
    decide +kernel
  refine ⟨⟨_, _, rfl, ?_, fun h => ?_⟩, ⟨_, _, rfl, ?_, fun h => ?_⟩⟩
  · decide +kernel
  · have hfits := shownLineByLine_listing_iff.1 h _ (List.mem_map_of_mem hspace)
    exact absurd (hfits.last ' ' rfl) (by decide)
  · decide +kernel
  · have hfits := shownLineByLine_listing_iff.1 h _ (List.mem_map_of_mem hfeed)
    exact absurd hfits.lineFeed (by decide)

end ExprScan
