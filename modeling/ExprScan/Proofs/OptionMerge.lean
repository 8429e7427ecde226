import ExprScan.Command.Options
import ExprScan.Proofs.LineTable

/-!
# Merging options

Names of functions are given one by one, with white space around them or not, once or several times,
in any order. What counts in the end is the set of the names without the white space. A name of
white space only is refused, and then nothing is merged, wherever the name stands.

## The model

`Options.Merged` says what the settings are after the options are merged into them, by the members
of the set of names. As it does not mention an order, the laws of merging follow from it: the order
of the names and their repetition make no difference, and merging again changes nothing.

Main statement: `Options.apply_merges`.
-/

namespace ExprScan

/-! ### White space at both ends -/

namespace Text

theorem dropWhile_append_of_head? {p : Char → Bool} {front word : List Char}
    (hf : ∀ c ∈ front, p c = true) (hw : ∀ c, word.head? = some c → p c = false) :
    (front ++ word).dropWhile p = word := by
  rw [List.dropWhile_append_of_pos hf]
  cases word with
  | nil => rfl
  | cons c cs => exact List.dropWhile_cons_of_neg (by simp [hw c rfl])

theorem trim_eq_nil_iff {cs : List Char} : trim cs = [] ↔ ∀ c ∈ cs, isBlank c = true := by
  rw [trim, trimEnd, dropEndWhile_eq_rdropWhile, List.rdropWhile_eq_nil_iff]
  constructor
  · intro h
    cases hd : cs.dropWhile isBlank with
    | nil => exact List.dropWhile_eq_nil_iff.1 hd
    | cons c rest =>
      have hc : isBlank c = false := by
        have := List.head?_dropWhile_not isBlank cs
        simpa [hd] using this
      rw [h c (by rw [hd]; exact List.mem_cons_self)] at hc
      cases hc
  · intro h c hc
    exact h c ((List.dropWhile_suffix isBlank).mem hc)

/-- The text has white space only, or nothing at all. -/
def AllBlank (s : String) : Prop := ∀ c ∈ s.toList, isBlank c = true

instance (s : String) : Decidable (AllBlank s) := inferInstanceAs (Decidable (∀ c ∈ s.toList, _))

/-- `Stripped name word`: `word` is `name` without the longest runs of white space at its ends. -/
structure Stripped (name word : String) : Prop where
  /-- What is missing stands at the ends and is white space. -/
  dropped : ∃ front back, name = front ++ (word ++ back) ∧
    (∀ c ∈ front.toList, isBlank c = true) ∧ ∀ c ∈ back.toList, isBlank c = true
  /-- What is left does not start with white space. -/
  starts : ∀ c, word.toList.head? = some c → isBlank c = false
  /-- It does not end with white space. -/
  ends : ∀ c, word.toList.getLast? = some c → isBlank c = false

theorem stripped_trim (name : String) : Stripped name (String.ofList (trim name.toList)) := by
  have htrimmed := trimmed_dropEndWhile isBlank (String.ofList (name.toList.dropWhile isBlank))
  rw [String.toList_ofList] at htrimmed
  obtain ⟨⟨back, hback, hblank⟩, hends⟩ := htrimmed
  refine ⟨⟨String.ofList (name.toList.takeWhile isBlank), back, ?_, ?_, hblank⟩, ?_, ?_⟩
  · rw [trim, trimEnd, ← hback, ← String.ofList_append, List.takeWhile_append_dropWhile,
      String.ofList_toList]
  · intro c hc
    rw [String.toList_ofList] at hc
    exact List.mem_takeWhile_imp hc
  · intro c hc
    rw [String.toList_ofList, trim, trimEnd, dropEndWhile_eq_rdropWhile] at hc
    obtain ⟨more, hmore⟩ := List.rdropWhile_prefix isBlank (name.toList.dropWhile isBlank)
    have hnot := List.head?_dropWhile_not isBlank name.toList
    rw [← hmore, List.head?_append, hc] at hnot
    simpa using hnot
  · intro c hc
    exact Bool.eq_false_iff.2 (hends c hc)

theorem Stripped.eq_trim {name word : String} (h : Stripped name word) :
    word = String.ofList (trim name.toList) := by
  obtain ⟨⟨front, back, rfl, hfront, hback⟩, hstarts, hends⟩ := h
  rw [← String.toList_inj, String.toList_ofList, String.toList_append, String.toList_append]
  cases hw : word.toList with
  | nil =>
    refine (trim_eq_nil_iff.2 fun c hc => ?_).symm
    rw [List.nil_append, List.mem_append] at hc
    exact hc.elim (hfront c) (hback c)
  | cons c cs =>
    rw [hw] at hstarts hends
    have hback' : ∀ d ∈ back.toList.reverse, isBlank d = true := by simpa using hback
    have hends' : ∀ d, (c :: cs).reverse.head? = some d → isBlank d = false := by
      simpa only [List.head?_reverse] using hends
    rw [trim, dropWhile_append_of_head? hfront (by simpa using hstarts), trimEnd, dropEndWhile,
      List.reverse_append, dropWhile_append_of_head? hback' hends', List.reverse_reverse]

theorem stripped_iff {name word : String} :
    Stripped name word ↔ word = String.ofList (trim name.toList) :=
  ⟨Stripped.eq_trim, fun h => h ▸ stripped_trim name⟩

end Text

namespace Options

variable {o : Options} {s s' : Settings} {name : String} {names : List String}

/-! ### One name -/

theorem addFunction_of_blank (s : Settings) (h : Text.AllBlank name) :
    addFunction s name = .error (.validation "empty function name") := by
  rw [addFunction, Text.trim_eq_nil_iff.2 h]
  rfl

theorem addFunction_of_not_blank (s : Settings) (h : ¬ Text.AllBlank name) :
    addFunction s name = .ok (s.withFunction (String.ofList (Text.trim name.toList))) := by
  rw [addFunction, if_neg]
  simpa [Text.trim_eq_nil_iff, Text.AllBlank] using h

/-! ### All names -/

/-- A name of white space only is refused, whatever names stand before it. -/
theorem foldlM_addFunction_of_blank (s : Settings)
    (h : ∃ n ∈ names, Text.AllBlank n) :
    names.foldlM addFunction s = .error (.validation "empty function name") := by
  induction names generalizing s with
  | nil => simp at h
  | cons n names ih =>
    rw [List.foldlM_cons]
    by_cases hn : Text.AllBlank n
    · rw [addFunction_of_blank s hn]
      rfl
    · rw [addFunction_of_not_blank s hn]
      obtain ⟨n', hmem, hblank⟩ := h
      rcases List.mem_cons.1 hmem with rfl | hmem
      · exact absurd hblank hn
      · exact ih _ ⟨n', hmem, hblank⟩

/-- If there is none, each name is added without the white space around it. -/
theorem exists_foldlM_addFunction (s : Settings)
    (h : ∀ n ∈ names, ¬ Text.AllBlank n) :
    ∃ s', names.foldlM addFunction s = .ok s' ∧ s'.validate = s.validate ∧
      ∀ x, x ∈ s'.functions.names ↔
        x ∈ s.functions.names ∨ ∃ n ∈ names, Text.Stripped n x := by
  induction names generalizing s with
  | nil => exact ⟨s, rfl, rfl, by simp⟩
  | cons n names ih =>
    obtain ⟨hn, hnames⟩ := List.forall_mem_cons.1 h
    obtain ⟨s', hfold, hvalidate, hmem⟩ :=
      ih (s.withFunction (String.ofList (Text.trim n.toList))) hnames
    refine ⟨s', ?_, hvalidate, fun x => ?_⟩
    · rw [List.foldlM_cons, addFunction_of_not_blank s hn]
      exact hfold
    · rw [hmem, Settings.withFunction, NameSet.mem_names_insert, or_assoc, or_left_comm]
      simp only [List.mem_cons, or_and_right, exists_or, exists_eq_left, Text.stripped_iff]

/-! ### Options -/

/-- `o.Merged s s'`: the settings `s'` are `s` with what the options add. -/
structure Merged (o : Options) (s s' : Settings) : Prop where
  /-- Diagnostics are reported if the settings ask for them and the options do not decline them. -/
  validate_eq : s'.validate = (s.validate && !o.noValidate)
  /-- The names are those of the settings and those of the options without the white space around
  them. -/
  mem_functions_iff : ∀ x, x ∈ s'.functions.names ↔
    x ∈ s.functions.names ∨ ∃ n ∈ o.functions, Text.Stripped n x

/-- There is one way to merge. -/
theorem Merged.unique {s'' : Settings} (h : o.Merged s s') (h' : o.Merged s s'') : s' = s'' := by
  have hvalidate : s'.validate = s''.validate := by rw [h.validate_eq, h'.validate_eq]
  have hfunctions : s'.functions = s''.functions :=
    NameSet.ext_mem fun x => by rw [h.mem_functions_iff, h'.mem_functions_iff]
  obtain ⟨validate, functions⟩ := s'
  obtain rfl : validate = s''.validate := hvalidate
  obtain rfl : functions = s''.functions := hfunctions
  rfl

/-- What is merged once is there already when it is merged again. -/
theorem Merged.again (h : o.Merged s s') : o.Merged s' s' := by
  refine ⟨?_, fun x => ?_⟩
  · rw [h.validate_eq, Bool.and_assoc, Bool.and_self]
  · rw [h.mem_functions_iff, or_assoc, or_self]

theorem apply_of_blank (s : Settings)
    (h : ∃ n ∈ o.functions, Text.AllBlank n) :
    o.apply s = .error (.validation "empty function name") := by
  rw [apply, foldlM_addFunction_of_blank s h]
  rfl

theorem exists_apply_of_not_blank (s : Settings)
    (h : ∀ n ∈ o.functions, ¬ Text.AllBlank n) :
    ∃ s', o.apply s = .ok s' ∧ o.Merged s s' := by
  obtain ⟨s', hfold, hvalidate, hmem⟩ := exists_foldlM_addFunction s h
  refine ⟨if o.noValidate then s'.withValidate false else s', ?_, ?_, fun x => ?_⟩
  · rw [apply, hfold]
    rfl
  · cases o.noValidate <;> simp [Settings.withValidate, hvalidate]
  · rw [← hmem]
    cases o.noValidate <;> rfl

theorem apply_eq_error_iff {e : Failure} :
    o.apply s = .error e ↔
      (∃ n ∈ o.functions, Text.AllBlank n) ∧ e = .validation "empty function name" := by
  constructor
  · intro h
    by_cases hblank : ∃ n ∈ o.functions, Text.AllBlank n
    · rw [apply_of_blank s hblank] at h
      exact ⟨hblank, (Except.error.inj h).symm⟩
    · obtain ⟨s', hs', -⟩ := exists_apply_of_not_blank s fun n hn hall => hblank ⟨n, hn, hall⟩
      rw [hs'] at h
      cases h
  · rintro ⟨hblank, rfl⟩
    exact apply_of_blank s hblank

theorem apply_eq_ok_iff :
    o.apply s = .ok s' ↔ (∀ n ∈ o.functions, ¬ Text.AllBlank n) ∧ o.Merged s s' := by
  constructor
  · intro h
    have hnone : ∀ n ∈ o.functions, ¬ Text.AllBlank n := by
      intro n hn hall
      rw [apply_of_blank s ⟨n, hn, hall⟩] at h
      cases h
    obtain ⟨s'', hs'', hmerged⟩ := exists_apply_of_not_blank s hnone
    rw [hs''] at h
    cases h
    exact ⟨hnone, hmerged⟩
  · rintro ⟨hnone, hmerged⟩
    obtain ⟨s'', hs'', hmerged'⟩ := exists_apply_of_not_blank s hnone
    rw [hs'', hmerged.unique hmerged']

/-- Options with the same names and the same wish not to validate are merged alike. -/
theorem apply_congr {o' : Options} (hvalidate : o'.noValidate = o.noValidate)
    (hnames : ∀ n, n ∈ o'.functions ↔ n ∈ o.functions) (s : Settings) :
    o'.apply s = o.apply s := by
  cases h : o.apply s with
  | error e =>
    rw [apply_eq_error_iff] at h ⊢
    simpa only [hnames] using h
  | ok s' =>
    obtain ⟨hnone, hmerged⟩ := apply_eq_ok_iff.1 h
    refine apply_eq_ok_iff.2 ⟨fun n hn => hnone n ((hnames n).1 hn), ?_, fun x => ?_⟩
    · rw [hvalidate, hmerged.validate_eq]
    · simp only [hmerged.mem_functions_iff, hnames]

/-- **Merging options**: merging fails if a name has white space only, wherever it stands, and for
no other reason. Otherwise diagnostics are reported if both sides agree, and to the names come those
of the options, without the white space around them. So the order of the names and their repetition
make no difference, and merging again changes nothing. -/
theorem apply_merges (o : Options) (s : Settings) :
    (∀ e, o.apply s = .error e ↔
        (∃ n ∈ o.functions, Text.AllBlank n) ∧ e = .validation "empty function name") ∧
      (∀ s', o.apply s = .ok s' ↔
        (∀ n ∈ o.functions, ¬ Text.AllBlank n) ∧ o.Merged s s') ∧
      (∀ names, (∀ n, n ∈ names ↔ n ∈ o.functions) →
        { o with functions := names }.apply s = o.apply s) ∧
      ∀ s', o.apply s = .ok s' → o.apply s' = .ok s' := by
  refine ⟨fun e => apply_eq_error_iff, fun s' => apply_eq_ok_iff, fun names hnames => ?_,
    fun s' h => ?_⟩
  · refine apply_congr ?_ hnames s
    rfl
  · obtain ⟨hnone, hmerged⟩ := apply_eq_ok_iff.1 h
    exact apply_eq_ok_iff.2 ⟨hnone, hmerged.again⟩

/-- For instance for two names in another order, one of them given twice, over a name that is there
already. -/
theorem apply_merges_repeated :
    (∀ n, n ∈ ["min", "\u00a0max ", "min"] ↔ n ∈ ["\u00a0max ", "min"]) ∧
      Options.apply ⟨["min", "\u00a0max ", "min"], true, none⟩ ⟨true, .ofList ["now"]⟩ =
        Options.apply ⟨["\u00a0max ", "min"], true, none⟩ ⟨true, .ofList ["now"]⟩ ∧
      Options.apply ⟨["\u00a0max ", "min"], true, none⟩ ⟨true, .ofList ["now"]⟩ =
        .ok ⟨false, .ofList ["now", "max", "min"]⟩ ∧
      Options.apply ⟨["\u00a0max ", "min"], true, none⟩ ⟨false, .ofList ["now", "max", "min"]⟩ =
        .ok ⟨false, .ofList ["now", "max", "min"]⟩ := by
  have hnames : ∀ n, n ∈ ["min", "\u00a0max ", "min"] ↔ n ∈ ["\u00a0max ", "min"] := by
    intro n
    simp [or_comm]
  have hmerged : Options.apply ⟨["\u00a0max ", "min"], true, none⟩ ⟨true, .ofList ["now"]⟩ =
      .ok ⟨false, .ofList ["now", "max", "min"]⟩ := by
    decide +kernel
  obtain ⟨-, -, hsame, hagain⟩ :=
    apply_merges ⟨["\u00a0max ", "min"], true, none⟩ ⟨true, .ofList ["now"]⟩
  exact ⟨hnames, hsame _ hnames, hmerged, hagain _ hmerged⟩

end Options

end ExprScan
