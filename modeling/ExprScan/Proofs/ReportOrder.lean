import ExprScan.Proofs.AccessorReports
import ExprScan.Proofs.Lookahead
import ExprScan.Proofs.ReportOwner

/-!
# Reports in the order of the text

Who reads reports one after the other goes through the text once: each report starts behind the
start of the one before it. Between tokens this is because tokens stand one behind the other; within
an accessor, the report about its last dot covers all of it and comes first, and then its fields
come in their order.

A literal that is not closed takes the rest of the text. So there is one at most, and nothing but
the mark of the end comes after it, neither a token nor a report.

Main statements: a literal that is not closed is the last token of a run (`Run.eq_concat_of_isOpen`),
and `diagnostics_in_order` for the reports of a scan.
-/

namespace ExprScan

/-! ### Reports of one token -/

theorem lt_place_of_mem_fieldsAfter {front : List Char} {ss : List (List Char)} {f : Field}
    (h : f ∈ fieldsAfter front ss) : Text.byteLength front < f.place := by
  induction ss generalizing front with
  | nil => exact absurd h List.not_mem_nil
  | cons s ss ih =>
    rcases List.mem_cons.1 h with rfl | h
    · exact Nat.lt_succ_self _
    · have := ih h
      simp only [Text.byteLength_append] at this
      omega

theorem pairwise_fieldsAfter (front : List Char) (ss : List (List Char)) :
    (fieldsAfter front ss).Pairwise fun f g => f.place < g.place := by
  induction ss generalizing front with
  | nil => exact List.Pairwise.nil
  | cons s ss ih =>
    refine List.Pairwise.cons ?_ (ih _)
    intro g hg
    have := lt_place_of_mem_fieldsAfter hg
    simp only [Text.byteLength_append, Text.byteLength_cons, utf8Size_dot] at this
    show Text.byteLength front + 1 < g.place
    omega

/-- In the text before it stands. -/
def Diagnostic.StartsBefore (d e : Diagnostic) : Prop := d.span.start < e.span.start

/-- The reports of an accessor start one behind the other: first the one about the dot at its end,
which is about the whole accessor, and then those about fields. -/
theorem Token.pairwise_accessorReports (t : Token) :
    t.accessorReports.Pairwise Diagnostic.StartsBefore := by
  obtain ⟨first, more, hs, -⟩ := segments_eq_cons t.text.toList
  rw [accessorReports, fieldsOf_eq_fieldsAfter hs, List.pairwise_append]
  refine ⟨?_, ?_, ?_⟩
  · split
    · exact List.pairwise_singleton _ _
    · exact List.Pairwise.nil
  · refine List.pairwise_map.2 (((pairwise_fieldsAfter first more).filter _).imp ?_)
    intro f g hlt
    show t.offset + f.place < t.offset + g.place
    omega
  · intro d hd e he
    obtain ⟨f, -, rfl⟩ := List.mem_map.1 he
    split at hd
    · rw [List.mem_singleton.1 hd]
      show t.offset < t.offset + f.place
      simp [Field.place]
    · exact absurd hd List.not_mem_nil

theorem flawsOf_eq_singleton {kind : Kind} {text : List Char} {f : Flaw} (hk : kind ≠ .accessor)
    (h : f ∈ flawsOf kind text) : flawsOf kind text = [f] := by
  unfold flawsOf at h ⊢
  split at h
  · split_ifs at h ⊢ <;> simp_all
  · split_ifs at h ⊢ <;> simp_all
  · exact absurd rfl hk
  · exact absurd h List.not_mem_nil

theorem Token.pairwise_reports (t : Token) : t.reports.Pairwise Diagnostic.StartsBefore := by
  by_cases hk : t.kind = .accessor
  · rw [t.reports_eq_accessorReports hk]
    exact t.pairwise_accessorReports
  · rw [reports]
    cases h : flawsOf t.kind t.text.toList with
    | nil => exact List.Pairwise.nil
    | cons f fs =>
      rw [← h, flawsOf_eq_singleton hk (h ▸ List.mem_cons_self)]
      exact List.pairwise_singleton _ _

/-! ### Reports of a scan -/

/-- The reports of tokens in sequence start one behind the other. -/
theorem InSequence.pairwise_reports {ts : List Token} (h : InSequence ts) :
    (ts.flatMap Token.reports).Pairwise Diagnostic.StartsBefore := by
  refine List.pairwise_flatMap.2 ⟨fun t _ => t.pairwise_reports, h.imp ?_⟩
  intro s t hst d hd e he
  obtain ⟨piece, habout, hne⟩ := s.exists_about hd
  obtain ⟨piece', habout', -⟩ := t.exists_about he
  have hstop := (Token.covers_iff.1 habout.covers).2
  have hstart := (Token.covers_iff.1 habout'.covers).1
  have hlt := habout.start_lt_stop hne
  show d.span.start < e.span.start
  omega

theorem pairwise_diagnostics (settings : Settings) (source : String) :
    (tokenize settings source).diagnostics.Pairwise Diagnostic.StartsBefore := by
  rw [tokenize_diagnostics]
  split
  · exact (inSequence_tokens settings source).pairwise_reports
  · exact List.Pairwise.nil

/-! ### Literals that are not closed -/

/-- Whether the flaw is that of a literal that is not closed. -/
def Flaw.isOpen : Flaw → Bool
  | .openBracket => true
  | .openString => true
  | _ => false

/-- Whether the report is about a literal that is not closed. -/
def Diagnostic.isOpen (d : Diagnostic) : Bool :=
  d.code == some .unclosedBracket || d.code == some .unterminatedString

theorem Flaw.isOpen_diagnostic (f : Flaw) (start : Nat) (text : String) :
    (f.diagnostic start text).isOpen = f.isOpen := by
  cases f <;> rfl

theorem Munch.isOpen_of_mem {m : Munch} {f : Flaw} (hf : f ∈ m.flaws) (ho : f.isOpen = true) :
    m.isOpen = true := by
  cases f with
  | openBracket => simp [Munch.isOpen, hf]
  | openString => simp [Munch.isOpen, hf]
  | _ => cases ho

theorem flawsOf_eq_singleton_of_isOpen {kind : Kind} {text : List Char} {f : Flaw}
    (h : f ∈ flawsOf kind text) (ho : f.isOpen = true) : flawsOf kind text = [f] := by
  refine flawsOf_eq_singleton ?_ h
  rintro rfl
  rcases mem_accessorFlaws h with ⟨rfl, -⟩ | ⟨place, field, rfl, -⟩
  · cases ho
  · cases ho

theorem Run.eq_finish {functions : NameSet} {offset : Nat} {ls : List Lexeme}
    (h : Run functions offset [] ls) : ls = [⟨.finish offset, []⟩] :=
  h.eq_lexemesFrom.trans (lexemesFrom_of_nil rfl)

/-- A literal that is not closed is the last token of a run and goes on to the end of the text. -/
theorem Run.eq_concat_of_isOpen {functions : NameSet} {offset : Nat} {cs : List Char}
    {ls : List Lexeme} (h : Run functions offset cs ls) {l : Lexeme} (hl : l ∈ ls) {f : Flaw}
    (hf : f ∈ l.flaws) (ho : f.isOpen = true) :
    ∃ early, ls = early ++ [l, ⟨.finish (offset + Text.byteLength cs), []⟩] ∧ l.flaws = [f] ∧
      l.token.isEnd = false ∧ l.token.offset + l.token.size = offset + Text.byteLength cs := by
  induction h with
  | finish hb =>
    rw [List.mem_singleton.1 hl] at hf
    exact absurd hf List.not_mem_nil
  | @token offset blanks cs c m ls hb hc hm next ih =>
    have hcut := Munch.eq_taken_append hm
    have hlength : offset + Text.byteLength (blanks ++ c :: cs) =
        offset + Text.byteLength blanks + Text.byteLength m.taken + Text.byteLength m.rest := by
      rw [hcut]
      simp [Nat.add_assoc]
    rw [hlength]
    rcases List.mem_cons.1 hl with rfl | hl
    · -- the literal took all there was, and the mark of the end follows
      have hrest : m.rest = [] := Rule.rest_eq_nil_of_isOpen hm (Munch.isOpen_of_mem hf ho)
      have hflaws : m.flaws = flawsOf m.kind m.taken := by
        rw [hm]
        exact Rule.flaws_munch functions c cs
      rw [hrest] at next ⊢
      refine ⟨[], ?_, ?_, ?_, ?_⟩
      · rw [next.eq_finish]
        rfl
      · show m.flaws = [f]
        rw [hflaws]
        exact flawsOf_eq_singleton_of_isOpen (hflaws ▸ hf) ho
      · exact isEnd_lexeme hm _
      · rw [Munch.size_lexeme]
        rfl
    · obtain ⟨early, hearly, hl'⟩ := ih hl
      exact ⟨_ :: early, congrArg _ hearly, hl'⟩

/-- `d.EndsScan source scan`: the report is about a literal that goes on to the end of the source, and
is the last one. -/
structure Diagnostic.EndsScan (source : String) (scan : Scan) (d : Diagnostic) : Prop where
  /-- No report comes after it. -/
  last : ∃ early, scan.diagnostics = early ++ [d]
  /-- The report is about a token, and no token comes after it but the mark of the end. -/
  token : ∃ ts t mark, scan.tokens = ts ++ [t, mark] ∧ t.isEnd = false ∧ mark.isEnd = true ∧
    d.span = ⟨t.offset, t.offset + t.size⟩
  /-- The report goes on to the end of the source. -/
  stop_eq : d.span.stop = Text.size source

/-- A report about a literal that is not closed ends the scan. -/
theorem endsScan_of_isOpen {settings : Settings} {source : String} {d : Diagnostic}
    (hd : d ∈ (tokenize settings source).diagnostics) (ho : d.isOpen = true) :
    d.EndsScan source (tokenize settings source) := by
  have hdiagnostics : (tokenize settings source).diagnostics =
      if settings.validate then (lexemes settings.functions source).flatMap (·.diagnostics)
      else [] := rfl
  rw [hdiagnostics] at hd
  split at hd
  · rename_i hv
    obtain ⟨l, hl, hd⟩ := List.mem_flatMap.1 hd
    obtain ⟨f, hf, rfl⟩ := List.mem_map.1 hd
    rw [Flaw.isOpen_diagnostic] at ho
    have hrun := run_lexemesFrom settings.functions 0 source.toList
    obtain ⟨early, hall, hflaws, hend, hstop⟩ := hrun.eq_concat_of_isOpen hl hf ho
    rw [Nat.zero_add, Text.byteLength_toList] at hstop
    have hspan : (f.diagnostic l.token.offset l.token.text).span =
        ⟨l.token.offset, l.token.offset + l.token.size⟩ := by
      cases f with
      | hiddenField place field => cases ho
      | _ => rfl
    have hlexemes : lexemes settings.functions source = _ := hall
    refine ⟨⟨early.flatMap (·.diagnostics), ?_⟩,
      ⟨early.map (·.token), l.token, .finish (0 + Text.byteLength source.toList), ?_, hend, rfl,
        hspan⟩, ?_⟩
    · rw [hdiagnostics, if_pos hv, hlexemes, List.flatMap_append]
      simp [Lexeme.diagnostics, hflaws]
    · rw [tokenize, hlexemes]
      simp
    · rw [hspan, hstop]
  · exact absurd hd List.not_mem_nil

/-- In a list in strict order, one member at most can have a property that only a last member has. -/
theorem countP_le_one {ds : List Diagnostic} (h : ds.Pairwise Diagnostic.StartsBefore)
    {p : Diagnostic → Bool} (hp : ∀ d ∈ ds, p d = true → ∃ early, ds = early ++ [d]) :
    ds.countP p ≤ 1 := by
  by_cases hany : ∃ d ∈ ds, p d = true
  · obtain ⟨d, hd, hpd⟩ := hany
    obtain ⟨early, rfl⟩ := hp d hd hpd
    have hnone : early.countP p = 0 := by
      rw [List.countP_eq_zero]
      intro e he hpe
      obtain ⟨early', heq⟩ := hp e (List.mem_append_left _ he) hpe
      obtain ⟨-, rfl⟩ := List.append_singleton_inj.1 heq
      exact absurd ((List.pairwise_append.1 h).2.2 d he d List.mem_cons_self) (Nat.lt_irrefl _)
    rw [List.countP_append, hnone, Nat.zero_add]
    exact List.countP_le_length
  · rw [List.countP_eq_zero.2 fun d hd hpd => hany ⟨d, hd, hpd⟩]
    exact Nat.zero_le 1

/-- **Reports are in order**: the reports of a scan start one behind the other, so that none is made
twice. At most one is about a literal that is not closed. That one is the last report, is about the
last token before the mark of the end, and goes on to the end of the source. -/
theorem diagnostics_in_order (settings : Settings) (source : String) :
    (tokenize settings source).diagnostics.Pairwise (fun d e => d.span.start < e.span.start) ∧
      (tokenize settings source).diagnostics.Nodup ∧
      (tokenize settings source).diagnostics.countP (·.isOpen) ≤ 1 ∧
      ∀ d ∈ (tokenize settings source).diagnostics,
        d.code = some .unclosedBracket ∨ d.code = some .unterminatedString →
          d.EndsScan source (tokenize settings source) := by
  have horder := pairwise_diagnostics settings source
  refine ⟨horder, horder.imp ?_, countP_le_one horder ?_, ?_⟩
  · rintro d e hlt rfl
    exact Nat.lt_irrefl _ hlt
  · intro d hd ho
    exact (endsScan_of_isOpen hd ho).last
  · intro d hd hcode
    exact endsScan_of_isOpen hd (by simpa [Diagnostic.isOpen] using hcode)

/-- For instance, with an accessor that is reported for its last dot and for two fields, and an open
string behind it. -/
example : (tokenize {} "a.b.c. 'd").diagnostics.map (fun d => (d.code, d.span)) =
    [(some .hangingAccessor, ⟨0, 6⟩), (some .unexportedField, ⟨2, 3⟩),
      (some .unexportedField, ⟨4, 5⟩), (some .unterminatedString, ⟨7, 9⟩)] := by
  decide +kernel

end ExprScan
