import ExprScan.Command.Job
import ExprScan.Proofs.ReportOwner

/-!
# Reports can always be shown

To show a report, its span is taken out of the source, and a span that does not fit the source
makes the whole command fail. For the reports of a scan this never happens, whatever the source: a
report has a span that is not empty, lies within the source and one of its tokens, and starts and
ends between characters. What is taken out is the text of the token, or the field of an accessor
that is not exported.

Main statement: `tokenize_diagnostics_located`.
-/

namespace ExprScan

/-! ### Taking out spans -/

theorem SourceFile.extract_of_slice? {f : SourceFile} {s : Span} {piece : String}
    (h : Text.slice? f.content s.start s.stop = some piece) : f.extract s = .ok piece := by
  obtain ⟨hlen, hsize, -⟩ := Text.bounds_of_slice? h
  have hordered : ¬ s.stop < s.start := by omega
  have hinside : ¬ f.size < s.stop := Nat.not_lt.2 hsize
  rw [SourceFile.extract, if_neg hordered, if_neg hinside, h]

/-- Diagnostics that each cut a piece out of the source are located in their order, each with its
piece. -/
theorem Diagnostic.exists_locateAll {f : SourceFile} {ds : List Diagnostic}
    {P : Diagnostic → String → Prop}
    (h : ∀ d ∈ ds, ∃ piece, Text.slice? f.content d.span.start d.span.stop = some piece ∧
      P d piece) :
    ∃ located, Diagnostic.locateAll ds f = .ok located ∧ located.map (·.diagnostic) = ds ∧
      ∀ l ∈ located, P l.diagnostic l.text := by
  induction ds with
  | nil => exact ⟨[], rfl, rfl, List.forall_mem_nil _⟩
  | cons d ds ih =>
    obtain ⟨hd, hds⟩ := List.forall_mem_cons.1 h
    obtain ⟨piece, hslice, hp⟩ := hd
    obtain ⟨located, hall, hmap, hps⟩ := ih hds
    have hlocate : d.locate f = .ok ⟨d, f.position d.span.start, piece⟩ := by
      rw [Diagnostic.locate, SourceFile.extract_of_slice? hslice]
      rfl
    refine ⟨⟨d, f.position d.span.start, piece⟩ :: located, ?_, ?_, ?_⟩
    · rw [Diagnostic.locateAll] at hall ⊢
      rw [List.mapM_cons, hlocate, hall]
      rfl
    · rw [List.map_cons, hmap]
    · exact List.forall_mem_cons.2 ⟨hp, hps⟩

/-! ### Reports of a scan -/

/-- A report that fits the scan of a source. -/
structure Diagnostic.Fits (source : String) (scan : Scan) (d : Diagnostic) : Prop where
  /-- The report is about something. -/
  start_lt_stop : d.span.start < d.span.stop
  /-- The report lies within the source. -/
  stop_le_size : d.span.stop ≤ Text.size source
  /-- The report starts at a boundary. -/
  starts : Text.isBoundary source d.span.start = true
  /-- The report ends at a boundary. -/
  stops : Text.isBoundary source d.span.stop = true
  /-- The report lies within one token and no other. -/
  owner : ∃ t, scan.tokens.filter (·.covers d.span) = [t]

theorem fits_of_mem_diagnostics {settings : Settings} {source : String} {d : Diagnostic}
    (hd : d ∈ (tokenize settings source).diagnostics) :
    d.Fits source (tokenize settings source) := by
  obtain ⟨t, piece, howner, -, hslice, hlt⟩ := exists_owner hd
  obtain ⟨-, hsize, hstart, hstop⟩ := Text.bounds_of_slice? hslice
  exact ⟨hlt, hsize, hstart, hstop, t, howner⟩

/-- The reports of a scan of a file are located in it, each with what it is about. -/
theorem exists_locateAll_tokenize (settings : Settings) (f : SourceFile) :
    ∃ located, Diagnostic.locateAll (tokenize settings f.content).diagnostics f = .ok located ∧
      located.map (·.diagnostic) = (tokenize settings f.content).diagnostics ∧
      ∀ l ∈ located, ∃ t,
        (tokenize settings f.content).tokens.filter (·.covers l.diagnostic.span) = [t] ∧
          About t l.diagnostic l.text := by
  refine Diagnostic.exists_locateAll (P := fun d piece => ∃ t,
    (tokenize settings f.content).tokens.filter (·.covers d.span) = [t] ∧ About t d piece) ?_
  intro d hd
  obtain ⟨t, piece, howner, habout, hslice, -⟩ := exists_owner hd
  exact ⟨piece, hslice, t, howner, habout⟩

/-! ### Jobs -/

theorem Job.exists_located (j : Job) : ∃ ds, j.located = .ok ds := by
  obtain ⟨located, hlocated, -⟩ := exists_locateAll_tokenize j.settings j.file
  refine ⟨located, ?_⟩
  rw [Job.located, Job.scan, hlocated]
  rfl

theorem Job.exists_list (j : Job) : ∃ out err, j.list = .ok (out, err) := by
  cases hf : j.format with
  | text => exact ⟨_, _, by rw [Job.list, hf]; rfl⟩
  | json =>
    obtain ⟨ds, hds⟩ := j.exists_located
    exact ⟨_, _, by rw [Job.list, hf, hds]; rfl⟩

/-- Checking gives an answer in either format, and counts the reports of the scan. -/
theorem Job.exists_check (j : Job) : ∃ out, j.check = .ok (out, j.scan.diagnostics.length) := by
  cases hf : j.format with
  | text => exact ⟨_, by rw [Job.check, hf]; rfl⟩
  | json =>
    obtain ⟨ds, hds⟩ := j.exists_located
    exact ⟨_, by rw [Job.check, hf, hds]; rfl⟩

/-- **Reports can always be shown**: each report of a scan fits the source and lies within one token
of it. All of them are located, in order, each with the text that it is about: the token, or the
field that is not exported. So listing and checking give an answer for every source and in either
format. -/
theorem tokenize_diagnostics_located (settings : Settings) (name content : String) :
    (∀ d ∈ (tokenize settings content).diagnostics,
        d.Fits content (tokenize settings content)) ∧
      (∃ located, Diagnostic.locateAll (tokenize settings content).diagnostics
            (.ofContent name content) = .ok located ∧
          located.map (·.diagnostic) = (tokenize settings content).diagnostics ∧
          ∀ l ∈ located, ∃ t,
            (tokenize settings content).tokens.filter (·.covers l.diagnostic.span) = [t] ∧
              About t l.diagnostic l.text) ∧
      ∀ format,
        (∃ out err, Job.list ⟨.ofContent name content, settings, format⟩ = .ok (out, err)) ∧
          ∃ out count,
            Job.check ⟨.ofContent name content, settings, format⟩ = .ok (out, count) := by
  refine ⟨fun d hd => fits_of_mem_diagnostics hd,
    exists_locateAll_tokenize settings (.ofContent name content), fun format => ⟨?_, ?_⟩⟩
  · exact Job.exists_list ⟨.ofContent name content, settings, format⟩
  · obtain ⟨out, hout⟩ := Job.exists_check ⟨.ofContent name content, settings, format⟩
    exact ⟨out, _, hout⟩

end ExprScan
