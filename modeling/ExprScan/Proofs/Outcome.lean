import ExprScan.CommandLine.Run
import ExprScan.Proofs.Located

/-!
# Checking and listing agree

A check ends with an exit code that scripts rely on: 1 if the scan reports anything, 0 if it does
not. Whether it does must not depend on the format, although only one of the two formats takes
spans out of the source, which could fail. Listing succeeds in any case, and in the text format
shows beside the tokens what a check shows.

Main statement: `execute_check_lex`.
-/

namespace ExprScan

/-! ### Reports as text -/

theorem Diagnostic.render_ne_empty (d : Diagnostic) (f : SourceFile) : d.render f ≠ "" := by
  intro h
  have hline : '\n' ∈ (d.render f).toList := by simp [Diagnostic.render]
  rw [h] at hline
  exact absurd hline List.not_mem_nil

theorem Diagnostic.renderAll_eq_empty_iff {ds : List Diagnostic} {f : SourceFile} :
    Diagnostic.renderAll ds f = "" ↔ ds = [] := by
  cases ds with
  | nil => simp [Diagnostic.renderAll]
  | cons d ds =>
    have hne := d.render_ne_empty f
    cases ds with
    | nil => simpa [Diagnostic.renderAll] using hne
    | cons e ds => simp [Diagnostic.renderAll, hne]

namespace CommandLine

/-! ### Results of the commands -/

/-- A check fails if the scan reports anything, and in no other way. -/
theorem execute_check (j : Job) :
    ∃ out, Command.check.execute j = ⟨out, "",
      if 0 < j.scan.diagnostics.length then some (.problems j.scan.diagnostics.length)
      else none⟩ := by
  obtain ⟨out, hout⟩ := j.exists_check
  exact ⟨out, by rw [Command.execute, hout]⟩

/-- A check in the text format shows that all is well, or the reports. -/
theorem out_execute_check {j : Job} (hf : j.format = .text) :
    (Command.check.execute j).out =
      if j.scan.isClean then j.file.name ++ ": ok\n"
      else Diagnostic.renderAll j.scan.diagnostics j.file := by
  rw [Command.execute, Job.check, hf]
  rfl

theorem execute_lex (j : Job) : ∃ out err, Command.lex.execute j = ⟨out, err, none⟩ := by
  obtain ⟨out, err, hout⟩ := j.exists_list
  exact ⟨out, err, by rw [Command.execute, hout]⟩

/-- A listing in the text format shows the reports beside the tokens. -/
theorem err_execute_lex {j : Job} (hf : j.format = .text) :
    (Command.lex.execute j).err = Diagnostic.renderAll j.scan.diagnostics j.file := by
  rw [Command.execute, Job.list, hf]
  rfl

/-! ### Agreement -/

/-- How a check ends, for a scan with the given number of reports. -/
structure Checked (j : Job) (count : Nat) (r : Result) : Prop where
  /-- It fails on account of the reports if there are any. -/
  problems : r.failure = some (.problems count) ↔ 0 < count
  /-- It succeeds if there are none, and there is no third way. -/
  success : r.failure = none ↔ count = 0
  /-- The exit code tells the two apart, and all that is printed goes to the standard output. -/
  outcome : r.outcome = .finished (if 0 < count then 1 else 0) r.out ""
  /-- A success is told in words in the text format. -/
  ok : count = 0 → j.format = .text → r.out = j.file.name ++ ": ok\n"

theorem checked_execute (j : Job) :
    Checked j j.scan.diagnostics.length (Command.check.execute j) := by
  obtain ⟨out, hout⟩ := execute_check j
  by_cases hcount : 0 < j.scan.diagnostics.length
  · rw [if_pos hcount] at hout
    refine ⟨?_, ?_, ?_, fun h₀ => absurd hcount (by omega)⟩
    · simp [hout, hcount]
    · simp [hout, Nat.ne_of_gt hcount]
    · rw [hout, if_pos hcount]
      rfl
  · have hzero : j.scan.diagnostics.length = 0 := by omega
    rw [if_neg hcount] at hout
    refine ⟨?_, ?_, ?_, fun _ hf => ?_⟩
    · simp [hout, hcount]
    · simp [hout, hzero]
    · rw [hout, if_neg hcount]
      rfl
    · have hclean : j.scan.isClean = true := by
        rw [Scan.isClean, List.length_eq_zero_iff.1 hzero]
        rfl
      rw [out_execute_check hf, if_pos hclean]

/-- **Checking and listing agree**: a check fails with the number of reports, and the exit code 1,
if there are reports, and succeeds otherwise, in either format. A listing succeeds. In the text
format it prints nothing on the standard error output if there are no reports, and otherwise what
the check prints. -/
theorem execute_check_lex (j : Job) :
    Checked j j.scan.diagnostics.length (Command.check.execute j) ∧
      (∀ format, (Command.check.execute { j with format }).failure =
        (Command.check.execute j).failure) ∧
      (Command.lex.execute j).failure = none ∧
      (Command.lex.execute j).outcome =
        .finished 0 (Command.lex.execute j).out (Command.lex.execute j).err ∧
      (j.format = .text →
        ((Command.lex.execute j).err = "" ↔ j.scan.diagnostics.length = 0) ∧
          (0 < j.scan.diagnostics.length →
            (Command.lex.execute j).err = (Command.check.execute j).out)) := by
  obtain ⟨out, err, hlex⟩ := execute_lex j
  refine ⟨checked_execute j, fun format => ?_, by rw [hlex], by rw [hlex]; rfl, fun hf => ⟨?_, ?_⟩⟩
  · obtain ⟨out, hout⟩ := execute_check j
    obtain ⟨out', hout'⟩ := execute_check { j with format }
    rw [hout, hout']
    rfl
  · rw [err_execute_lex hf, Diagnostic.renderAll_eq_empty_iff, List.length_eq_zero_iff]
  · intro hcount
    have hdirty : ¬ j.scan.isClean = true := by
      rw [Scan.isClean, List.isEmpty_iff]
      exact List.length_pos_iff.1 hcount
    rw [err_execute_lex hf, out_execute_check hf, if_neg hdirty]

end CommandLine

end ExprScan
