import ExprScan.Proofs.LineTable
import ExprScan.Proofs.MaximalMunch
import ExprScan.Proofs.Outcome
import Mathlib.Algebra.Ring.Nat
import Mathlib.Data.List.Basic
import Mathlib.Data.List.Forall2

/-!
# Reports cannot be forged

A report shows words of the scanned text twice: a token in its message, and a whole line of source
above the carets. Neither can pass for a report of its own. A token that is named in a message is an
accessor and has no line feed, so that the message stays on the line of its header; and a line of
source has no line feed either and stands behind a gutter. So who reads the output line by line
finds the headers, all of them and nothing else, by how they start.

Main statement: `renderAll_unforgeable`.
-/

namespace ExprScan

/-! ### Texts and their lines -/

/-- The lines of a text: what stands between its line feeds. -/
def Text.lines (s : String) : List String := (s.toList.splitOn '\n').map String.ofList

/-- A text that is put together from lines has these lines. -/
theorem Text.lines_intercalate {ls : List String} (hne : ls ≠ [])
    (h : ∀ l ∈ ls, '\n' ∉ l.toList) : Text.lines ("\n".intercalate ls) = ls := by
  have hall : ∀ cs ∈ ls.map String.toList, '\n' ∉ cs := by simpa using h
  have hsep : "\n".toList = ['\n'] := rfl
  rw [Text.lines, String.toList_intercalate, hsep,
    List.splitOn_intercalate '\n' hall (by simpa using hne), List.map_map]
  simp [Function.comp_def]

theorem Text.length_lines (s : String) : (Text.lines s).length = s.toList.count '\n' + 1 := by
  rw [Text.lines, List.length_map]
  induction s.toList with
  | nil => rfl
  | cons c cs ih =>
    rw [List.splitOn_cons_eq_if_modifyHead, List.count_cons]
    split
    · rw [List.length_cons, ih]
    · rw [List.length_modifyHead, ih, Nat.add_zero]

theorem Text.count_intercalate {ls : List String} (hne : ls ≠ [])
    (h : ∀ l ∈ ls, '\n' ∉ l.toList) :
    ("\n".intercalate ls).toList.count '\n' + 1 = ls.length := by
  rw [← Text.length_lines, Text.lines_intercalate hne h]

theorem Text.intercalate_concat_empty (ls : List String) :
    "\n".intercalate (ls ++ [""]) = String.join (ls.map (· ++ "\n")) := by
  induction ls with
  | nil => rfl
  | cons l ls ih =>
    rw [List.cons_append, String.intercalate_cons_of_ne_nil (by simp), ih, List.map_cons,
      String.join_cons]

/-- Putting blocks of lines together, and then the blocks, is putting all lines together. -/
theorem Text.intercalate_map_intercalate {α : Type} (block : α → List String) (xs : List α)
    (hne : ∀ x ∈ xs, block x ≠ []) :
    "\n".intercalate (xs.map fun x => "\n".intercalate (block x)) =
      "\n".intercalate (xs.flatMap block) := by
  induction xs with
  | nil => rfl
  | cons x xs ih =>
    obtain ⟨hx, hxs⟩ := List.forall_mem_cons.1 hne
    cases xs with
    | nil => simp
    | cons y ys =>
      have hmore : (y :: ys).flatMap block ≠ [] := by
        simp [hxs y List.mem_cons_self]
      have hcons : (x :: y :: ys).flatMap block = block x ++ (y :: ys).flatMap block :=
        List.flatMap_cons
      rw [List.map_cons, String.intercalate_cons_of_ne_nil (by simp), ih hxs, hcons,
        String.intercalate_append_of_ne_nil hx hmore]

/-! ### Rows of a block -/

theorem Text.eq_or_mem_of_mem_padLeft {width : Nat} {fill c : Char} {cs : List Char}
    (h : c ∈ Text.padLeft width fill cs) : c = fill ∨ c ∈ cs := by
  rw [Text.padLeft, List.mem_append, List.mem_replicate] at h
  exact h.imp And.right id

theorem Text.isDigit_of_mem_decimal {n : Nat} {c : Char} (h : c ∈ Text.decimal n) :
    c.isDigit = true := Nat.isDigit_of_mem_toDigits (by decide) (by decide) h

namespace Snippet

theorem eq_space_or_isDigit {s : Snippet} {c : Char}
    (h : c ∈ Text.padLeft s.gutterWidth ' ' (Text.decimal s.lineNumber)) :
    c = ' ' ∨ c.isDigit = true :=
  (Text.eq_or_mem_of_mem_padLeft h).imp id Text.isDigit_of_mem_decimal

theorem head?_sourceRow (s : Snippet) :
    ∃ c, s.sourceRow.head? = some c ∧ (c = ' ' ∨ c.isDigit = true) := by
  have hne : Text.padLeft s.gutterWidth ' ' (Text.decimal s.lineNumber) ≠ [] := by
    simp [Text.padLeft, Text.decimal]
  obtain ⟨c, more, hgutter⟩ := List.exists_cons_of_ne_nil hne
  have hc : c ∈ Text.padLeft s.gutterWidth ' ' (Text.decimal s.lineNumber) := by
    rw [hgutter]
    exact List.mem_cons_self
  exact ⟨c, by rw [sourceRow, hgutter]; rfl, eq_space_or_isDigit hc⟩

theorem lineFeed_notMem_sourceRow {s : Snippet} (h : '\n' ∉ s.line.toList) :
    '\n' ∉ s.sourceRow := by
  intro hmem
  rw [sourceRow, List.mem_append, List.mem_append] at hmem
  rcases hmem with (hmem | hmem) | hmem
  · exact absurd (eq_space_or_isDigit hmem) (by decide)
  · exact absurd hmem (by decide)
  · exact h hmem

theorem head?_caretRow (s : Snippet) : s.caretRow.head? = some ' ' := by
  have hwidth : s.gutterWidth = (s.gutterWidth - 1) + 1 := by
    have hmax : 3 ≤ s.gutterWidth := Nat.le_max_left _ _
    omega
  rw [caretRow, hwidth, List.replicate_succ]
  rfl

theorem lineFeed_notMem_caretRow (s : Snippet) : '\n' ∉ s.caretRow := by
  simp [caretRow, bar, List.mem_replicate]

end Snippet

/-! ### Blocks -/

namespace Diagnostic

variable {d : Diagnostic} {code : Code} {f : SourceFile}

/-- The lines of the block that shows a diagnostic, with the empty one behind its last line feed. -/
def lines (d : Diagnostic) (f : SourceFile) : List String :=
  d.header :: d.place f ::
    (((d.snippet? f).elim [] fun s => [String.ofList s.sourceRow, String.ofList s.caretRow]) ++
      d.helps.map helpLine ++ [""])

theorem render_eq_intercalate (d : Diagnostic) (f : SourceFile) :
    d.render f = "\n".intercalate (d.lines f) := by
  have hlines : d.lines f = (d.header :: d.place f ::
      (((d.snippet? f).elim [] fun s => [String.ofList s.sourceRow, String.ofList s.caretRow]) ++
        d.helps.map helpLine)) ++ [""] := rfl
  rw [hlines, Text.intercalate_concat_empty, render]
  cases d.snippet? f with
  | none => simp [String.append_assoc, Function.comp_def]
  | some s => simp [Snippet.rows, String.append_assoc, Function.comp_def]

/-- A block has four lines and one for each piece of advice, and the empty one. -/
theorem exists_lines_eq (d : Diagnostic) (f : SourceFile) :
    ∃ s : Snippet, '\n' ∉ s.line.toList ∧
      d.lines f = [d.header, d.place f, String.ofList s.sourceRow, String.ofList s.caretRow] ++
        d.helps.map helpLine ++ [""] := by
  obtain ⟨line, hline, hfeed⟩ :=
    f.exists_lineAt? (f.lineIndex_lt (min d.span.start f.size))
  have hsnippet : ∃ s : Snippet, d.snippet? f = some s ∧ s.line = line := by
    rw [snippet?, show f.lineAt? (f.position d.span.start).line = some line from hline]
    exact ⟨_, rfl, rfl⟩
  obtain ⟨s, hs, rfl⟩ := hsnippet
  exact ⟨s, hfeed, by rw [lines, hs]; rfl⟩

/-- A diagnostic that is shown as an error with a code, and whose words have no line feed. -/
structure Plain (d : Diagnostic) (code : Code) : Prop where
  /-- It is an error. -/
  level : d.level = .error
  /-- It has the code. -/
  code_eq : d.code = some code
  /-- The code is written on one line. -/
  code_line : '\n' ∉ code.render.toList
  /-- The message is written on one line. -/
  message_line : '\n' ∉ d.message.toList
  /-- Each piece of advice is written on one line. -/
  help_line : ∀ advice ∈ d.helps, '\n' ∉ advice.toList

theorem Plain.header_eq (h : d.Plain code) :
    d.header = "error[" ++ code.render ++ "]: " ++ d.message := by
  rw [header, h.code_eq, h.level]
  rfl

theorem Plain.lineFeed_notMem (h : d.Plain code) (hname : '\n' ∉ f.name.toList) {l : String}
    (hl : l ∈ d.lines f) : '\n' ∉ l.toList := by
  obtain ⟨s, hs, hlines⟩ := d.exists_lines_eq f
  have hnumber : ∀ n : Nat, '\n' ∉ Nat.toDigits 10 n := by
    intro n hmem
    exact absurd (Text.isDigit_of_mem_decimal hmem) (by decide)
  rw [hlines] at hl
  simp only [List.mem_append, List.mem_cons, List.not_mem_nil, or_false, List.mem_map] at hl
  rcases hl with ((rfl | rfl | rfl | rfl) | ⟨advice, hadvice, rfl⟩) | rfl
  · rw [h.header_eq]
    simp [h.code_line, h.message_line]
  · simp [place, hname, hnumber]
  · rw [String.toList_ofList]
    exact Snippet.lineFeed_notMem_sourceRow hs
  · rw [String.toList_ofList]
    exact s.lineFeed_notMem_caretRow
  · simp [helpLine, Level.label, h.help_line advice hadvice]
  · exact List.not_mem_nil

theorem startsWith_eq_false {l : String} (h : l.toList.head? ≠ some 'e') :
    l.startsWith "error[" = false := by
  rw [String.startsWith_string_eq_false_iff]
  rintro ⟨more, hmore⟩
  exact h (by rw [← hmore]; rfl)

/-- In the block of a plain diagnostic, the header and no other line starts as a header does. -/
theorem Plain.filter_lines (h : d.Plain code) (f : SourceFile) :
    (d.lines f).filter (·.startsWith "error[") = [d.header] := by
  obtain ⟨s, -, hlines⟩ := d.exists_lines_eq f
  have hheader : d.header.startsWith "error[" = true := by
    rw [String.startsWith_string_iff, h.header_eq]
    simp
  rw [hlines, List.cons_append, List.cons_append, List.filter_cons, if_pos hheader,
    List.filter_eq_nil_iff.2]
  intro l hl
  rw [Bool.not_eq_true]
  refine startsWith_eq_false ?_
  simp only [List.mem_append, List.mem_cons, List.not_mem_nil, or_false, List.mem_map] at hl
  rcases hl with ((rfl | rfl | rfl) | ⟨advice, -, rfl⟩) | rfl
  · simp [place]
  · obtain ⟨c, hhead, hc⟩ := s.head?_sourceRow
    rw [String.toList_ofList, hhead]
    rintro ⟨⟩
    exact absurd hc (by decide)
  · simp [s.head?_caretRow]
  · simp [helpLine]
  · simp

/-! ### All blocks -/

variable {ds : List Diagnostic}

/-- The lines of several plain diagnostics are those of their blocks. -/
theorem lines_renderAll (hne : ds ≠ []) (hplain : ∀ d ∈ ds, ∃ code, d.Plain code)
    (hname : '\n' ∉ f.name.toList) :
    Text.lines (renderAll ds f) = ds.flatMap (·.lines f) ∧
      (renderAll ds f).toList.count '\n' + 1 = (ds.flatMap (·.lines f)).length := by
  have hfeed : ∀ l ∈ ds.flatMap (·.lines f), '\n' ∉ l.toList := by
    intro l hl
    obtain ⟨d, hd, hl⟩ := List.mem_flatMap.1 hl
    obtain ⟨code, h⟩ := hplain d hd
    exact h.lineFeed_notMem hname hl
  have hall : renderAll ds f = "\n".intercalate (ds.flatMap (·.lines f)) := by
    have hblock : (fun d : Diagnostic => d.render f) = fun d => "\n".intercalate (d.lines f) :=
      funext fun d => d.render_eq_intercalate f
    rw [renderAll, hblock]
    exact Text.intercalate_map_intercalate _ ds fun d _ => List.cons_ne_nil _ _
  have hlines : ds.flatMap (·.lines f) ≠ [] := by
    obtain ⟨d, ds, rfl⟩ := List.exists_cons_of_ne_nil hne
    simp [lines]
  rw [hall]
  exact ⟨Text.lines_intercalate hlines hfeed, Text.count_intercalate hlines hfeed⟩

/-- Of the lines of several plain diagnostics, those that start as a header does are the headers. -/
theorem filter_flatMap_lines (hplain : ∀ d ∈ ds, ∃ code, d.Plain code) (f : SourceFile) :
    (ds.flatMap (·.lines f)).filter (·.startsWith "error[") = ds.map (·.header) := by
  induction ds with
  | nil => rfl
  | cons d ds ih =>
    obtain ⟨⟨code, h⟩, hds⟩ := List.forall_mem_cons.1 hplain
    rw [List.flatMap_cons, List.filter_append, h.filter_lines f, ih hds]
    rfl

theorem length_flatMap_lines (ds : List Diagnostic) (f : SourceFile) :
    (ds.flatMap (·.lines f)).length = (ds.map fun d => 4 + d.helps.length).sum + ds.length := by
  induction ds with
  | nil => rfl
  | cons d ds ih =>
    obtain ⟨s, -, hlines⟩ := d.exists_lines_eq f
    rw [List.flatMap_cons, List.length_append, ih, hlines]
    simp
    omega

end Diagnostic

/-! ### Reports of a scan -/

theorem kind_of_hangingDot_mem {kind : Kind} {text : List Char}
    (h : .hangingDot ∈ flawsOf kind text) : kind = .accessor := by
  by_contra hne
  unfold flawsOf at h
  split at h
  · split_ifs at h <;> simp at h
  · split_ifs at h <;> simp at h
  · exact hne rfl
  · exact absurd h List.not_mem_nil

/-- Only accessors are named in messages, so that a message has no line feed unless an accessor has
one. -/
theorem lineFeed_notMem_message {kind : Kind} {text : String} {f : Flaw}
    (hf : f ∈ flawsOf kind text.toList) (hword : kind = .accessor → '\n' ∉ text.toList) :
    '\n' ∉ (f.message text).toList := by
  cases f with
  | noHexDigit => exact (by decide : '\n' ∉ "hexadecimal digit expected".toList)
  | noDigit => exact (by decide : '\n' ∉ "numeric literal expected".toList)
  | openBracket => exact (by decide : '\n' ∉ "unclosed parameter bracket".toList)
  | openString => exact (by decide : '\n' ∉ "unclosed string literal".toList)
  | hangingDot =>
    show '\n' ∉ ("hanging accessor on token `" ++ text ++ "`").toList
    simp [hword (kind_of_hangingDot_mem hf)]
  | hiddenField place name =>
    rcases mem_flawsOf hf with ⟨hcode, -⟩ | ⟨hkind, _, field, heq, hfield⟩
    · exact absurd hcode (show Code.unexportedField ∉ tokenCodes by decide)
    · obtain ⟨-, rfl⟩ := Flaw.hiddenField.inj heq
      obtain ⟨before, after, htext, -⟩ := hfield.stands
      have hname : '\n' ∉ field := by
        intro hmem
        exact hword hkind (by simp [htext, hmem])
      show '\n' ∉ ("unable to access unexported field '" ++ String.ofList field ++
        "' in token '" ++ text ++ "'").toList
      simp [hword hkind, hname]

theorem Flaw.lineFeed_notMem_render_code (f : Flaw) : '\n' ∉ f.code.render.toList := by
  have hcodes : ∀ code ∈ Code.unexportedField :: tokenCodes, '\n' ∉ code.render.toList := by
    decide
  refine hcodes f.code ?_
  cases f <;> simp [Flaw.code, tokenCodes]

theorem Flaw.lineFeed_notMem_of_mem_helps {f : Flaw} {advice : String} (h : advice ∈ f.helps) :
    '\n' ∉ advice.toList := by
  cases f with
  | hangingDot => simp [List.mem_singleton.1 h]
  | hiddenField place field => simp [List.mem_singleton.1 h]
  | _ => exact absurd h List.not_mem_nil

theorem exists_plain_of_mem_diagnostics {settings : Settings} {source : String} {d : Diagnostic}
    (hd : d ∈ (tokenize settings source).diagnostics) : ∃ code, d.Plain code := by
  obtain ⟨t, ht, hd⟩ := exists_mem_reports hd
  obtain ⟨l, hl, rfl⟩ := List.mem_map.1 ht
  obtain ⟨f, hf, rfl⟩ := List.mem_map.1 hd
  have hrun := run_lexemesFrom settings.functions 0 source.toList
  exact ⟨f.code, rfl, rfl, f.lineFeed_notMem_render_code,
    lineFeed_notMem_message hf fun hk hmem =>
      absurd (hrun.isSpace_eq_false hl (by simp [hk]) hmem) (by decide),
    fun advice => f.lineFeed_notMem_of_mem_helps⟩

/-- **Reports cannot be forged**: if a scan reports anything, then of the lines that a check prints
in the text format, those that start as a header does are the headers of the reports, one for each
in their order, with the code and the whole message. The text has a line feed for each line of the
blocks and one between two blocks, and no more. -/
theorem renderAll_unforgeable (settings : Settings) {name : String} (content : String)
    (hname : '\n' ∉ name.toList) (hne : (tokenize settings content).diagnostics ≠ []) :
    (CommandLine.Command.check.execute ⟨.ofContent name content, settings, .text⟩).out =
        Diagnostic.renderAll (tokenize settings content).diagnostics (.ofContent name content) ∧
      List.Forall₂
        (fun d line => ∃ code, d.code = some code ∧
          line = "error[" ++ code.render ++ "]: " ++ d.message)
        (tokenize settings content).diagnostics
        ((Text.lines (Diagnostic.renderAll (tokenize settings content).diagnostics
          (.ofContent name content))).filter (·.startsWith "error[")) ∧
      (Diagnostic.renderAll (tokenize settings content).diagnostics
          (.ofContent name content)).toList.count '\n' =
        ((tokenize settings content).diagnostics.map fun d => 4 + d.helps.length).sum +
          ((tokenize settings content).diagnostics.length - 1) := by
  have hplain : ∀ d ∈ (tokenize settings content).diagnostics, ∃ code, d.Plain code :=
    fun d hd => exists_plain_of_mem_diagnostics hd
  obtain ⟨hlines, hcount⟩ :=
    Diagnostic.lines_renderAll (f := .ofContent name content) hne hplain hname
  refine ⟨?_, ?_, ?_⟩
  · have hdirty : ¬ (tokenize settings content).isClean = true := by
      simpa [Scan.isClean] using hne
    rw [CommandLine.out_execute_check rfl]
    exact if_neg hdirty
  · rw [hlines, Diagnostic.filter_flatMap_lines hplain, List.forall₂_map_right_iff,
      List.forall₂_same]
    intro d hd
    obtain ⟨code, h⟩ := hplain d hd
    exact ⟨code, h.code_eq, h.header_eq⟩
  · have hpos : 0 < (tokenize settings content).diagnostics.length := List.length_pos_iff.2 hne
    rw [Diagnostic.length_flatMap_lines] at hcount
    omega

/-- For instance for a string that is not closed and holds a line that looks like a header: there
are two headers and ten line feeds. -/
theorem renderAll_unforgeable_imitation :
    '\n' ∉ "rule.expr".toList ∧ (tokenize {} "a.b '\nerror[E1001]: c").diagnostics ≠ [] ∧
      (∃ first second,
        (Text.lines (Diagnostic.renderAll (tokenize {} "a.b '\nerror[E1001]: c").diagnostics
          (.ofContent "rule.expr" "a.b '\nerror[E1001]: c"))).filter (·.startsWith "error[") =
            [first, second]) ∧
      (Diagnostic.renderAll (tokenize {} "a.b '\nerror[E1001]: c").diagnostics
        (.ofContent "rule.expr" "a.b '\nerror[E1001]: c")).toList.count '\n' = 10 := by
  have hname : '\n' ∉ "rule.expr".toList := by decide
  have hne : (tokenize {} "a.b '\nerror[E1001]: c").diagnostics ≠ [] := by decide +kernel
  have hhelps : (tokenize {} "a.b '\nerror[E1001]: c").diagnostics.map (4 + ·.helps.length) =
      [5, 4] := by decide +kernel
  have hlength : (tokenize {} "a.b '\nerror[E1001]: c").diagnostics.length = 2 := by
    simpa using congrArg List.length hhelps
  obtain ⟨-, hheaders, hcount⟩ := renderAll_unforgeable {} "a.b '\nerror[E1001]: c" hname hne
  refine ⟨hname, hne, List.length_eq_two.1 (hheaders.length_eq ▸ hlength), ?_⟩
  rw [hcount, hhelps, hlength]
  rfl

end ExprScan
