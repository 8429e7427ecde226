import ExprScan.Proofs.Reports

/-!
# Scanning has no memory

Between two tokens a scan knows its position and nothing else. So a scan can be taken up again at
the start or at the end of any token, on the rest of the text alone, and gives the same tokens and
the same reports from there on, less the position.

Main statement: `tokenize_restart`.
-/

namespace ExprScan

variable {functions : NameSet} {offset : Nat} {cs : List Char} {ls : List Lexeme} {c : Char}
  {m : Munch}

/-! ### Moving a text -/

/-- The token moved to the right, with what is wrong with it. -/
def Lexeme.shift (l : Lexeme) (n : Nat) : Lexeme := { l with token := l.token.shift n }

theorem Flaw.span_add (f : Flaw) (start n : Nat) (text : String) :
    f.span (start + n) text = (f.span start text).shift n := by
  cases f with
  | hiddenField place field =>
    simp only [Flaw.span, Span.shift, Span.mk.injEq]
    omega
  | _ => exact congrArg (Span.mk _) (Nat.add_right_comm _ _ _)

theorem Lexeme.diagnostics_shift (l : Lexeme) (n : Nat) :
    (l.shift n).diagnostics = l.diagnostics.map (·.shift n) := by
  rw [Lexeme.diagnostics, Lexeme.diagnostics, List.map_map]
  refine List.map_congr_left fun f _ => ?_
  simp only [Function.comp, Lexeme.shift, Token.shift, Flaw.diagnostic, Diagnostic.shift,
    Flaw.span_add]

/-- A text that starts further right has its tokens further right. -/
theorem Run.shift (h : Run functions offset cs ls) (n : Nat) :
    Run functions (offset + n) cs (ls.map (·.shift n)) := by
  induction h with
  | @finish offset blanks hb =>
    have hfinish : Run functions (offset + n) blanks _ := .finish hb
    rw [Nat.add_right_comm] at hfinish
    exact hfinish
  | @token offset blanks cs c m ls hb hc hm next ih =>
    rw [Nat.add_right_comm, Nat.add_right_comm offset] at ih
    have htoken := Run.token hb hc hm ih
    rw [Nat.add_right_comm] at htoken
    exact htoken

/-- A run over a text that starts at a later offset gives the tokens and the reports of the text on
its own, moved to the offset. -/
theorem Run.eq_map_shift {settings : Settings} {text : String}
    (h : Run settings.functions offset text.toList ls) :
    ls.map (·.token) = (tokenize settings text).tokens.map (·.shift offset) ∧
      (if settings.validate then ls.flatMap (·.diagnostics) else []) =
        (tokenize settings text).diagnostics.map (·.shift offset) := by
  have hls : ls = (lexemes settings.functions text).map (·.shift offset) := by
    have hshift := (run_lexemesFrom settings.functions 0 text.toList).shift offset
    rw [Nat.zero_add] at hshift
    rw [h.eq_lexemesFrom, ← hshift.eq_lexemesFrom]
    rfl
  constructor
  · rw [hls, tokenize, List.map_map, List.map_map]
    rfl
  · rw [hls, tokenize, List.flatMap_map]
    cases settings.validate with
    | false => rfl
    | true => simp only [if_true, Lexeme.diagnostics_shift, List.map_flatMap]

/-! ### Where tokens and reports start -/

theorem Lexeme.offset_le_start {l : Lexeme} {d : Diagnostic} (hd : d ∈ l.diagnostics) :
    l.token.offset ≤ d.span.start := by
  obtain ⟨f, -, rfl⟩ := List.mem_map.1 hd
  cases f with
  | hiddenField place field => exact Nat.le_add_right _ _
  | _ => exact Nat.le_refl _

theorem lt_byteLength_of_mem_flawsOf {kind : Kind} {text : List Char} {place : Nat}
    {field : String} (h : .hiddenField place field ∈ flawsOf kind text) :
    place < Text.byteLength text := by
  rcases mem_flawsOf h with ⟨hcode, -⟩ | ⟨-, place', piece, h', hidden⟩
  · exact absurd hcode (show Code.unexportedField ∉ tokenCodes by decide)
  · obtain ⟨rfl, rfl⟩ := Flaw.hiddenField.inj h'
    have hpos : Text.byteLength piece ≠ 0 := fun h₀ =>
      hidden.ne_nil (Text.byteLength_eq_zero_iff.1 h₀)
    have hle := hidden.add_byteLength_le
    omega

/-! ### Taking up a scan -/

/-- A token that lies before byte `p`, with all that is reported of it. -/
def Lexeme.Before (p : Nat) (l : Lexeme) : Prop :=
  l.token.offset < p ∧ ∀ d ∈ l.diagnostics, d.span.start < p

theorem before_lexeme (hm : m = (Rule.ofChar c).munch functions [] (c :: cs)) {p : Nat}
    (hp : offset + Text.byteLength m.taken ≤ p) : (m.lexeme offset).Before p := by
  have hlt : offset < p :=
    (Nat.lt_add_of_pos_right (Munch.byteLength_taken_pos hm)).trans_le hp
  refine ⟨hlt, fun d hd => ?_⟩
  obtain ⟨f, hf, rfl⟩ := List.mem_map.1 hd
  cases f with
  | hiddenField place field =>
    have hplace : .hiddenField place field ∈ flawsOf m.kind m.taken := by
      rw [hm, ← Rule.flaws_munch, ← hm]
      exact hf
    exact (Nat.add_lt_add_left (lt_byteLength_of_mem_flawsOf hplace) offset).trans_le hp
  | _ => exact hlt

/-- A run can be taken up where one of its tokens starts or ends: what is left of the text has a run
of its own, which gives the tokens that are left. -/
theorem Run.exists_run_from (h : Run functions offset cs ls) {l : Lexeme} (hl : l ∈ ls) {p : Nat}
    (hp : p = l.token.offset ∨ p = l.token.offset + l.token.size) :
    ∃ passed left early late, cs = passed ++ left ∧ offset + Text.byteLength passed = p ∧
      ls = early ++ late ∧ (∀ e ∈ early, e.Before p) ∧ Run functions p left late := by
  induction h with
  | @finish offset blanks hb =>
    obtain rfl : p = offset + Text.byteLength blanks := by
      rw [List.mem_singleton.1 hl] at hp
      exact hp.elim id id
    have hend : Run functions (offset + Text.byteLength blanks) [] _ := .finish (by simp)
    exact ⟨blanks, [], [], _, (List.append_nil _).symm, rfl, rfl, by simp, hend⟩
  | @token offset blanks cs c m ls hb hc hm next ih =>
    have hcut := Munch.eq_taken_append hm
    rcases List.mem_cons.1 hl with rfl | hl
    · rcases hp with rfl | rfl
      · -- at its start, the token is what comes next
        have hrun : Run functions (offset + Text.byteLength blanks) ([] ++ c :: cs) _ :=
          .token (by simp) hc hm next
        exact ⟨blanks, c :: cs, [], _, rfl, rfl, rfl, by simp, hrun⟩
      · rw [Munch.size_lexeme]
        refine ⟨blanks ++ m.taken, m.rest, [m.lexeme (offset + Text.byteLength blanks)], ls, ?_, ?_,
          rfl, ?_, next⟩
        · rw [hcut, List.append_assoc]
        · rw [Text.byteLength_append, ← Nat.add_assoc]
          rfl
        · intro e he
          rw [List.mem_singleton.1 he]
          exact before_lexeme hm (Nat.le_refl _)
    · obtain ⟨passed, left, early, late, hsplit, hlen, hls, hearly, hrun⟩ := ih hl
      refine ⟨blanks ++ m.taken ++ passed, left,
        m.lexeme (offset + Text.byteLength blanks) :: early, late, ?_, ?_, ?_, ?_, hrun⟩
      · rw [hcut, hsplit]
        simp
      · rw [← hlen]
        simp [Nat.add_assoc]
      · rw [hls, List.cons_append]
      · intro e he
        rcases List.mem_cons.1 he with rfl | he
        · exact before_lexeme hm (by omega)
        · exact hearly e he

theorem Run.filter_append {p : Nat} {early late : List Lexeme} (h : Run functions p cs late)
    (hearly : ∀ e ∈ early, e.Before p) :
    ((early ++ late).map (·.token)).filter (fun t => p ≤ t.offset) = late.map (·.token) ∧
      ((early ++ late).flatMap (·.diagnostics)).filter (fun d => p ≤ d.span.start) =
        late.flatMap (·.diagnostics) := by
  constructor
  · rw [List.map_append, List.filter_append, List.filter_eq_nil_iff.2, List.nil_append,
      List.filter_eq_self.2]
    · intro t ht
      obtain ⟨l, hl, rfl⟩ := List.mem_map.1 ht
      exact decide_eq_true (h.le_offset hl)
    · intro t ht
      obtain ⟨e, he, rfl⟩ := List.mem_map.1 ht
      simpa using (hearly e he).1
  · rw [List.flatMap_append, List.filter_append, List.filter_eq_nil_iff.2, List.nil_append,
      List.filter_eq_self.2]
    · intro d hd
      obtain ⟨l, hl, hd⟩ := List.mem_flatMap.1 hd
      exact decide_eq_true ((h.le_offset hl).trans (Lexeme.offset_le_start hd))
    · intro d hd
      obtain ⟨e, he, hd⟩ := List.mem_flatMap.1 hd
      simpa using (hearly e he).2 d hd

/-- **A scan can be taken up at any token**: at a byte where a token of a text starts or ends, the
text can be cut, and what is left of it, scanned on its own and moved to that byte, has the tokens
of the whole text that start there or later and the reports that lie there or later. -/
theorem tokenize_restart (settings : Settings) (source : String) {t : Token}
    (ht : t ∈ (tokenize settings source).tokens) {p : Nat}
    (hp : p = t.offset ∨ p = t.offset + t.size) :
    ∃ left, Text.slice? source p (Text.size source) = some left ∧
      (tokenize settings left).tokens.map (·.shift p) =
        (tokenize settings source).tokens.filter (fun t => p ≤ t.offset) ∧
      (tokenize settings left).diagnostics.map (·.shift p) =
        (tokenize settings source).diagnostics.filter (fun d => p ≤ d.span.start) := by
  have hrun := run_lexemesFrom settings.functions 0 source.toList
  obtain ⟨l, hl, rfl⟩ := List.mem_map.1 ht
  obtain ⟨passed, left, early, late, hsource, hlen, hls, hearly, hlate⟩ :=
    hrun.exists_run_from hl hp
  obtain ⟨htokens, hdiagnostics⟩ := hlate.filter_append hearly
  have hscan : Run settings.functions p (String.ofList left).toList late := by
    rwa [String.toList_ofList]
  obtain ⟨htokens', hdiagnostics'⟩ := hscan.eq_map_shift
  refine ⟨String.ofList left, ?_, ?_, ?_⟩
  · have hsize : Text.size source = Text.byteLength passed + Text.byteLength left := by
      rw [← Text.byteLength_toList, hsource, Text.byteLength_append]
    rw [Nat.zero_add] at hlen
    rw [hsize, ← hlen]
    exact Text.slice?_of_toList (by rw [List.append_nil, hsource])
  · rw [← htokens', ← htokens, ← hls]
    rfl
  · rw [← hdiagnostics', ← hdiagnostics, ← hls, tokenize]
    cases settings.validate <;> rfl

/-- For instance after an operator that the next token follows without a blank. -/
theorem tokenize_restart_behind_plus :
    ⟨.operator .plus, "+", 3⟩ ∈ (tokenize {} "x.y+0x 'c").tokens ∧
      ∃ left, Text.slice? "x.y+0x 'c" 4 (Text.size "x.y+0x 'c") = some left ∧
        (tokenize {} left).tokens.map (·.shift 4) =
          (tokenize {} "x.y+0x 'c").tokens.filter (fun t => 4 ≤ t.offset) ∧
        (tokenize {} left).diagnostics.map (·.shift 4) =
          (tokenize {} "x.y+0x 'c").diagnostics.filter (fun d => 4 ≤ d.span.start) := by
  have hmem : ⟨.operator .plus, "+", 3⟩ ∈ (tokenize {} "x.y+0x 'c").tokens := by decide +kernel
  exact ⟨hmem, tokenize_restart {} "x.y+0x 'c" hmem (.inr rfl)⟩

end ExprScan
