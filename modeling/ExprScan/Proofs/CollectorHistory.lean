import ExprScan.Proofs.TokenStream

/-!
# Histories of collectors

Diagnostics come to a collector one by one, as drafts, and from whole scans that report to it. They
leave it when they are taken. Whatever the order of all this, none is lost, doubled or moved.

## The model

`Op` is what can be done with a collector. A scan is a session that reports to the collector and is
followed to the end of its text, in whatever way the tokens are asked for. What an operation adds is
said without the collector (`Op.emitted`): for a scan, it is what the scan of the text at once
reports. The invariant is that what was taken and what is held, one behind the other, is what was
added.

Main statement: `performAll_accounted`.
-/

namespace ExprScan

namespace Session

variable {s : Session} {ls : List Lexeme}

/-! ### Sessions to the end -/

theorem emitAll_emitAll (sink : Option Collector) (ds es : List Diagnostic) :
    (sink.map (·.emitAll ds)).map (·.emitAll es) = sink.map (·.emitAll (ds ++ es)) := by
  cases sink with
  | none => rfl
  | some c => exact congrArg some List.foldl_append.symm

theorem Yields.length_le (h : s.Yields ls) : ls.length ≤ s.cursor.after.length := by
  obtain ⟨before, token, rest, hcuts, hls⟩ := h
  obtain ⟨early, heq, -, hlen⟩ :=
    (run_lexemesFrom s.functions s.cursor.position rest).exists_eq_concat
  rw [hls] at heq
  rw [hcuts.after_eq, (List.append_inj' heq rfl).1]
  exact hlen

/-- With steps enough, all tokens are taken, and all that is wrong with them is reported. -/
theorem Yields.takeTokens (h : s.Yields ls) {n : Nat} (hn : ls.length < n) :
    ∃ s', takeTokens n s = .ok (ls.map (·.token), s') ∧
      s'.sink = s.sink.map (·.emitAll (ls.flatMap (·.diagnostics))) := by
  induction ls generalizing s n with
  | nil =>
    obtain ⟨n, rfl⟩ : ∃ k, n = k + 1 := ⟨n - 1, by omega⟩
    obtain ⟨s', hnext, hsink, -, -⟩ := h.nextToken_nil
    exact ⟨s', takeTokens_of_none (next_of_nextToken hnext),
      by rw [List.flatMap_nil, emitAll_nil, hsink]⟩
  | cons l ls ih =>
    obtain ⟨n, rfl⟩ : ∃ k, n = k + 1 := ⟨n - 1, by omega⟩
    obtain ⟨s₁, hnext, hend, hsink, -, h₁⟩ := h.nextToken_cons
    obtain ⟨s', htake, hsink'⟩ := ih h₁ (Nat.lt_of_succ_lt_succ hn)
    have hsome := next_of_nextToken hnext
    rw [hend, if_neg Bool.false_ne_true] at hsome
    refine ⟨s', takeTokens_of_some hsome htake, ?_⟩
    rw [hsink', hsink, emitAll_emitAll, List.flatMap_cons]

/-- Calls leave the tokens that they do not give, and report what is wrong with the others. -/
theorem Yields.performAll_pulls (h : s.Yields ls) (calls : List Pull) :
    ∃ s', s.performAll (calls.map Pull.action) = .ok s' ∧ s'.Yields (ls.drop calls.length) ∧
      s'.sink = s.sink.map (·.emitAll ((ls.take calls.length).flatMap (·.diagnostics))) := by
  induction calls generalizing s ls with
  | nil => exact ⟨s, rfl, h, by rw [List.length_nil, List.take_zero, List.flatMap_nil, emitAll_nil]⟩
  | cons call calls ih =>
    obtain ⟨answer, s₁, hperform, -, hsink, -, h₁⟩ := h.perform_pull call
    obtain ⟨s', hall, h', hsink'⟩ := ih h₁
    refine ⟨s', ?_, ?_, ?_⟩
    · simp only [List.map_cons, performAll, hperform, bind, Except.bind]
      exact hall
    · rw [← List.drop_one, List.drop_drop, Nat.add_comm] at h'
      exact h'
    · rw [hsink', hsink, emitAll_emitAll]
      cases ls <;> simp

theorem performAll_append (s : Session) (as bs : List Action) :
    s.performAll (as ++ bs) = (s.performAll as).bind (·.performAll bs) := by
  induction as generalizing s with
  | nil => rfl
  | cons a as ih =>
    simp only [List.cons_append, performAll, bind, Except.bind]
    cases s.perform a with
    | error fault => rfl
    | ok result => exact ih result.2

/-- Actions that follow a text to its end: some calls, and then all tokens that are left. -/
def toEnd (calls : List Pull) : List Action := calls.map Pull.action ++ [.collect]

/-- Followed to its end in whatever way, a session reports what is wrong with its tokens, once and
in order. -/
theorem Yields.performAll_toEnd (h : s.Yields ls) (calls : List Pull) :
    ∃ s', s.performAll (toEnd calls) = .ok s' ∧
      s'.sink = s.sink.map (·.emitAll (ls.flatMap (·.diagnostics))) := by
  obtain ⟨s₁, hpulls, h₁, hsink⟩ := h.performAll_pulls calls
  obtain ⟨s', htake, hsink'⟩ := h₁.takeTokens (Nat.lt_succ_of_le h₁.length_le)
  refine ⟨s', ?_, ?_⟩
  · rw [toEnd, performAll_append, hpulls]
    simp only [performAll, perform, collect, htake, bind, Except.bind]
    rfl
  · rw [hsink', hsink, emitAll_emitAll, ← List.flatMap_append, List.take_append_drop]

end Session

namespace Collector

/-! ### Operations -/

/-- The collector after a scan that reports to it and follows the text to its end. -/
def scan (c : Collector) (source : String) (calls : List Session.Pull) :
    Except Fault Collector := do
  let s ← ((Session.ofString source).reportingTo c).performAll (Session.toEnd calls)
  return ⟨s.held⟩

/-- What can be done with a collector. -/
inductive Op where
  /-- A diagnostic is emitted. -/
  | emit (d : Diagnostic)
  /-- A draft is finished and emitted. -/
  | build (draft : Draft)
  /-- A text is scanned to its end, the first tokens by the given calls. -/
  | scan (source : String) (calls : List Session.Pull)
  /-- What is held is read. -/
  | read
  /-- What is held is taken. -/
  | take
  deriving DecidableEq, Repr

/-- What a collector answers. -/
inductive Reply where
  /-- Nothing. -/
  | done
  /-- What is held, and stays. -/
  | read (ds : List Diagnostic)
  /-- What was held, and is handed over. -/
  | taken (ds : List Diagnostic)
  deriving DecidableEq, Repr

/-- Does what is asked. -/
def perform (c : Collector) : Op → Except Fault (Reply × Collector)
  | .emit d => return (.done, c.emit d)
  | .build draft => return (.done, c.emit draft.build)
  | .scan source calls => return (.done, ← c.scan source calls)
  | .read => return (.read c.held, c)
  | .take => let (ds, c) := c.take; return (.taken ds, c)

/-- Performs operations one after the other. -/
def performAll (c : Collector) : List Op → Except Fault (List Reply × Collector)
  | [] => return ([], c)
  | op :: ops => do
    let (reply, c) ← c.perform op
    let (replies, c) ← c.performAll ops
    return (reply :: replies, c)

/-- The diagnostics that an operation adds, whatever the collector holds. -/
def Op.emitted : Op → List Diagnostic
  | .emit d => [d]
  | .build draft => [draft.build]
  | .scan source _ => (tokenize {} source).diagnostics
  | .read => []
  | .take => []

/-- The diagnostics that are handed over. -/
def Reply.handed : Reply → List Diagnostic
  | .done => []
  | .read _ => []
  | .taken ds => ds

/-- The diagnostics that are shown as held, if any are. -/
def Reply.shown? : Reply → Option (List Diagnostic)
  | .done => none
  | .read ds => some ds
  | .taken ds => some ds

/-! ### One operation -/

theorem scan_eq (c : Collector) (source : String) (calls : List Session.Pull) :
    c.scan source calls = .ok (c.emitAll (tokenize {} source).diagnostics) := by
  obtain ⟨ls, hyields, hls, hends⟩ := Session.exists_yields source .empty (some c)
  obtain ⟨s', hall, hsink⟩ := hyields.performAll_toEnd calls
  have hdiagnostics : (tokenize {} source).diagnostics = ls.flatMap (·.diagnostics) :=
    (Session.tokenize_of_lexemes_eq hls hends).2.2
  have hheld : s'.held = (c.emitAll (ls.flatMap (·.diagnostics))).held := by
    rw [Session.held, hsink]
    rfl
  rw [scan, show (Session.ofString source).reportingTo c = ⟨.ofString source, 0, .empty, some c⟩
    from rfl, hall, hdiagnostics]
  exact congrArg (fun ds => Except.ok (Collector.mk ds)) hheld

/-- An operation is answered. What it hands over and what is held after it is what was held before
and what it adds; and what it shows is what was held before. -/
theorem exists_perform (c : Collector) (op : Op) :
    ∃ reply c', c.perform op = .ok (reply, c') ∧
      reply.handed ++ c'.held = c.held ++ op.emitted ∧
      ∀ ds, reply.shown? = some ds → ds = c.held := by
  cases op with
  | emit d => exact ⟨.done, c.emit d, rfl, rfl, by rintro ds ⟨⟩⟩
  | build draft => exact ⟨.done, c.emit draft.build, rfl, rfl, by rintro ds ⟨⟩⟩
  | scan source calls =>
    refine ⟨.done, c.emitAll (tokenize {} source).diagnostics, ?_, ?_, by rintro ds ⟨⟩⟩
    · rw [perform, scan_eq]
      rfl
    · exact held_emitAll c _
  | read =>
    refine ⟨.read c.held, c, rfl, (List.append_nil _).symm, ?_⟩
    rintro ds ⟨⟩
    rfl
  | take =>
    refine ⟨.taken c.held, .empty, rfl, rfl, ?_⟩
    rintro ds ⟨⟩
    rfl

/-! ### Any number of operations -/

/-- `Accounted before ops replies c`: the operations lead from a collector that held `before` to
`c`, and every diagnostic is accounted for. -/
structure Accounted (before : List Diagnostic) (ops : List Op) (replies : List Reply)
    (c : Collector) : Prop where
  /-- Every operation is answered. -/
  length_eq : replies.length = ops.length
  /-- What was handed over and what is held, one behind the other, is what was added. -/
  handed_append_held :
    replies.flatMap (·.handed) ++ c.held = before ++ ops.flatMap (·.emitted)
  /-- The same holds of what was shown as held at any time. -/
  handed_append_shown : ∀ i reply ds, replies[i]? = some reply → reply.shown? = some ds →
    (replies.take i).flatMap (·.handed) ++ ds = before ++ (ops.take i).flatMap (·.emitted)

theorem exists_performAll (c : Collector) (ops : List Op) :
    ∃ replies c', c.performAll ops = .ok (replies, c') ∧ Accounted c.held ops replies c' := by
  induction ops generalizing c with
  | nil => exact ⟨[], c, rfl, rfl, (List.append_nil _).symm, by simp⟩
  | cons op ops ih =>
    obtain ⟨reply, c₁, hperform, hstep, hshown⟩ := c.exists_perform op
    obtain ⟨replies, c', hall, haccounted⟩ := ih c₁
    refine ⟨reply :: replies, c', ?_, ?_, ?_, ?_⟩
    · simp only [performAll, hperform, hall, bind, Except.bind]
      rfl
    · rw [List.length_cons, List.length_cons, haccounted.length_eq]
    · rw [List.flatMap_cons, List.append_assoc, haccounted.handed_append_held, ← List.append_assoc,
        hstep, List.append_assoc, List.flatMap_cons]
    · intro i r ds hr hds
      cases i with
      | zero =>
        cases hr
        simpa using hshown ds hds
      | succ i =>
        rw [List.take_succ_cons, List.take_succ_cons, List.flatMap_cons, List.append_assoc,
          haccounted.handed_append_shown i r ds hr hds, ← List.append_assoc, hstep,
          List.append_assoc, List.flatMap_cons]

theorem errorCount_eq_countP (c : Collector) :
    c.errorCount = c.held.countP (·.level = .error) := by
  rw [errorCount, ← List.countP_eq_length_filter]
  refine List.countP_congr fun d _ => ?_
  cases d.level <;> simp [Level.isError]

theorem hasErrors_iff (c : Collector) : c.hasErrors = true ↔ 0 < c.errorCount := by
  rw [hasErrors, errorCount, List.length_filter_pos_iff, List.any_eq_true]

/-- **Collectors lose, double and move nothing**: whatever is done with a fresh collector, what was
taken from it and what it holds, one behind the other, is what was emitted, in order; a scan emits
what scanning its text at once reports. The errors counted are those held. -/
theorem performAll_accounted (ops : List Op) :
    ∃ replies c, empty.performAll ops = .ok (replies, c) ∧ Accounted [] ops replies c ∧
      c.errorCount = c.held.countP (·.level = .error) ∧
      (c.hasErrors = true ↔ 0 < c.errorCount) := by
  obtain ⟨replies, c, hall, haccounted⟩ := empty.exists_performAll ops
  exact ⟨replies, c, hall, haccounted, c.errorCount_eq_countP, c.hasErrors_iff⟩

end Collector

end ExprScan
