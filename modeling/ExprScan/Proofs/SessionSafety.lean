import ExprScan.Proofs.FlawSpan
import ExprScan.Proofs.SessionStep

/-!
# Sessions are safe

Rules may be called wherever the cursor stands: at the end of the text, on a character that they
are not meant for, several tokens behind the start of the last one. No order of calls leads to a
fault, moves the cursor back or off a boundary, or reports anything outside the token.

## The model

`Safe` is what a single call may do to a session. Asking for all tokens that are left is not a
single call but as many calls of `next` as it takes, up to the one that finds the end (`Drains`).

Main statement: `performAll_safe`.
-/

namespace ExprScan

namespace Session

/-! ### Safe calls -/

/-- What a call of an action may make of a session. -/
structure Safe (a : Action) (s s' : Session) : Prop where
  /-- The text stays. -/
  source_eq : s'.cursor.source = s.cursor.source
  /-- The token does not start behind the cursor. -/
  start_le_position : s'.tokenStart ≤ s'.cursor.position
  /-- The cursor stands within the text. -/
  position_le_size : s'.cursor.position ≤ s'.cursor.size
  /-- The token starts at a boundary. -/
  start_boundary : Text.isBoundary s'.cursor.source s'.tokenStart = true
  /-- The cursor stands at a boundary. -/
  position_boundary : Text.isBoundary s'.cursor.source s'.cursor.position = true
  /-- The cursor does not move back. -/
  position_le : s.cursor.position ≤ s'.cursor.position
  /-- What is reported goes to the collector that is attached, and lies between the start of the
  token and the cursor. A collector that the call attaches is empty. -/
  reports : ∃ ds, s'.sink = (if a = .attach then some .empty else s.sink.map (·.emitAll ds)) ∧
    ∀ d ∈ ds, d.span.Fits s'.cursor.source s'.tokenStart s'.cursor.position

/-- `Drains s ts s'`: safe calls of `next` give the tokens `ts` and then nothing, and lead from `s`
to `s'`. -/
inductive Drains : Session → List Token → Session → Prop where
  /-- The end of the text is found. -/
  | finish {s s' : Session} (hn : s.next = .ok (none, s')) (safe : Safe .next s s') : Drains s [] s'
  /-- A token is found, and then the others. -/
  | token {s s₁ s' : Session} {t : Token} {ts : List Token} (hn : s.next = .ok (some t, s₁))
      (safe : Safe .next s s₁) (more : Drains s₁ ts s') : Drains s (t :: ts) s'

/-- What any action may make of a session, and what it may answer. -/
def SafelyPerformed (s : Session) (answer : Answer) (s' : Session) : Action → Prop
  | .collect => ∃ ts, answer = .tokens ts ∧ Drains s ts s'
  | a => Safe a s s'

/-- A session that cuts its text in three. -/
def InOrder (s : Session) : Prop := ∃ before token rest, s.Cuts before token rest

variable {a : Action} {s s' : Session} {before token rest : List Char}

/-- A call that leads to a session in order is safe if it keeps the text, does not move back and
reports where it should. -/
theorem Cuts.safe (h : s'.Cuts before token rest)
    (hs : s'.cursor.source = s.cursor.source) (hp : s.cursor.position ≤ s'.cursor.position)
    (hr : ∃ ds, s'.sink = (if a = .attach then some .empty else s.sink.map (·.emitAll ds)) ∧
      ∀ d ∈ ds, d.span.Fits s'.cursor.source s'.tokenStart s'.cursor.position) :
    Safe a s s' := by
  have hpos : s'.cursor.source.toList = (before ++ token) ++ rest := by
    rw [h.source, List.append_assoc]
  refine ⟨hs, ?_, ?_, ?_, ?_, hp, hr⟩
  · rw [h.tokenStart, h.position]
    exact Nat.le_add_right _ _
  · rw [h.size_eq]
    exact Nat.le_add_right _ _
  · rw [h.tokenStart]
    exact Text.isBoundary_of_toList h.source
  · rw [h.position, ← Text.byteLength_append]
    exact Text.isBoundary_of_toList hpos

theorem emitAll_nil (sink : Option Collector) : sink.map (·.emitAll []) = sink := by
  cases sink <;> rfl

theorem Cuts.safe_of_sink_eq (h : s'.Cuts before token rest) (ha : a ≠ .attach)
    (hs : s'.cursor.source = s.cursor.source) (hp : s.cursor.position ≤ s'.cursor.position)
    (hk : s'.sink = s.sink) : Safe a s s' := by
  refine h.safe hs hp ⟨[], ?_, by simp⟩
  rw [if_neg ha, emitAll_nil, hk]

theorem Cuts.fits_of_mem_reports (h : s.Cuts before token rest) {rule : Rule} {m : Munch}
    (hm : m = rule.munch s.functions token rest) {d : Diagnostic}
    (hd : d ∈ m.reports s.tokenStart token) :
    d.span.Fits s.cursor.source s.tokenStart (s.past token m).cursor.position := by
  obtain ⟨f, hf, rfl⟩ := List.mem_map.1 hd
  have hcut := (Munch.eq_taken_append hm).symm
  have hpast := h.past hcut
  have hwithin : f.IsWithin (token ++ m.taken) := by
    rw [hm] at hf ⊢
    exact Rule.isWithin_of_mem_flaws hf
  have hfits := hwithin.span_fits hpast.source
  rw [← hpast.position, ← hpast.tokenStart] at hfits
  exact hfits

theorem Cuts.safe_past (h : s.Cuts before token rest) (ha : a ≠ .attach) {rule : Rule} {m : Munch}
    (hm : m = rule.munch s.functions token rest) : Safe a s (s.past token m) := by
  have hcut := (Munch.eq_taken_append hm).symm
  refine (h.past hcut).safe rfl (Nat.le_add_right _ _) ⟨m.reports s.tokenStart token, ?_, ?_⟩
  · rw [if_neg ha]
    rfl
  · exact fun d hd => h.fits_of_mem_reports hm hd

theorem Cuts.safe_startToken (h : s.Cuts before token rest) (ha : a ≠ .attach) :
    Safe a s s.startToken :=
  h.startToken.safe_of_sink_eq ha rfl (Nat.le_add_right _ _) rfl

theorem Cuts.cuts_token (h : s.Cuts before token rest) {c : Char} {cs : List Char}
    (hr : rest.dropWhile Text.isSpace = c :: cs) {m : Munch}
    (hm : m = (Rule.ofChar c).munch s.functions [] (c :: cs)) :
    (s.startToken.past [] m).Cuts (before ++ token ++ rest.takeWhile Text.isSpace) m.taken
      m.rest := by
  have hstart := h.startToken
  rw [hr] at hstart
  exact hstart.past (Munch.eq_taken_append hm).symm

theorem Cuts.safe_token (h : s.Cuts before token rest) (ha : a ≠ .attach) {c : Char}
    {cs : List Char} (hr : rest.dropWhile Text.isSpace = c :: cs) {m : Munch}
    (hm : m = (Rule.ofChar c).munch s.functions [] (c :: cs)) :
    Safe a s (s.startToken.past [] m) := by
  have hstart := h.startToken
  rw [hr] at hstart
  have hsafe : Safe a s.startToken (s.startToken.past [] m) := hstart.safe_past ha hm
  -- skipping blanks keeps the text and the collector, so only the start of the move differs
  exact { hsafe with position_le := (h.safe_startToken ha).position_le.trans hsafe.position_le }

/-- Whether or not there is another token, asking for it gives an answer and is safe. -/
theorem Cuts.nextToken_safe (h : s.Cuts before token rest) (ha : a ≠ .attach) :
    ∃ t s', s.nextToken = .ok (t, s') ∧ Safe a s s' ∧ s'.InOrder := by
  cases hr : rest.dropWhile Text.isSpace with
  | nil => exact ⟨_, _, h.nextToken_of_nil hr, h.safe_startToken ha, _, _, _, h.startToken⟩
  | cons c cs =>
    exact ⟨_, _, h.nextToken_of_cons hr rfl, h.safe_token ha hr rfl, _, _, _, h.cuts_token hr rfl⟩

/-! ### All tokens that are left -/

/-- Each token takes a character at least, so that as many calls as there are characters, and one
more, find the end. -/
theorem Cuts.drains (n : Nat) (h : s.Cuts before token rest) (hn : rest.length < n) :
    ∃ ts s', takeTokens n s = .ok (ts, s') ∧ Drains s ts s' ∧ s'.InOrder := by
  induction n generalizing s before token rest with
  | zero => exact absurd hn (Nat.not_lt_zero _)
  | succ n ih =>
    cases hr : rest.dropWhile Text.isSpace with
    | nil =>
      have hnext := h.next_of_nil hr
      exact ⟨[], s.startToken, takeTokens_of_none hnext,
        .finish hnext (h.safe_startToken (by simp)), _, _, _, h.startToken⟩
    | cons c cs =>
      generalize hm : (Rule.ofChar c).munch s.functions [] (c :: cs) = m
      have hnext := h.next_of_cons hr hm.symm
      have hlt : m.rest.length < n := by
        have h₁ := Rule.rest_munch_length_lt s.functions c cs
        have h₂ : (rest.dropWhile Text.isSpace).length ≤ rest.length :=
          (List.dropWhile_suffix Text.isSpace).length_le
        rw [hm] at h₁
        rw [hr] at h₂
        omega
      obtain ⟨ts, s', htake, hdrains, horder⟩ := ih (h.cuts_token hr hm.symm) hlt
      exact ⟨_ :: ts, s', takeTokens_of_some hnext htake,
        .token hnext (h.safe_token (by simp) hr hm.symm) hdrains, horder⟩

theorem Drains.source_eq {ts : List Token} (h : Drains s ts s') :
    s'.cursor.source = s.cursor.source := by
  induction h with
  | finish _ safe => exact safe.source_eq
  | token _ safe _ ih => exact ih.trans safe.source_eq

/-! ### Actions -/

/-- On a session in order, every action gives an answer, is safe, and leaves a session in order. -/
theorem InOrder.perform (h : s.InOrder) (a : Action) :
    ∃ answer s', s.perform a = .ok (answer, s') ∧ SafelyPerformed s answer s' a ∧ s'.InOrder := by
  obtain ⟨before, token, rest, h⟩ := h
  cases a with
  | nextToken =>
    obtain ⟨t, s', hnext, hsafe, horder⟩ := h.nextToken_safe (a := .nextToken) (by simp)
    refine ⟨.token t, s', ?_, hsafe, horder⟩
    simp only [Session.perform, hnext, bind, Except.bind]
    rfl
  | next =>
    obtain ⟨t, s', hnext, hsafe, horder⟩ := h.nextToken_safe (a := .next) (by simp)
    refine ⟨.token? (if t.isEnd then none else some t), s', ?_, hsafe, horder⟩
    simp only [Session.perform, next_of_nextToken hnext, bind, Except.bind]
    rfl
  | collect =>
    obtain ⟨ts, s', htake, hdrains, horder⟩ := h.drains (rest.length + 1) (Nat.lt_succ_self _)
    refine ⟨.tokens ts, s', ?_, ⟨ts, rfl, hdrains⟩, horder⟩
    simp only [Session.perform, Session.collect, h.after_eq, htake, bind, Except.bind]
    rfl
  | apply rule =>
    refine ⟨.kind (rule.munch s.functions token rest).kind,
      s.past token (rule.munch s.functions token rest), ?_, h.safe_past (by simp) rfl, _, _, _,
      h.past (rule.munch_cut s.functions token rest)⟩
    simp only [Session.perform, h.apply rule, bind, Except.bind]
    rfl
  | setFunctions functions =>
    have h' : { s with functions }.Cuts before token rest := ⟨h.source, h.tokenStart, h.position⟩
    exact ⟨.done, { s with functions }, rfl,
      h'.safe_of_sink_eq (by simp) rfl (Nat.le_refl _) rfl, _, _, _, h'⟩
  | attach =>
    have h' : { s with sink := some .empty }.Cuts before token rest :=
      ⟨h.source, h.tokenStart, h.position⟩
    exact ⟨.done, { s with sink := some .empty }, rfl,
      h'.safe rfl (Nat.le_refl _) ⟨[], by rw [if_pos rfl], by simp⟩, _, _, _, h'⟩

/-! ### Orders of actions -/

/-- Performs actions one after the other and leaves out what they answer. -/
def performAll (s : Session) : List Action → Except Fault Session
  | [] => .ok s
  | a :: as => do
    let (_, s) ← s.perform a
    s.performAll as

theorem SafelyPerformed.source_eq {answer : Answer} (h : SafelyPerformed s answer s' a) :
    s'.cursor.source = s.cursor.source := by
  cases a with
  | collect =>
    obtain ⟨ts, -, hdrains⟩ := h
    exact hdrains.source_eq
  | _ => exact Safe.source_eq h

/-- A session in order stays in order, and keeps its text, whatever is done with it. -/
theorem InOrder.performAll (h : s.InOrder) (actions : List Action) :
    ∃ s', s.performAll actions = .ok s' ∧ s'.InOrder ∧ s'.cursor.source = s.cursor.source := by
  induction actions generalizing s with
  | nil => exact ⟨s, rfl, h, rfl⟩
  | cons a as ih =>
    obtain ⟨answer, s₁, hperform, hsafe, h₁⟩ := h.perform a
    obtain ⟨s', hall, h', hsource⟩ := ih h₁
    refine ⟨s', ?_, h', hsource.trans hsafe.source_eq⟩
    simp only [Session.performAll, hperform, bind, Except.bind]
    exact hall

/-- Whatever was done with a session on a text, any further action gives an answer and is safe. As
any call of an order of calls is the next after those before it, none of them faults and each of
them is safe. -/
theorem performAll_safe (source : String) (actions : List Action) (a : Action) :
    ∃ s answer s', (ofString source).performAll actions = .ok s ∧ s.cursor.source = source ∧
      s.perform a = .ok (answer, s') ∧ SafelyPerformed s answer s' a := by
  have h : (ofString source).InOrder := ⟨_, _, _, cuts_ofString source⟩
  obtain ⟨s, hall, hs, hsource⟩ := h.performAll actions
  obtain ⟨answer, s', hperform, hsafe, -⟩ := hs.perform a
  exact ⟨s, answer, s', hall, hsource, hperform, hsafe⟩

end Session

end ExprScan
