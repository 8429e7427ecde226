import ExprScan.Proofs.SessionSafety

/-!
# Collectors are passive

A session reports what is wrong with a token in the middle of scanning it. Whether a collector takes
the reports, and what it holds already, must not change anything else: neither the tokens nor where
the session stands after any call.

## The model

A `trace` is what a caller sees of a list of calls: the answer of each, where it left the session,
and what it reported. Two sessions that are the same but for their collectors are the same once
their collectors are taken off (`bare`), and every action commutes with taking off the collector.

Main statement: `trace_silent_eq`.
-/

namespace ExprScan

namespace Session

/-! ### Traces -/

/-- The diagnostics that the session has reported to its collector, if it has one. -/
def held (s : Session) : List Diagnostic := (s.sink.map (·.held)).getD []

/-- What a caller sees of a call. -/
structure Observation where
  /-- What the call answers. -/
  answer : Answer
  /-- Where the cursor stands after the call. -/
  position : Nat
  /-- Where the last token starts after the call. -/
  tokenStart : Nat
  /-- Whether the cursor stands at the end of the text after the call. -/
  atEnd : Bool
  /-- What the collector got from the call. -/
  reports : List Diagnostic
  deriving DecidableEq, Repr

/-- The observation without what went to the collector. -/
def Observation.silent (o : Observation) : Observation := { o with reports := [] }

/-- What is seen of a call that leads from `s` to `s'`. -/
def observe (s : Session) (answer : Answer) (s' : Session) : Observation :=
  ⟨answer, s'.cursor.position, s'.tokenStart, s'.cursor.atEnd, s'.held.drop s.held.length⟩

/-- What is seen of calls, one after the other. -/
def trace (s : Session) : List Action → Except Fault (List Observation)
  | [] => .ok []
  | a :: as => do
    let (answer, s') ← s.perform a
    return s.observe answer s' :: (← s'.trace as)

theorem trace_cons {s s' : Session} {a : Action} {answer : Answer}
    (h : s.perform a = .ok (answer, s')) (as : List Action) :
    s.trace (a :: as) = (s'.trace as).map (s.observe answer s' :: ·) := by
  simp only [trace, h, bind, Except.bind]
  cases s'.trace as <;> rfl

theorem InOrder.exists_trace {s : Session} (h : s.InOrder) (actions : List Action) :
    ∃ observations, s.trace actions = .ok observations := by
  induction actions generalizing s with
  | nil => exact ⟨[], rfl⟩
  | cons a as ih =>
    obtain ⟨answer, s', hperform, -, h'⟩ := h.perform a
    obtain ⟨observations, hmore⟩ := ih h'
    exact ⟨s.observe answer s' :: observations, by rw [trace_cons hperform, hmore]; rfl⟩

/-! ### Taking off the collector -/

/-- The session without a collector. -/
def bare (s : Session) : Session := { s with sink := none }

/-- The session with a collector for its reports from here on. -/
def reportingTo (s : Session) (collector : Collector) : Session :=
  { s with sink := some collector }

@[simp] theorem bare_cursor (s : Session) : s.bare.cursor = s.cursor := rfl

@[simp] theorem bare_tokenStart (s : Session) : s.bare.tokenStart = s.tokenStart := rfl

@[simp] theorem bare_functions (s : Session) : s.bare.functions = s.functions := rfl

@[simp] theorem bare_sink (s : Session) : s.bare.sink = none := rfl

/-- What is reported does not depend on who takes the report. -/
theorem report_bare (s : Session) (text : String) : s.bare.report text = s.report text := by
  funext f
  cases f <;> rfl

/-- A rule takes, answers and finds the same without a collector. -/
theorem apply_bare (s : Session) (rule : Rule) :
    s.bare.apply rule = (s.apply rule).map (Prod.map id bare) := by
  simp only [apply, bind, Except.bind, bare_cursor, bare_tokenStart, bare_functions, bare_sink]
  cases s.cursor.sliceFrom s.tokenStart with
  | error fault => rfl
  | ok before =>
    dsimp only
    generalize rule.munch s.functions before.toList s.cursor.after = m
    cases (s.cursor.skip m.taken).sliceFrom s.tokenStart with
    | error fault => rfl
    | ok text =>
      have hreport := report_bare ⟨s.cursor.skip m.taken, s.tokenStart, s.functions, s.sink⟩ text
      rw [bare] at hreport
      dsimp only
      rw [hreport]
      cases List.mapM (Session.report _ text) m.flaws <;> rfl

theorem nextToken_bare (s : Session) :
    s.bare.nextToken = s.nextToken.map (Prod.map id bare) := by
  have hstart : s.bare.startToken = s.startToken.bare := rfl
  simp only [nextToken, hstart, bare_cursor, bind, Except.bind]
  split
  · have hfinish : s.startToken.bare.finish .endOfText = s.startToken.finish .endOfText := rfl
    rw [hfinish]
    cases s.startToken.finish .endOfText <;> rfl
  · rw [apply_bare]
    cases s.startToken.apply (.ofChar s.startToken.cursor.current) with
    | error fault => rfl
    | ok result =>
      obtain ⟨kind, t⟩ := result
      have hfinish : t.bare.finish kind = t.finish kind := rfl
      simp only [Except.map, Prod.map, id_eq, hfinish]
      cases t.finish kind <;> rfl

theorem next_bare (s : Session) : s.bare.next = s.next.map (Prod.map id bare) := by
  simp only [next, nextToken_bare, bind, Except.bind]
  cases s.nextToken <;> rfl

theorem takeTokens_bare (n : Nat) (s : Session) :
    takeTokens n s.bare = (takeTokens n s).map (Prod.map id bare) := by
  induction n generalizing s with
  | zero => rfl
  | succ n ih =>
    simp only [takeTokens, next_bare, bind, Except.bind]
    cases s.next with
    | error fault => rfl
    | ok result =>
      obtain ⟨_ | t, s'⟩ := result
      · rfl
      · simp only [Except.map, Prod.map, id_eq, ih]
        cases takeTokens n s' <;> rfl

/-- An action answers the same without a collector, and leads to the same session but for the
collector. -/
theorem perform_bare (s : Session) (a : Action) :
    (s.bare.perform a).map (Prod.map id bare) = (s.perform a).map (Prod.map id bare) := by
  cases a with
  | nextToken =>
    simp only [perform, nextToken_bare, bind, Except.bind]
    cases s.nextToken <;> rfl
  | next =>
    simp only [perform, next_bare, bind, Except.bind]
    cases s.next <;> rfl
  | collect =>
    simp only [perform, collect, bare_cursor, takeTokens_bare, bind, Except.bind]
    cases takeTokens _ s <;> rfl
  | apply rule =>
    simp only [perform, apply_bare, bind, Except.bind]
    cases s.apply rule <;> rfl
  | setFunctions functions => rfl
  | attach => rfl

/-! ### Two sessions side by side -/

/-- If two sessions are the same but for their collectors, an action answers the same in both and
leads to two such sessions. -/
theorem perform_of_bare_eq {s t s' : Session} (h : s.bare = t.bare) {a : Action} {answer : Answer}
    (hs : s.perform a = .ok (answer, s')) :
    ∃ t', t.perform a = .ok (answer, t') ∧ s'.bare = t'.bare := by
  have hmap := perform_bare t a
  rw [← h, perform_bare s a, hs] at hmap
  cases ht : t.perform a with
  | error fault =>
    rw [ht] at hmap
    cases hmap
  | ok result =>
    obtain ⟨answer', t'⟩ := result
    rw [ht] at hmap
    obtain ⟨rfl, hbare⟩ := Prod.mk.inj (Except.ok.inj hmap)
    exact ⟨t', rfl, hbare⟩

/-- But for the reports, two such sessions give the same trace. -/
theorem trace_of_bare_eq {s t : Session} (h : s.bare = t.bare) {actions : List Action}
    {observations : List Observation} (hs : s.trace actions = .ok observations) :
    ∃ observations', t.trace actions = .ok observations' ∧
      observations.map (·.silent) = observations'.map (·.silent) := by
  induction actions generalizing s t observations with
  | nil =>
    cases hs
    exact ⟨[], rfl, rfl⟩
  | cons a as ih =>
    cases hperform : s.perform a with
    | error fault =>
      simp only [trace, hperform, bind, Except.bind] at hs
      cases hs
    | ok result =>
      obtain ⟨answer, s'⟩ := result
      obtain ⟨t', ht, hbare⟩ := perform_of_bare_eq h hperform
      rw [trace_cons hperform] at hs
      cases hmore : s'.trace as with
      | error fault =>
        rw [hmore] at hs
        cases hs
      | ok more =>
        rw [hmore] at hs
        cases hs
        obtain ⟨more', hmore', heq⟩ := ih hbare hmore
        refine ⟨t.observe answer t' :: more', by rw [trace_cons ht, hmore']; rfl, ?_⟩
        have hcursor : s'.cursor = t'.cursor := by rw [← bare_cursor s', hbare, bare_cursor]
        have hstart : s'.tokenStart = t'.tokenStart := by
          rw [← bare_tokenStart s', hbare, bare_tokenStart]
        rw [List.map_cons, List.map_cons, heq]
        simp only [observe, Observation.silent, hcursor, hstart]

/-- **Collectors are passive**: whatever is asked of a session, from the start of a text on, is
answered, and answered the same with a collector as without, and leaves the session at the same
place. So a scan gives the same tokens whether or not reports are asked for, and no reports if they
are not. -/
theorem trace_silent_eq (source : String) (collector : Collector) (actions : List Action) :
    (∃ observations observations',
        ((ofString source).reportingTo collector).trace actions = .ok observations ∧
          (ofString source).trace actions = .ok observations' ∧
          observations.map (·.silent) = observations'.map (·.silent)) ∧
      ∀ functions, tokenize ⟨false, functions⟩ source =
        ⟨(tokenize ⟨true, functions⟩ source).tokens, []⟩ := by
  refine ⟨?_, fun functions => rfl⟩
  have h : ((ofString source).reportingTo collector).InOrder :=
    ⟨[], [], source.toList, rfl, rfl, rfl⟩
  have hbare : ((ofString source).reportingTo collector).bare = (ofString source).bare := rfl
  obtain ⟨observations, hs⟩ := h.exists_trace actions
  obtain ⟨observations', ht, heq⟩ := trace_of_bare_eq hbare hs
  exact ⟨observations, observations', hs, ht, heq⟩

end Session

end ExprScan
