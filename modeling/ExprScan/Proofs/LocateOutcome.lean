import ExprScan.Failure
import ExprScan.Proofs.FlawSpan
import ExprScan.Proofs.Located
import Mathlib.Data.List.Forall2

/-!
# Locating is all or nothing

Diagnostics may come from anywhere, and then their spans need not fit the file: a span may run
backwards, go past the end of the text or cut a character in two. If all spans fit, every diagnostic
is located, in order and with the text that its span covers. If not, the outcome is a failure, and
its reason is that of the first diagnostic whose span does not fit.

## The model

`Span.Misfit` gives the reason why a span does not fit a text. Each of its cases excludes those
before it, so that the order in which the reasons are looked for is part of the relation.

Main statement: `locateAll_outcome`.
-/

namespace ExprScan

/-! ### Steps along a list -/

section Traversal

variable {α β ε : Type} {step : α → Except ε β} {xs : List α}

theorem mapM_eq_ok_iff {ys : List β} :
    xs.mapM step = .ok ys ↔ List.Forall₂ (fun x y => step x = .ok y) xs ys := by
  induction xs generalizing ys with
  | nil =>
    rw [List.mapM_nil, List.forall₂_nil_left_iff]
    exact ⟨fun h => (Except.ok.inj h).symm, fun h => h ▸ rfl⟩
  | cons x xs ih =>
    rw [List.mapM_cons, List.forall₂_cons_left_iff]
    cases hx : step x with
    | error e => simp [bind, Except.bind]
    | ok y =>
      cases hxs : xs.mapM step with
      | error e => simp [bind, Except.bind, ← ih, hxs]
      | ok zs => simp [bind, Except.bind, pure, Except.pure, ← ih, hxs, eq_comm]

theorem exists_mapM_eq_ok_iff :
    (∃ ys, xs.mapM step = .ok ys) ↔ ∀ x ∈ xs, ∃ y, step x = .ok y := by
  simp only [mapM_eq_ok_iff]
  induction xs with
  | nil => simp
  | cons x xs ih =>
    rw [List.forall_mem_cons, ← ih]
    constructor
    · rintro ⟨_, _ | ⟨hx, hxs⟩⟩
      exact ⟨⟨_, hx⟩, _, hxs⟩
    · rintro ⟨⟨y, hx⟩, ys, hxs⟩
      exact ⟨y :: ys, .cons hx hxs⟩

/-- Steps along a list fail with the error of the first one that does. -/
theorem mapM_eq_error_iff {e : ε} :
    xs.mapM step = .error e ↔
      ∃ before x after, xs = before ++ x :: after ∧ (∀ b ∈ before, ∃ y, step b = .ok y) ∧
        step x = .error e := by
  constructor
  · intro h
    induction xs with
    | nil => cases h
    | cons x xs ih =>
      rw [List.mapM_cons] at h
      cases hx : step x with
      | error e' =>
        rw [hx] at h
        cases h
        exact ⟨[], x, xs, rfl, List.forall_mem_nil _, hx⟩
      | ok y =>
        cases hxs : xs.mapM step with
        | ok ys =>
          rw [hx, hxs] at h
          cases h
        | error e' =>
          rw [hx, hxs] at h
          cases h
          obtain ⟨before, z, after, rfl, hbefore, hz⟩ := ih hxs
          exact ⟨x :: before, z, after, rfl, List.forall_mem_cons.2 ⟨⟨y, hx⟩, hbefore⟩, hz⟩
  · rintro ⟨before, x, after, rfl, hbefore, hx⟩
    induction before with
    | nil =>
      rw [List.nil_append, List.mapM_cons, hx]
      rfl
    | cons b before ih =>
      obtain ⟨⟨y, hy⟩, hmore⟩ := List.forall_mem_cons.1 hbefore
      rw [List.cons_append, List.mapM_cons, hy, ih hmore]
      rfl

theorem mapError_eq_ok_iff {ε' : Type} {g : ε → ε'} {r : Except ε α} {x : α} :
    r.mapError g = .ok x ↔ r = .ok x := by
  cases r <;> simp [Except.mapError]

theorem mapError_eq_error_iff {ε' : Type} {g : ε → ε'} {r : Except ε α} {e' : ε'} :
    r.mapError g = .error e' ↔ ∃ e, r = .error e ∧ e' = g e := by
  cases r <;> simp [Except.mapError, eq_comm]

end Traversal

/-! ### Spans that do not fit -/

/-- `Span.Misfit content s e`: the span does not fit the text, for the reason `e`. -/
inductive Span.Misfit (content : String) (s : Span) : SourceError → Prop where
  /-- The span runs backwards, wherever its ends are. -/
  | reversed (h : s.stop < s.start) : Misfit content s (.reversed s.start s.stop)
  /-- The span is in order and goes past the end of the text. -/
  | outOfBounds (ordered : s.start ≤ s.stop) (h : Text.size content < s.stop) :
      Misfit content s (.outOfBounds (Text.size content) s.start s.stop)
  /-- The span is in order and within the text, and an end of it lies inside a character. -/
  | insideCharacter (ordered : s.start ≤ s.stop) (within : s.stop ≤ Text.size content)
      (h : Text.isBoundary content s.start = false ∨ Text.isBoundary content s.stop = false) :
      Misfit content s (.insideCharacter s.start s.stop)

namespace SourceFile

variable {f : SourceFile} {s : Span}

/-- What is taken out is the text between the ends of the span. -/
theorem extract_eq_ok_iff {text : String} :
    f.extract s = .ok text ↔ Text.slice? f.content s.start s.stop = some text := by
  refine ⟨fun h => ?_, extract_of_slice?⟩
  rw [extract] at h
  split_ifs at h
  cases hslice : Text.slice? f.content s.start s.stop with
  | none => simp [hslice] at h
  | some piece =>
    rw [hslice] at h
    exact congrArg some (Except.ok.inj h)

/-- A span that is not taken out does not fit, for the reason that is given. -/
theorem extract_eq_error_iff {e : SourceError} :
    f.extract s = .error e ↔ s.Misfit f.content e := by
  constructor
  · intro h
    rw [extract] at h
    split_ifs at h with hreversed hpast
    · cases h
      exact .reversed hreversed
    · cases h
      exact .outOfBounds (Nat.le_of_not_lt hreversed) hpast
    · cases hslice : Text.slice? f.content s.start s.stop with
      | some piece => simp [hslice] at h
      | none =>
        rw [hslice] at h
        cases h
        have hordered := Nat.le_of_not_lt hreversed
        refine .insideCharacter hordered (Nat.le_of_not_lt hpast) ?_
        simpa [hordered, Decidable.imp_iff_not_or] using Text.slice?_eq_none_iff.1 hslice
  · intro h
    cases h with
    | reversed h => rw [extract, if_pos h]
    | outOfBounds ordered h => rw [extract, if_neg (Nat.not_lt.2 ordered), size, if_pos h]
    | insideCharacter ordered within h =>
      have hslice : Text.slice? f.content s.start s.stop = none := by
        rw [Text.slice?_eq_none_iff]
        rintro ⟨-, hstart, hstop⟩
        simp [hstart, hstop] at h
      rw [extract, if_neg (Nat.not_lt.2 ordered), size, if_neg (Nat.not_lt.2 within), hslice]

theorem exists_extract_iff :
    (∃ text, f.extract s = .ok text) ↔ s.Fits f.content 0 (Text.size f.content) := by
  simp only [extract_eq_ok_iff]
  constructor
  · rintro ⟨text, h⟩
    obtain ⟨hlen, hsize, hstart, hstop⟩ := Text.bounds_of_slice? h
    exact ⟨Nat.zero_le _, by omega, hsize, hstart, hstop⟩
  · intro h
    rw [← Option.isSome_iff_exists, Option.isSome_iff_ne_none, Ne, Text.slice?_eq_none_iff, not_not]
    exact ⟨h.ordered, h.starts, h.stops⟩

end SourceFile

/-! ### Diagnostics with their places -/

namespace Diagnostic

variable {f : SourceFile} {d : Diagnostic}

/-- `d.LocatedAs f l`: `l` is the diagnostic with its place in the file and what its span covers. -/
structure LocatedAs (f : SourceFile) (d : Diagnostic) (l : LocatedDiagnostic) : Prop where
  /-- It is the same diagnostic. -/
  diagnostic_eq : l.diagnostic = d
  /-- It starts where its span starts. -/
  position_eq : l.position = f.position d.span.start
  /-- Its text stands in the file, from the start of the span to the end of it. -/
  text : ∃ before after, f.content = before ++ (l.text ++ after) ∧
    Text.size before = d.span.start ∧ d.span.start + Text.size l.text = d.span.stop

theorem locate_eq_map (d : Diagnostic) (f : SourceFile) :
    d.locate f = (f.extract d.span).map fun text => ⟨d, f.position d.span.start, text⟩ := by
  rw [locate]
  cases f.extract d.span <;> rfl

theorem locate_eq_ok_iff {l : LocatedDiagnostic} : d.locate f = .ok l ↔ d.LocatedAs f l := by
  constructor
  · intro h
    rw [locate_eq_map] at h
    cases hextract : f.extract d.span with
    | error e => simp [hextract, Except.map] at h
    | ok text =>
      rw [hextract] at h
      cases h
      exact ⟨rfl, rfl, Text.slice?_eq_some_iff.1 (SourceFile.extract_eq_ok_iff.1 hextract)⟩
  · rintro ⟨hdiagnostic, hposition, htext⟩
    have hextract := SourceFile.extract_eq_ok_iff.2 (Text.slice?_eq_some_iff.2 htext)
    rw [locate_eq_map, hextract, ← hposition, ← hdiagnostic]
    rfl

theorem locate_eq_error_iff {e : SourceError} :
    d.locate f = .error e ↔ d.span.Misfit f.content e := by
  rw [← SourceFile.extract_eq_error_iff, locate_eq_map]
  cases f.extract d.span <;> simp [Except.map]

theorem exists_locate_iff :
    (∃ l, d.locate f = .ok l) ↔ d.span.Fits f.content 0 (Text.size f.content) := by
  rw [← SourceFile.exists_extract_iff, locate_eq_map]
  cases f.extract d.span <;> simp [Except.map]

/-- **Locating is all or nothing**: diagnostics are located in a file if the span of each of them
is in order, within the text and between characters. Then each comes, in its order, with its place
and with the text that its span covers. Otherwise the failure is that of the first diagnostic whose
span does not fit, and tells why. -/
theorem locateAll_outcome (f : SourceFile) (ds : List Diagnostic) :
    ((∃ located, (locateAll ds f).mapError Failure.source = .ok located) ↔
        ∀ d ∈ ds, d.span.Fits f.content 0 (Text.size f.content)) ∧
      (∀ located, (locateAll ds f).mapError Failure.source = .ok located ↔
        List.Forall₂ (LocatedAs f) ds located) ∧
      ∀ failure, (locateAll ds f).mapError Failure.source = .error failure ↔
        ∃ before d after e, ds = before ++ d :: after ∧
          (∀ b ∈ before, b.span.Fits f.content 0 (Text.size f.content)) ∧
          d.span.Misfit f.content e ∧ failure = .source e := by
  simp only [mapError_eq_ok_iff, mapError_eq_error_iff, locateAll]
  refine ⟨?_, fun located => ?_, fun failure => ?_⟩
  · simp only [exists_mapM_eq_ok_iff, exists_locate_iff]
  · simp only [mapM_eq_ok_iff, locate_eq_ok_iff]
  · simp only [mapM_eq_error_iff, exists_locate_iff, locate_eq_error_iff]
    constructor
    · rintro ⟨e, ⟨before, d, after, hds, hbefore, hd⟩, hfailure⟩
      exact ⟨before, d, after, e, hds, hbefore, hd, hfailure⟩
    · rintro ⟨before, d, after, e, hds, hbefore, hd, hfailure⟩
      exact ⟨e, ⟨before, d, after, hds, hbefore, hd⟩, hfailure⟩

/-- For instance, a span that runs backwards past the end of the text is refused because it runs
backwards, although a later one is refused too. -/
example : (locateAll [error "ok" ⟨1, 3⟩, error "back" ⟨9, 2⟩, error "cut" ⟨2, 3⟩]
    (.ofContent "rule" "aé")).mapError Failure.source = .error (.source (.reversed 9 2)) := by
  decide +kernel

end Diagnostic

end ExprScan
