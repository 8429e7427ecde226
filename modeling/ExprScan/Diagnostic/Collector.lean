import ExprScan.Diagnostic.Basic

/-!
# Collecting diagnostics

A collector holds diagnostics in the order in which they were emitted, until they are taken.
-/

namespace ExprScan

/-- The diagnostics emitted and not yet taken. -/
structure Collector where
  /-- The diagnostics, the first emitted first. -/
  held : List Diagnostic
  deriving DecidableEq, Repr

namespace Collector

/-- A collector that holds nothing. -/
def empty : Collector := ⟨[]⟩

/-- Adds a diagnostic. -/
def emit (c : Collector) (d : Diagnostic) : Collector := ⟨c.held ++ [d]⟩

/-- Adds diagnostics in order. -/
def emitAll (c : Collector) (ds : List Diagnostic) : Collector := ds.foldl emit c

@[simp] theorem held_emit (c : Collector) (d : Diagnostic) : (c.emit d).held = c.held ++ [d] := rfl

@[simp] theorem held_emitAll (c : Collector) (ds : List Diagnostic) :
    (c.emitAll ds).held = c.held ++ ds := by
  induction ds generalizing c with
  | nil => simp [emitAll]
  | cons d ds ih =>
    rw [emitAll, List.foldl_cons, ← emitAll, ih, held_emit, List.append_assoc]
    rfl

/-- Hands over what is held and keeps nothing. -/
def take (c : Collector) : List Diagnostic × Collector := (c.held, empty)

/-- The number of diagnostics held. -/
def size (c : Collector) : Nat := c.held.length

/-- The number of errors held. -/
def errorCount (c : Collector) : Nat := (c.held.filter (·.level.isError)).length

/-- Whether an error is held. -/
def hasErrors (c : Collector) : Bool := c.held.any (·.level.isError)

end Collector

end ExprScan
