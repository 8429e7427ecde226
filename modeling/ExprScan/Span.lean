import ExprScan.Fault

/-!
# Spans

A span is a range of byte offsets, from `start` up to but not including `stop`. The type admits
`stop < start`, since spans also come from outside; `Span.between` is the way to make one that is
in order.
-/

namespace ExprScan

/-- A range of byte offsets. -/
structure Span where
  /-- The offset of the first byte. -/
  start : Nat
  /-- The offset just after the last byte. -/
  stop : Nat
  deriving DecidableEq, Repr

namespace Span

/-- The span between two offsets in order. -/
def between (start stop : Nat) : Except Fault Span :=
  if start ≤ stop then .ok ⟨start, stop⟩ else .error .reversed

/-- The empty span at an offset. -/
def point (n : Nat) : Span := ⟨n, n⟩

/-- The span of something that has no place in a text. -/
def nowhere : Span := point 0

instance : Inhabited Span := ⟨nowhere⟩

/-- Whether the span has no byte. A span that runs backwards is not empty. -/
def isEmpty (s : Span) : Bool := s.start == s.stop

/-- The number of bytes, which a span that runs backwards does not have. -/
def length (s : Span) : Except Fault Nat :=
  if s.start ≤ s.stop then .ok (s.stop - s.start) else .error .overflow

/-- Whether a byte lies in the span. -/
def contains (s : Span) (n : Nat) : Bool := s.start ≤ n && n < s.stop

/-- Whether another span lies within this one. -/
def containsSpan (s t : Span) : Bool := s.start ≤ t.start && t.stop ≤ s.stop

/-- The least span that covers two. -/
def merge (s t : Span) : Span := ⟨min s.start t.start, max s.stop t.stop⟩

/-- The span moved to the right. -/
def shift (s : Span) (n : Nat) : Span := ⟨s.start + n, s.stop + n⟩

/-- A span as text: its two ends with two dots between them. -/
def render (s : Span) : String := toString s.start ++ ".." ++ toString s.stop

end Span

end ExprScan
