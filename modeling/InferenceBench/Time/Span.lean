/-! # Spans of time

A span counts nanoseconds. As a number of seconds it is the sum of its whole seconds and the rest,
each of which is a double of its own. -/

namespace InferenceBench

structure Span where
  nanoseconds : Nat
  deriving Repr, DecidableEq, Inhabited

namespace Span

def zero : Span := ⟨0⟩

def ofSeconds (n : Nat) : Span := ⟨n * 1000000000⟩

def ofMilliseconds (n : Nat) : Span := ⟨n * 1000000⟩

/-- The whole milliseconds of the span. -/
def milliseconds (span : Span) : Nat := span.nanoseconds / 1000000

/-- The span in seconds. -/
def seconds (span : Span) : Float :=
  Float.ofNat (span.nanoseconds / 1000000000) +
    Float.ofNat (span.nanoseconds % 1000000000) / 1000000000

/-- The middle between two spans, cut to a whole nanosecond. -/
def mean (a b : Span) : Span := ⟨(a.nanoseconds + b.nanoseconds) / 2⟩

def atMost (a b : Span) : Bool := a.nanoseconds ≤ b.nanoseconds

end Span

end InferenceBench
