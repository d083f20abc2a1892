/-!
Half-open ranges of byte offsets.
-/

namespace C4Diagram

structure Span where
  start : Nat
  stop : Nat
deriving DecidableEq

namespace Span

def length (s : Span) : Nat := s.stop - s.start

def isEmpty (s : Span) : Bool := s.start == s.stop

def union (a b : Span) : Span := ⟨min a.start b.start, max a.stop b.stop⟩

theorem union_comm (a b : Span) : a.union b = b.union a := by
  simp [union, Nat.min_comm, Nat.max_comm]

end Span
end C4Diagram
