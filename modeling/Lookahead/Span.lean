/-!
# Spans

A span is a range of bytes in a grammar text, and a located value is a value
together with the span where it was found.
-/

namespace Lookahead

/-- A range of bytes, from `start` up to `stop`. -/
structure Span where
  start : Nat
  stop : Nat
  deriving DecidableEq, Repr

/-- The span from the start of one span to the end of another. -/
def Span.to (first last : Span) : Span :=
  ⟨first.start, last.stop⟩

/-- A value and the span where it was found. -/
structure Located (α : Type) where
  value : α
  span : Span
  deriving DecidableEq, Repr

/-- Change the value and keep its place. -/
def Located.map {α β : Type} (image : α → β) (located : Located α) : Located β :=
  ⟨image located.value, located.span⟩

end Lookahead
