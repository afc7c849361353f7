/-! # Spans of code points

A class of characters is a list of spans. -/

namespace MusicianGraph

/-- The code points from `first` to `last`, both included. -/
structure Span where
  first : Nat
  last : Nat
deriving DecidableEq, Repr

def inSpans (spans : List Span) (c : Char) : Bool :=
  spans.any fun span => span.first ≤ c.toNat && c.toNat ≤ span.last

end MusicianGraph
