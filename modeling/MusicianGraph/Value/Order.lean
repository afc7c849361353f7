import MusicianGraph.Value.Count

/-! # Values as numbers

Numbers of any kind are compared with zero and multiplied with one another; truth values count as
numbers. A product is a whole number if both factors are. -/

namespace MusicianGraph

/-- The ways in which a number is compared with zero. -/
inductive Comparison where
  | below
  | atMost
  | above
deriving DecidableEq, Repr

namespace Comparison

/-- The sign of a comparison. -/
def symbol : Comparison → String
  | below => "<"
  | atMost => "<="
  | above => ">"

/-- Compare a whole number with zero. -/
def ofInt : Comparison → Int → Bool
  | below, n => n < 0
  | atMost, n => n ≤ 0
  | above, n => 0 < n

/-- Compare a floating point number with zero. No comparison holds of the undefined number. -/
def ofFloat : Comparison → Float → Bool
  | below, x => x < 0.0
  | atMost, x => x ≤ 0.0
  | above, x => 0.0 < x

end Comparison

namespace Value

def whole? : Value → Option Int
  | int n => some n
  | bool b => some (if b then 1 else 0)
  | _ => none

def against (c : Comparison) : Value → Except Failure Bool
  | int n => .ok (c.ofInt n)
  | bool b => .ok (c.ofInt (if b then 1 else 0))
  | float x => .ok (c.ofFloat x)
  | v => .error (.notComparable c.symbol v.kindName)

/-- The product of two numbers. -/
def times (v w : Value) : Except Failure Value :=
  match v.whole?, w.whole? with
  | some m, some n => .ok (.int (m * n))
  | _, _ => do
      let x ← v.toFloat
      let y ← w.toFloat
      .ok (.float (x * y))

end Value

end MusicianGraph
