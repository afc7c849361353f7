import MusicianGraph.Number.Binary64

/-! # The fewest decimal digits that identify a number

A decimal identifies a floating point number when it lies in the interval of reals that round to
it. `shortest` takes the fewest digits for which some decimal lies in that interval, and of these
decimals the nearest one; of two equally near ones the even one. -/

namespace MusicianGraph

/-- The decimal `coefficient * 10 ^ exponent`. -/
structure Decimal where
  coefficient : Nat
  exponent : Int
deriving DecidableEq, Repr

namespace Decimal

/-- A positive number and the ends of its rounding interval, over one denominator. -/
structure Interval where
  value : Nat
  low : Nat
  high : Nat
  denominator : Nat
  /-- The ends themselves round to the number. -/
  closed : Bool
deriving DecidableEq, Repr

namespace Interval

/-- The reals that round to `mantissa * 2 ^ exponent`: half way to the neighbour on either side.
Just above a power of two the lower neighbour is twice as near. -/
def ofBinary (mantissa : Nat) (exponent : Int) : Interval :=
  let narrow := mantissa = Nat.pow 2 52 ∧ Binary64.leastExponent < exponent
  let scale := exponent - 2
  let unit := if 0 ≤ scale then Nat.pow 2 scale.toNat else 1
  { value := 4 * mantissa * unit
    low := (4 * mantissa - (if narrow then 1 else 2)) * unit
    high := (4 * mantissa + 2) * unit
    denominator := if 0 ≤ scale then 1 else Nat.pow 2 (-scale).toNat
    closed := mantissa % 2 = 0 }

def inUnits (i : Interval) (exponent : Int) : Interval :=
  if 0 ≤ exponent then { i with denominator := i.denominator * Nat.pow 10 exponent.toNat }
  else
    let factor := Nat.pow 10 (-exponent).toNat
    { i with value := i.value * factor, low := i.low * factor, high := i.high * factor }

/-- Does the whole number `n` lie in the interval? -/
def holds (i : Interval) (n : Nat) : Bool :=
  let scaled := n * i.denominator
  if i.closed then i.low ≤ scaled && scaled ≤ i.high else i.low < scaled && scaled < i.high

/-- The nearest whole number in the interval; only the two neighbours of the value can be it. -/
def nearest? (i : Interval) : Option Nat :=
  let below := i.value / i.denominator
  match i.holds below, i.holds (below + 1) with
  | true, false => some below
  | false, true => some (below + 1)
  | false, false => none
  | true, true =>
      let middle := (2 * below + 1) * i.denominator
      if 2 * i.value < middle then some below
      else if middle < 2 * i.value then some (below + 1)
      else if below % 2 = 0 then some below else some (below + 1)

/-- Is the value below `10 ^ exponent`? -/
def isBelow (i : Interval) (exponent : Int) : Bool :=
  let j := i.inUnits exponent
  j.value < j.denominator

end Interval

/-- The least power of ten above `mantissa * 2 ^ exponent`: an estimate from the binary logarithm,
which is at most three too low, put right by comparison. -/
def magnitude (mantissa : Nat) (exponent : Int) : Int :=
  let estimate := Int.fdiv ((mantissa.log2 + exponent) * 30103) 100000
  let i := Interval.ofBinary mantissa exponent
  ([0, 1, 2].map (estimate + ·)).find? i.isBelow |>.getD (estimate + 3)

/-- The first of the given digit counts that some decimal in the interval has. -/
def firstFit? (i : Interval) (top : Int) : List Nat → Option Decimal
  | [] => none
  | count :: more =>
      let exponent := top - count
      match (i.inUnits exponent).nearest? with
      | some n => some ⟨n, exponent⟩
      | none => firstFit? i top more

/-- The shortest decimal of a positive number `mantissa * 2 ^ exponent`. Seventeen digits always
suffice; past them the exact value would be given. -/
def shortest (mantissa : Nat) (exponent : Int) : Decimal :=
  let i := Interval.ofBinary mantissa exponent
  match firstFit? i (magnitude mantissa exponent) ((List.range 17).map (· + 1)) with
  | some d => d
  | none =>
      if 0 ≤ exponent then ⟨mantissa * Nat.pow 2 exponent.toNat, 0⟩
      else ⟨mantissa * Nat.pow 5 (-exponent).toNat, exponent⟩

end Decimal

end MusicianGraph
