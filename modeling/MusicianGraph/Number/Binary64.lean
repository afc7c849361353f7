/-! # The exact value of a floating point number

Scores, rates and coordinates are 64 bit floating point numbers. Everything that has to be exact
about one (its text, its order, its integer value, its floor) is read off its bits here, in integer
arithmetic. -/

namespace MusicianGraph

/-- What the bits of a floating point number say. -/
inductive Binary64 where
  | notANumber
  | infinite (negative : Bool)
  /-- The number `± mantissa * 2 ^ exponent`. -/
  | finite (negative : Bool) (mantissa : Nat) (exponent : Int)
deriving DecidableEq, Repr

namespace Binary64

/-- The least exponent: subnormal numbers are multiples of `2 ^ leastExponent`. -/
def leastExponent : Int := -1074

/-- Split the bits into sign, exponent and mantissa; a normal number has a hidden leading bit. -/
def ofFloat (x : Float) : Binary64 :=
  let bits : Nat := x.toBits.toNat
  let negative := bits / Nat.pow 2 63 == 1
  let field : Nat := bits / Nat.pow 2 52 % Nat.pow 2 11
  let fraction : Nat := bits % Nat.pow 2 52
  if field = 2047 then
    if fraction = 0 then .infinite negative else .notANumber
  else if field = 0 then .finite negative fraction leastExponent
  else .finite negative (Nat.pow 2 52 + fraction) (leastExponent + field - 1)

/-- A number with a sign: zero and the positive numbers are nonnegative. -/
def signed (negative : Bool) (magnitude : Nat) : Int :=
  if negative then -(magnitude : Int) else magnitude

/-- The integer that the number is, if it is one. -/
def exactInt? : Binary64 → Option Int
  | .finite negative mantissa exponent =>
      if 0 ≤ exponent then some (signed negative (mantissa * Nat.pow 2 exponent.toNat))
      else
        let unit := Nat.pow 2 (-exponent).toNat
        if mantissa % unit = 0 then some (signed negative (mantissa / unit)) else none
  | _ => none

/-- The greatest integer that is not above a finite number. -/
def floor? : Binary64 → Option Int
  | .finite negative mantissa exponent =>
      if 0 ≤ exponent then some (signed negative (mantissa * Nat.pow 2 exponent.toNat))
      else some (Int.fdiv (signed negative mantissa) (Nat.pow 2 (-exponent).toNat))
  | _ => none

/-- A finite number rounded to an integer, a half going away from zero. -/
def round? : Binary64 → Option Int
  | .finite negative mantissa exponent =>
      if 0 ≤ exponent then some (signed negative (mantissa * Nat.pow 2 exponent.toNat))
      else
        let unit := Nat.pow 2 (-exponent).toNat
        some (signed negative ((2 * mantissa + unit) / (2 * unit)))
  | _ => none

/-- The integer next to a finite number in the direction of zero. -/
def truncate? : Binary64 → Option Int
  | .finite negative mantissa exponent =>
      if 0 ≤ exponent then some (signed negative (mantissa * Nat.pow 2 exponent.toNat))
      else some (signed negative (mantissa / Nat.pow 2 (-exponent).toNat))
  | _ => none

end Binary64

/-- Numbers are ordered by this key: the magnitude bits, taken with the sign. Both zeros have the
key zero, and for two numbers the order of the keys is the order of the numbers. -/
def orderKey (x : Float) : Int :=
  let bits : Nat := x.toBits.toNat
  Binary64.signed (bits / Nat.pow 2 63 == 1) (bits % Nat.pow 2 63)

/-- Neither infinite nor undefined. -/
def isFiniteNumber (x : Float) : Bool :=
  match Binary64.ofFloat x with
  | .finite .. => true
  | _ => false

end MusicianGraph
