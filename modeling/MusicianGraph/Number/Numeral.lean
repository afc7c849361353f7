import MusicianGraph.Number.Shortest

/-! # Reading numbers from text

A numeral is a sign, digits with an optional decimal point, and an optional power of ten. It stands
for the floating point number nearest to its value. `infinity`, `inf` and `nan` are numerals too. -/

namespace MusicianGraph

namespace Decimal

/-- Decimals with more than this many digits before the point are infinite, those with as many
zeros after it are zero. -/
def largestMagnitude : Int := 400

/-- The floating point number nearest to a decimal. -/
def toFloat (negative : Bool) (d : Decimal) : Float :=
  let top : Int := d.exponent + (Nat.toDigits 10 d.coefficient).length
  let size :=
    if d.coefficient = 0 ∨ top < -largestMagnitude then 0.0
    else if largestMagnitude < top then 1.0 / 0.0
    else Float.ofScientific d.coefficient (d.exponent < 0) d.exponent.natAbs
  if negative then -size else size

end Decimal

/-- A quotient rounded to the nearest whole number, a half going to the even one. -/
def roundHalfEven (numerator denominator : Nat) : Nat :=
  let quotient := numerator / denominator
  let twice := 2 * (numerator % denominator)
  if twice < denominator then quotient
  else if denominator < twice then quotient + 1
  else if quotient % 2 = 0 then quotient else quotient + 1

namespace Numeral

/-- The number that decimal digits write. -/
def value (digits : List Char) : Nat :=
  digits.foldl (fun n c => 10 * n + (c.toNat - '0'.toNat)) 0

/-- An optional sign in front; `true` is minus. -/
def splitSign : List Char → Bool × List Char
  | '-' :: rest => (true, rest)
  | '+' :: rest => (false, rest)
  | rest => (false, rest)

/-- The digits in front and what follows them. -/
def splitDigits (cs : List Char) : List Char × List Char :=
  (cs.takeWhile Char.isDigit, cs.dropWhile Char.isDigit)

/-- The power of ten at the end of a numeral; none is the power zero. -/
def power? : List Char → Option Int
  | [] => some 0
  | e :: rest =>
      let (negative, digits) := splitSign rest
      if (e == 'e' || e == 'E') && !digits.isEmpty && digits.all Char.isDigit then
        some (Binary64.signed negative (value digits))
      else none

def magnitude? (cs : List Char) : Option Decimal :=
  let (whole, rest) := splitDigits cs
  let (fraction, rest) :=
    match rest with
    | '.' :: rest => splitDigits rest
    | rest => ([], rest)
  if whole.isEmpty && fraction.isEmpty then none
  else (power? rest).map fun power => ⟨value (whole ++ fraction), power - fraction.length⟩

def float? (cs : List Char) : Option Float :=
  let (negative, rest) := splitSign cs
  match magnitude? rest with
  | some d => some (d.toFloat negative)
  | none =>
      let word := String.ofList (rest.map Char.toLower)
      if word = "inf" ∨ word = "infinity" then some (if negative then -1.0 / 0.0 else 1.0 / 0.0)
      else if word = "nan" then some (0.0 / 0.0)
      else none

/-- Digits that may be grouped by single underscores; the underscores are left out. -/
def ungrouped? : List Char → Option (List Char)
  | [] => none
  | [c] => if c.isDigit then some [c] else none
  | c :: '_' :: rest => if c.isDigit then (ungrouped? rest).map (c :: ·) else none
  | c :: rest => if c.isDigit then (ungrouped? rest).map (c :: ·) else none

/-- A numeral without the single underscores that stand between its digits. -/
def ungroupedNumeral? : List Char → Option (List Char)
  | [] => some []
  | ['_'] => none
  | c :: '_' :: d :: rest =>
      if c.isDigit && d.isDigit then (ungroupedNumeral? (d :: rest)).map (c :: ·) else none
  | '_' :: _ => none
  | c :: rest => (ungroupedNumeral? rest).map (c :: ·)

end Numeral

end MusicianGraph
