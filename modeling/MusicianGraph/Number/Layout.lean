import MusicianGraph.Number.Shortest

/-! # The layout of decimal numbers

How a decimal is laid out: positionally or with an exponent. The decisions of one layout are the
fields of `Layout`; `plainNumber` is the layout of every number that this library writes. -/

namespace MusicianGraph

/-- The layout decisions of one way to write numbers. -/
structure Layout where
  /-- The least power of ten of the leading digit that is written positionally. -/
  leastPositional : Int
  /-- The least power of ten of the leading digit that is too large for that. -/
  positionalBound : Int
  /-- The least number of digits of an exponent. -/
  exponentDigits : Nat
  notANumber : String
  infinity : String
deriving DecidableEq, Repr

/-- Numbers are written positionally from `0.0001` up to below `10 ^ 16`, always with a decimal;
other numbers have an exponent with a sign and at least two digits. -/
def plainNumber : Layout where
  leastPositional := -4
  positionalBound := 16
  exponentDigits := 2
  notANumber := "nan"
  infinity := "inf"

namespace Layout

/-- Zeros in front, up to a width. -/
def padded (width : Nat) (digits : List Char) : List Char :=
  List.replicate (width - digits.length) '0' ++ digits

/-- Digits without the zeros at their end. -/
def trimZeros (digits : List Char) : List Char :=
  (digits.reverse.dropWhile (· == '0')).reverse

/-- Digits whose point stands after the first `whole` of them. -/
def positional (digits : List Char) (whole : Int) : List Char :=
  if whole ≤ 0 then '0' :: '.' :: (List.replicate (-whole).toNat '0' ++ digits)
  else
    let whole := whole.toNat
    let left := digits.take whole ++ List.replicate (whole - digits.length) '0'
    let right := digits.drop whole
    left ++ '.' :: (if right.isEmpty then ['0'] else right)

/-- One digit before the point and the power of ten after an `e`. -/
def exponential (layout : Layout) (digits : List Char) (power : Int) : List Char :=
  let mantissa :=
    match digits with
    | [] => ['0']
    | [d] => [d]
    | d :: rest => d :: '.' :: rest
  let sign := if power < 0 then '-' else '+'
  mantissa ++ 'e' :: sign :: padded layout.exponentDigits (Nat.toDigits 10 power.natAbs)

def decimal (layout : Layout) (d : Decimal) : List Char :=
  let all := Nat.toDigits 10 d.coefficient
  let power := d.exponent + all.length - 1
  let digits := trimZeros all
  if layout.leastPositional ≤ power ∧ power < layout.positionalBound then
    positional digits (power + 1)
  else layout.exponential digits power

/-- The text of a floating point number. -/
def render (layout : Layout) (x : Float) : String :=
  match Binary64.ofFloat x with
  | .notANumber => layout.notANumber
  | .infinite negative => (if negative then "-" else "") ++ layout.infinity
  | .finite negative mantissa exponent =>
      let digits :=
        if mantissa = 0 then ['0', '.', '0']
        else layout.decimal (Decimal.shortest mantissa exponent)
      String.ofList (if negative then '-' :: digits else digits)

end Layout

/-- The text of a floating point number as this library writes it. -/
def numberText (x : Float) : String :=
  plainNumber.render x

end MusicianGraph
