import MusicianGraph.Number.Numeral
import MusicianGraph.Text.Blank

/-! # Whole numbers in text

In data a whole number may stand as text. Its plain form is read first. A text that is no plain
numeral is cleared of what does not count (blanks around it, a plus, zeros in front, a point with
zeros after it, underscores), and what is left has to be a plain numeral. -/

namespace MusicianGraph

/-- What a text says as a whole number. -/
inductive WholeText where
  | number (n : Int)
  /-- A numeral that is too long to be read. -/
  | tooLong
  | other
deriving DecidableEq, Repr

namespace WholeText

/-- The most digits that a numeral has. -/
def longest : Nat := 4300

def splitMinus : List Char → Bool × List Char
  | '-' :: rest => (true, rest)
  | rest => (false, rest)

/-- Read a plain numeral: digits, perhaps after a minus, of which the first is a zero only when it
is the only one. A numeral that is too long is told as such, whatever follows it. -/
def plain (cs : List Char) : WholeText :=
  let (negative, rest) := splitMinus cs
  match Numeral.splitDigits rest with
  | ([], _) => .other
  | ('0' :: more, after) => if more.isEmpty && after.isEmpty then .number 0 else .other
  | (digits, after) =>
      if longest < digits.length then .tooLong
      else if after.isEmpty then .number (Binary64.signed negative (Numeral.value digits))
      else .other

/-- What is left after zeros, given the last one of them. Underscores among the zeros count as
zeros; a minus may follow them. Before a point, and at the end, the last one stays. -/
def afterZeros? (last : Char) : List Char → Option (List Char)
  | [] => some [last]
  | c :: rest =>
      if c = '0' ∨ c = '_' then afterZeros? c rest
      else if c = '-' ∨ c.isDigit then some (c :: rest)
      else if c = '.' then some (last :: c :: rest)
      else none

/-- A numeral without the zeros in front. -/
def withoutZeros? : List Char → Option (List Char)
  | [] => none
  | c :: rest =>
      if c = '0' then afterZeros? c rest
      else if c = '-' ∨ c.isDigit then some (c :: rest)
      else none

/-- A numeral without a point and the zeros after it, of which there has to be one. -/
def withoutDecimals (cs : List Char) : List Char :=
  match cs.dropWhile (· != '.') with
  | _ :: zero :: zeros =>
      if (zero :: zeros).all (· == '0') then cs.takeWhile (· != '.') else cs
  | _ => cs

/-- Are the underscores that are left followed by something, and not by another one? -/
def areFollowed : List Char → Bool
  | [] => true
  | ['_'] => false
  | '_' :: '_' :: _ => false
  | _ :: rest => areFollowed rest

/-- A numeral without its underscores, if they stand between other characters, one at a time. -/
def withoutUnderscores (cs : List Char) : List Char :=
  if cs.head? != some '_' && areFollowed cs then cs.filter (· != '_') else cs

/-- A text without what does not count in a numeral. In front there is a plus or a minus, not
both. -/
def cleared? (cs : List Char) : Option (List Char) :=
  let (sign, rest?) :=
    match trimBoth isWhiteSpace cs with
    | '+' :: '-' :: _ => ([], none)
    | '+' :: rest => ([], withoutZeros? rest)
    | '-' :: rest => (['-'], withoutZeros? rest)
    | rest => ([], withoutZeros? rest)
  rest?.map fun rest => sign ++ withoutUnderscores (withoutDecimals rest)

/-- Read a text. One that has to be cleared is not told to be too long. -/
def ofText (s : String) : WholeText :=
  match plain s.toList with
  | .other =>
      match (cleared? s.toList).map plain with
      | some (.number n) => .number n
      | _ => .other
  | read => read

end WholeText

end MusicianGraph
