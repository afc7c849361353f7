import MusicianGraph.Failure
import MusicianGraph.Number.Numeral
import MusicianGraph.Text.Blank
import MusicianGraph.Text.Digit

/-! # Numbers from values

Counts that the graph answers are whole numbers in any of several forms, and so are numbers in the
environment. A text is a whole number when it has decimal digits, of any script, with an optional
sign and with white space around it; single underscores may stand between the digits. There is a
limit on the number of digits, zeros in front included. -/

namespace MusicianGraph

/-- The most digits that are read in the text of a whole number. -/
def mostDigits : Nat := 4300

/-- The characters of a number in text, with the digits of all scripts as `0` to `9`. -/
def numeralChars (s : String) : List Char := (trimBoth isWhiteSpace s.toList).map plainDigit

/-- The whole number in a text. What follows the digits is looked at after their number. -/
def intOfText (s : String) : Except Failure Int :=
  let (negative, rest) := Numeral.splitSign (numeralChars s)
  let isGroupChar := fun c => c.isDigit || c == '_'
  match Numeral.ungrouped? (rest.takeWhile isGroupChar) with
  | none => .error (.unreadableInt s)
  | some digits =>
      if mostDigits < digits.length then .error (.tooManyDigits mostDigits digits.length)
      else if (rest.dropWhile isGroupChar).isEmpty then
        .ok (Binary64.signed negative (Numeral.value digits))
      else .error (.unreadableInt s)

/-- The number in a text; single underscores may stand between digits. -/
def floatOfText (s : String) : Except Failure Float :=
  match Numeral.ungroupedNumeral? (numeralChars s) >>= Numeral.float? with
  | some x => .ok x
  | none => .error (.unreadableFloat s)

namespace Value

/-- A value as a whole number; a fraction is cut off. -/
def toInt : Value → Except Failure Int
  | int n => .ok n
  | bool b => .ok (if b then 1 else 0)
  | float x =>
      match Binary64.ofFloat x with
      | .notANumber => .error .undefinedToInt
      | .infinite _ => .error .infinityToInt
      | b => .ok (b.truncate?.getD 0)
  | text s => intOfText s
  | v => .error (.notInt v.kindName)

def toFloat : Value → Except Failure Float
  | float x => .ok x
  | bool b => .ok (if b then 1.0 else 0.0)
  | int n =>
      let x := Float.ofInt n
      if isFiniteNumber x then .ok x else .error .tooLargeForFloat
  | text s => floatOfText s
  | v => .error (.notFloat v.kindName)

end Value

end MusicianGraph
