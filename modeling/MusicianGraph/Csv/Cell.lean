import MusicianGraph.Value.Basic
import MusicianGraph.Number.Numeral
import MusicianGraph.Text.Blank

/-! # Cells

What a cell says as a whole number, as a number and as a truth value. Blanks may stand around
numbers. Certain cells are missing values. -/

namespace MusicianGraph.Csv

def missingTexts : List String :=
  ["", "#N/A", "#N/A N/A", "#NA", "-1.#IND", "-1.#QNAN", "-NaN", "-nan", "1.#IND", "1.#QNAN",
    "<NA>", "N/A", "NA", "NULL", "NaN", "None", "n/a", "nan", "null"]

def isMissing (cell : String) : Bool := missingTexts.contains cell

/-- The blanks that may stand around a number. -/
def isNumberBlank (c : Char) : Bool := c == ' ' || ('\t' ≤ c && c ≤ '\r')

/-- What a cell says as a whole number. -/
inductive WholeCell where
  | missing
  /-- A sign and digits, and what follows them. -/
  | digits (negative : Bool) (size : Nat) (rest : List Char)
  | other
deriving DecidableEq, Repr

/-- Read a cell as a whole number of any size. -/
def wholeCell (cell : String) : WholeCell :=
  if isMissing cell then .missing
  else
    let (negative, rest) := Numeral.splitSign (cell.toList.dropWhile isNumberBlank)
    match Numeral.splitDigits rest with
    | ([], _) => .other
    | (digits, rest) => .digits negative (Numeral.value digits) rest

def isNegativeCell (cell : String) : Bool :=
  (cell.toList.dropWhile isNumberBlank).head? == some '-'

/-- The most digits that a whole number has whose size is not bounded. -/
def mostDigits : Nat := 4300

/-- Read a cell as a whole number of any size, in which single underscores may stand between the
digits. -/
def bigCell? (cell : String) : Option Int :=
  let (negative, rest) := Numeral.splitSign (trimBoth isNumberBlank cell.toList)
  (Numeral.ungrouped? rest).bind fun digits =>
    if digits.length ≤ mostDigits then some (Binary64.signed negative (Numeral.value digits))
    else none

/-- Read characters as a decimal number, the nearest one there is. -/
def decimal? (cs : List Char) : Option Float :=
  let (negative, rest) := Numeral.splitSign cs
  (Numeral.magnitude? rest).map fun d => d.toFloat negative

def infinityWords : List String := ["inf", "+inf", "infinity", "+infinity"]

def negativeInfinityWords : List String := ["-inf", "-infinity"]

def numberCell? (cell : String) : Option Float :=
  match decimal? (trimBoth isNumberBlank cell.toList) with
  | some x => some x
  | none =>
      let word := String.ofList (cell.toList.map Char.toLower)
      if infinityWords.contains word then some (1.0 / 0.0)
      else if negativeInfinityWords.contains word then some (-1.0 / 0.0)
      else none

def truthCell? (cell : String) : Option Bool :=
  if ["True", "TRUE", "true"].contains cell then some true
  else if ["False", "FALSE", "false"].contains cell then some false
  else none

end MusicianGraph.Csv
