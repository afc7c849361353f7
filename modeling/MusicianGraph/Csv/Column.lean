import MusicianGraph.Csv.Cell

/-! # The kinds of columns

Unless a column is declared as text, its cells decide what it holds: whole numbers, floating point
numbers, truth values or texts, the first of these that all of them are. A column of whole numbers
in which some value is missing holds floating point numbers. Whole numbers that do not fit in 64
bits are kept when all cells are whole numbers; otherwise the column holds its cells as they are,
missing values too. -/

namespace MusicianGraph.Csv

/-- One more than the greatest number of 64 bits with a sign. -/
def signedBound : Nat := Nat.pow 2 63

/-- One more than the greatest number of 64 bits without a sign. -/
def unsignedBound : Nat := Nat.pow 2 64

def isSigned (negative : Bool) (size : Nat) : Bool :=
  if negative then size ≤ signedBound else size < signedBound

inductive WholeColumn where
  | numbers
  /-- Not all of them are whole numbers. -/
  | mixed
  /-- A number is too large for 64 bits. -/
  | tooLarge
  /-- Large numbers stand next to negative ones or to missing values. -/
  | conflict
deriving DecidableEq, Repr

/-- A cell that is no number of 64 bits without a sign, and what that makes of its column. Missing
values and whatever begins with a minus are passed over. -/
def unsignedFault? (cell : String) : Option WholeColumn :=
  if isNegativeCell cell then none
  else
    match wholeCell cell with
    | .missing => none
    | .other => some .mixed
    | .digits _ size rest =>
        if unsignedBound ≤ size then some (if rest.isEmpty then .tooLarge else .mixed)
        else if rest.all isNumberBlank then none
        else some .mixed

/-- Is a cell a number that needs all 64 bits? -/
def isLargeCell (cell : String) : Bool :=
  match wholeCell cell with
  | .digits negative size _ => !negative && signedBound ≤ size
  | _ => false

/-- Read cells as numbers without a sign. The first cell that is no such number decides. -/
def unsignedColumn (cells : List String) : WholeColumn :=
  match cells.findSome? unsignedFault? with
  | some column => column
  | none =>
      let hasNegative := cells.any isNegativeCell
      if cells.any isLargeCell && (hasNegative || cells.any isMissing) then .conflict
      else if hasNegative then .tooLarge
      else .numbers

/-- Read cells as whole numbers with a sign. The first cell that is no such number decides; if it
is too large, and nothing follows its digits, all cells are read again as numbers without a
sign. -/
def wholeColumn (cells : List String) : WholeColumn :=
  let fault? := cells.findSome? fun cell =>
    match wholeCell cell with
    | .missing => none
    | .other => some WholeColumn.mixed
    | .digits negative size rest =>
        if !isSigned negative size then some (if rest.isEmpty then unsignedColumn cells else .mixed)
        else if rest.all isNumberBlank then none
        else some .mixed
  fault?.getD .numbers

/-- The values of cells of which each is missing or has a value. -/
def valuesOr? (read : String → Option Value) (cells : List String) : Option (List Value) :=
  cells.mapM fun cell => if isMissing cell then some .null else read cell

def textValues (cells : List String) : List Value :=
  cells.map fun cell => if isMissing cell then .null else .text cell

def rawValues (cells : List String) : List Value := cells.map .text

def wholeValue? (cell : String) : Option Value :=
  match wholeCell cell with
  | .digits negative size _ => some (.int (Binary64.signed negative size))
  | _ => none

/-- A cell of a column of whole numbers in which values are missing. -/
def inexactWholeValue? (cell : String) : Option Value :=
  match wholeCell cell with
  | .digits negative size _ => some (.float (Float.ofInt (Binary64.signed negative size)))
  | _ => none

/-- The values of a column that does not hold whole numbers only. -/
def otherValues (cells : List String) : List Value :=
  match valuesOr? (fun cell => (numberCell? cell).map .float) cells with
  | some values => values
  | none =>
      match valuesOr? (fun cell => (truthCell? cell).map .bool) cells with
      | some values => values
      | none => textValues cells

/-- The values of a column, as its cells decide. -/
def columnValues (cells : List String) : List Value :=
  match wholeColumn cells with
  | .mixed => otherValues cells
  | .tooLarge => (valuesOr? (fun cell => (bigCell? cell).map .int) cells).getD (rawValues cells)
  | .conflict => rawValues cells
  | .numbers =>
      let read := if cells.any isMissing then inexactWholeValue? else wholeValue?
      (valuesOr? read cells).getD (textValues cells)

end MusicianGraph.Csv
