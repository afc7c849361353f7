import MusicianGraph.Schema.Reading
import MusicianGraph.Schema.WholeText
import MusicianGraph.Calendar.IsoText
import MusicianGraph.Calendar.Timestamp
import MusicianGraph.Text.Lowercase

/-! # Reading single values

Texts are taken as they are. Numbers, truth values and moments are also read from text and from one
another where that loses nothing. -/

namespace MusicianGraph

namespace Schema

def text : Value → Reading String
  | .text s => .accepted s
  | v => .reject .notText v

/-- A text with bounds on the number of its characters. -/
def boundedText (least most : Nat) (v : Value) : Reading String :=
  (text v).andThen fun s =>
    if s.length < least then .reject (.tooShort least) v
    else if most < s.length then .reject (.tooLong most) v
    else .accepted s

/-- The whole number that a finite floating point number is. Only those are taken whose magnitude
is below `2 ^ 63`. -/
def wholeOfFloat (x : Float) : Except Issue Int :=
  match (Binary64.ofFloat x).exactInt? with
  | none => .error .fractional
  | some n => if n.natAbs < Nat.pow 2 63 then .ok n else .error .tooLargeInteger

/-- A floating point number that stands for an integer. -/
def intOfFloat (x : Float) : Reading Int :=
  if !isFiniteNumber x then .reject .notFinite (.float x)
  else
    match wholeOfFloat x with
    | .ok n => .accepted n
    | .error issue => .reject issue (.float x)

/-- A whole number of any size. -/
def int : Value → Reading Int
  | .int n => .accepted n
  | .bool b => .accepted (if b then 1 else 0)
  | .float x => intOfFloat x
  | .text s =>
      match WholeText.ofText s with
      | .number n => .accepted n
      | .tooLong => .reject .tooLargeInteger (.text s)
      | .other => .reject .unreadableInteger (.text s)
  | v => .reject .notInteger v

/-- A number in text. There may be blanks around it or underscores in it, but not both. -/
def floatOfText? (s : String) : Option Float :=
  let cs := s.toList
  (Numeral.float? (trimBoth isWhiteSpace cs)).or (Numeral.float? (WholeText.withoutUnderscores cs))

/-- The floating point number nearest to a whole number, unless that is too large. -/
def floatOfInt? (n : Int) : Option Float :=
  let x := Float.ofInt n
  if isFiniteNumber x then some x else none

def float : Value → Reading Float
  | .float x => .accepted x
  | .int n =>
      match floatOfInt? n with
      | some x => .accepted x
      | none => .reject .notNumber (.int n)
  | .bool b => .accepted (if b then 1.0 else 0.0)
  | .text s =>
      match floatOfText? s with
      | some x => .accepted x
      | none => .reject .unreadableNumber (.text s)
  | v => .reject .notNumber v

/-- Bounds of a number; the upper one is looked at first. -/
def floatBetween (least : Option Int) (most : Option Int) (v : Value) : Reading Float :=
  (float v).andThen fun x =>
    if most.any fun bound => !(x ≤ Float.ofInt bound) then
      .reject (.aboveBound (most.getD 0)) v
    else if least.any fun bound => !(Float.ofInt bound ≤ x) then
      .reject (.belowBound (least.getD 0)) v
    else .accepted x

def wordsForFalse : List String := ["0", "off", "f", "false", "n", "no"]

def wordsForTrue : List String := ["1", "on", "t", "true", "y", "yes"]

/-- A whole number as a truth value, if it is one. -/
def boolOfInt? (n : Int) : Option Bool :=
  if n = 0 then some false else if n = 1 then some true else none

/-- A word as a truth value, if it is one. Letters count in any case. -/
def boolOfText? (s : String) : Option Bool :=
  let word := String.ofList (s.toList.map Char.toLower)
  if wordsForFalse.contains word then some false
  else if wordsForTrue.contains word then some true
  else none

/-- A truth value, or the whole number of 64 bits or the word that should be one. -/
def bool (v : Value) : Reading Bool :=
  let readable? : Option (Option Bool) :=
    match v with
    | .bool b => some (some b)
    | .int n => if -(Nat.pow 2 63 : Int) ≤ n ∧ n < Nat.pow 2 63 then some (boolOfInt? n) else none
    | .float x => (wholeOfFloat x).toOption.map boolOfInt?
    | .text s => some (boolOfText? s)
    | _ => none
  match readable? with
  | some (some b) => .accepted b
  | some none => .reject .unreadableBoolean v
  | none => .reject .notBoolean v

def texts : Value → Reading (List String)
  | .list items => .ofItems text 0 items
  | v => .reject .notList v

/-- A moment that is written down in a value. -/
def possibleMoment (input : Value) (w : WrittenMoment) : Reading DateTime :=
  match w.moment? with
  | some t => .accepted t
  | none => .reject .impossibleMoment input

/-- A moment in text: written out, or a number. -/
def momentOfText (s : String) : Reading DateTime :=
  match (IsoText.written? s).or (Timestamp.ofText? s) with
  | some w => possibleMoment (.text s) w
  | none => .reject .unreadableMoment (.text s)

def moment : Value → Reading DateTime
  | .moment t => .accepted t
  | .text s => momentOfText s
  | .int n =>
      if (floatOfInt? n).isNone then .reject .notMoment (.int n)
      else
        match Timestamp.ofInt? n with
        | some w => possibleMoment (.int n) w
        | none => .reject .impossibleMoment (.int n)
  | .float x =>
      match Timestamp.ofFloat? x with
      | some w => possibleMoment (.float x) w
      | none => .reject .impossibleMoment (.float x)
  | v => .reject .notMoment v

/-- A value that may be null. -/
def optional {α : Type} (read : Value → Reading α) : Value → Reading (Option α)
  | .null => .accepted none
  | v => (read v).map some

/-- A value for which null stands in as something else. -/
def nullAs {α : Type} (empty : α) (read : Value → Reading α) : Value → Reading α
  | .null => .accepted empty
  | v => read v

end Schema

end MusicianGraph
