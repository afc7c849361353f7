import MusicianGraph.Value.Basic
import MusicianGraph.Number.Layout
import MusicianGraph.Calendar.IsoText

/-! # Writing JSON

Numbers that JSON cannot hold are written as null, places as objects and moments as texts. -/

namespace MusicianGraph.Json

/-- A code in four hexadecimal digits. -/
def hex4 (code : Nat) : List Char :=
  let digits := Nat.toDigits 16 code
  List.replicate (4 - digits.length) '0' ++ digits

def escapeChar (c : Char) : List Char :=
  if c = '"' ∨ c = '\\' then ['\\', c]
  else if c = '\n' then ['\\', 'n']
  else if c = '\r' then ['\\', 'r']
  else if c = '\t' then ['\\', 't']
  else if c.toNat < 0x20 then '\\' :: 'u' :: hex4 c.toNat
  else [c]

def textForm (s : String) : String :=
  String.ofList ('"' :: (s.toList.flatMap escapeChar ++ ['"']))

/-- A floating point number, or null where there is no such number in JSON. -/
def numberForm (x : Float) : String :=
  if isFiniteNumber x then numberText x else "null"

/-- A value that is neither a list nor an object. -/
def leafForm : Value → String
  | .bool b => if b then "true" else "false"
  | .int n => toString n
  | .float x => numberForm x
  | .text s => textForm s
  | .moment t | .storedMoment t _ => textForm (IsoText.render t)
  | .storedDay d => textForm (String.ofList (IsoText.renderDate d))
  | _ => "null"

def objectForm (fields : List String) : String :=
  "\x7b" ++ ",".intercalate fields ++ "\x7d"

def fieldForm (name form : String) : String := textForm name ++ ":" ++ form

mutual

def write : Value → String
  | .list items => "[" ++ ",".intercalate (writeItems items) ++ "]"
  | .object fields => objectForm (writeFields fields)
  | .place p =>
      objectForm [fieldForm "latitude" (numberForm p.latitude),
        fieldForm "longitude" (numberForm p.longitude)]
  | .coordinate name degrees => "[" ++ textForm name ++ "," ++ numberForm degrees ++ "]"
  | .point x y srid =>
      objectForm [fieldForm "x" (write x), fieldForm "y" (write y), fieldForm "srid" (write srid)]
  | v => leafForm v

def writeItems : List Value → List String
  | [] => []
  | v :: rest => write v :: writeItems rest

def writeFields : List (String × Value) → List String
  | [] => []
  | (name, v) :: rest => fieldForm name (write v) :: writeFields rest

end

end MusicianGraph.Json
