import MusicianGraph.Calendar.DateTime
import MusicianGraph.GeoPoint
import MusicianGraph.Number.Binary64

/-! # Values

What requests, stored records and statement parameters hold: the values of JSON, with whole numbers
kept apart from floating point ones and the fields of an object kept in order, and the values that
the graph adds: places, spatial points, moments and days. -/

namespace MusicianGraph

/-- A value. -/
inductive Value where
  | null
  | bool (b : Bool)
  | int (n : Int)
  | float (x : Float)
  | text (s : String)
  | list (items : List Value)
  | object (fields : List (String × Value))
  /-- A place that has been checked. -/
  | place (p : GeoPoint)
  /-- One of the two coordinates of a place, with its name. -/
  | coordinate (name : String) (degrees : Float)
  /-- A spatial point as the graph stores it: `x` runs east, `y` north, `srid` names the
  reference system. -/
  | point (x y srid : Value)
  | moment (t : DateTime)
  /-- A moment as the graph stores it, with the nanoseconds after its microsecond. -/
  | storedMoment (t : DateTime) (nanos : Fin 1000)
  /-- A day as the graph stores it. -/
  | storedDay (d : Date)

/-- The fields of a record, in order. -/
abbrev Record := List (String × Value)

namespace Record

/-- The value of the first field with the name. -/
def get? (r : Record) (name : String) : Option Value := r.lookup name

/-- The value of a field; a missing field reads as null. -/
def getOrNull (r : Record) (name : String) : Value := (r.get? name).getD .null

/-- Set a field, in its place if the record has it and at the end otherwise. -/
def put (r : Record) (name : String) (v : Value) : Record :=
  if (r.get? name).isSome then r.map fun field => if field.1 == name then (name, v) else field
  else r ++ [(name, v)]

def names (r : Record) : List String := r.map (·.1)

end Record

namespace Value

instance : Inhabited Value := ⟨null⟩

def ofOption {α : Type} (f : α → Value) : Option α → Value
  | none => null
  | some a => f a

def ofTexts (texts : List String) : Value := list (texts.map text)

/-- The kind of a value, as it is called in messages. -/
def kindName : Value → String
  | null => "NoneType"
  | bool _ => "bool"
  | int _ => "int"
  | float _ => "float"
  | text _ => "str"
  | list _ => "list"
  | object _ => "dict"
  | place _ => "GeoPoint"
  | coordinate .. => "tuple"
  | point .. => "Point"
  | moment _ => "datetime.datetime"
  | storedMoment .. => "DateTime"
  | storedDay _ => "Date"

/-- The items that a value is gone through by: the characters of a text, the items of a list, the
names of an object's fields, the coordinates of a place or of a spatial point, and the two parts of
a coordinate. Other values have none. -/
def items? : Value → Option (List Value)
  | text s => some (s.toList.map fun c => text (String.ofList [c]))
  | list items => some items
  | object fields => some (fields.map fun field => text field.1)
  | place p => some [coordinate "latitude" p.latitude, coordinate "longitude" p.longitude]
  | coordinate name degrees => some [text name, float degrees]
  | point x y _ => some [x, y]
  | _ => none

/-- Does a value count as true? Null, zero and whatever is empty do not. -/
def isTruthy : Value → Bool
  | null => false
  | bool b => b
  | int n => n != 0
  | float x => !(x == 0.0)
  | text s => !s.isEmpty
  | list items => !items.isEmpty
  | object fields => !fields.isEmpty
  | _ => true

mutual

def isWritable : Value → Bool
  | float x => isFiniteNumber x
  | list items => areWritable items
  | object fields => haveWritable fields
  | _ => true

/-- Has JSON all the numbers in some items? -/
def areWritable : List Value → Bool
  | [] => true
  | v :: rest => isWritable v && areWritable rest

/-- Has JSON all the numbers in some fields? -/
def haveWritable : List (String × Value) → Bool
  | [] => true
  | (_, v) :: rest => isWritable v && haveWritable rest

end

mutual

/-- The part of a value that some data mentions, at every depth: of an object the fields that the
data has too. -/
def restrictTo : Value → Value → Value
  | object fields, object kept => object (restrictFields fields kept)
  | list items, list kept => list (restrictItems items kept)
  | _, whole => whole

/-- The fields that the data has, each restricted to its data. -/
def restrictFields : List (String × Value) → List (String × Value) → List (String × Value)
  | [], _ => []
  | (name, data) :: rest, kept =>
      match kept.lookup name with
      | some v => (name, restrictTo data v) :: restrictFields rest kept
      | none => restrictFields rest kept

/-- Each item restricted to the data at its place. -/
def restrictItems : List Value → List Value → List Value
  | data :: rest, v :: kept => restrictTo data v :: restrictItems rest kept
  | _, kept => kept

end

end Value

end MusicianGraph
