import MusicianGraph.Value.Basic
import MusicianGraph.Number.Layout
import MusicianGraph.Text.Quoted
import MusicianGraph.Calendar.IsoText

/-! # The text of a value

A text is shown as it is; inside lists and objects it is quoted. Places and moments too have two
forms: on their own they are shown by what they hold, inside other values by how they are made. Not
every value can be shown: whole numbers are written with so many digits and no more. -/

namespace MusicianGraph

def callForm (name : String) (arguments : List String) : String :=
  name ++ "(" ++ ", ".intercalate arguments ++ ")"

/-- The numbers of a day. -/
def Date.callArguments (d : Date) : List String := [d.year, d.month, d.day].map toString

/-- An offset by how it is made: as the clock of universal time, or as a span of time. A span below
zero is a day back and some seconds forward. -/
def Offset.callText (o : Offset) : String :=
  if o.seconds = 0 then "datetime.timezone.utc"
  else
    let span :=
      if o.seconds < 0 then ["days=-1", "seconds=" ++ toString (o.seconds + 86400)]
      else ["seconds=" ++ toString o.seconds]
    callForm "datetime.timezone" [callForm "datetime.timedelta" span]

/-- The offset of a stored moment by how it is made. -/
def Offset.storedCallText (o : Offset) : String :=
  if o.seconds = 0 then "<UTC>"
  else callForm "pytz.FixedOffset" [toString (Int.fdiv o.seconds 60)]

namespace DateTime

/-- A moment by how it is made. Seconds are left out when they and the microseconds are zero. -/
def callText (t : DateTime) : String :=
  let fraction :=
    if t.time.micro.val ≠ 0 then [toString t.time.second.val, toString t.time.micro.val]
    else if t.time.second.val ≠ 0 then [toString t.time.second.val]
    else []
  callForm "datetime.datetime"
    (t.date.callArguments ++ [toString t.time.hour.val, toString t.time.minute.val] ++ fraction
      ++ (t.offset.map fun o => "tzinfo=" ++ o.callText).toList)

def storedCallText (t : DateTime) (nanos : Nat) : String :=
  let numbers :=
    [t.time.hour.val, t.time.minute.val, t.time.second.val, t.time.micro.val * 1000 + nanos]
  callForm "neo4j.time.DateTime"
    (t.date.callArguments ++ numbers.map toString
      ++ (t.offset.map fun o => "tzinfo=" ++ o.storedCallText).toList)

end DateTime

/-- The coordinates of a place, each with its name. -/
def GeoPoint.coordinateTexts (p : GeoPoint) : List String :=
  ["latitude=" ++ numberText p.latitude, "longitude=" ++ numberText p.longitude]

namespace Value

mutual

/-- The text of a value as it is shown inside another one. -/
def innerText : Value → String
  | null => "None"
  | bool b => if b then "True" else "False"
  | int n => toString n
  | float x => numberText x
  | text s => quoted s
  | list items => "[" ++ ", ".intercalate (innerTexts items) ++ "]"
  | object fields => "\x7b" ++ ", ".intercalate (fieldTexts fields) ++ "\x7d"
  | place p => callForm "GeoPoint" p.coordinateTexts
  | coordinate name degrees => callForm "" [quoted name, numberText degrees]
  | point x y _ => "POINT(" ++ innerText x ++ " " ++ innerText y ++ ")"
  | moment t => t.callText
  | storedMoment t nanos => t.storedCallText nanos
  | storedDay d => callForm "neo4j.time.Date" d.callArguments

def innerTexts : List Value → List String
  | [] => []
  | v :: rest => innerText v :: innerTexts rest

def fieldTexts : List (String × Value) → List String
  | [] => []
  | (name, v) :: rest => (quoted name ++ ": " ++ innerText v) :: fieldTexts rest

end

def shownText : Value → String
  | text s => s
  | place p => " ".intercalate p.coordinateTexts
  | moment t => IsoText.renderSpaced t
  | storedMoment t nanos => IsoText.renderStored t nanos
  | storedDay d => String.ofList (IsoText.renderDate d)
  | v => innerText v

/-- The most digits that a whole number is written with. -/
def mostDigits : Nat := 4300

mutual

/-- Does no whole number in a value have too many digits to be written? -/
def isShowable : Value → Bool
  | int n => n.natAbs < Nat.pow 10 mostDigits
  | list items => areShowable items
  | object fields => haveShowable fields
  | point x y _ => isShowable x && isShowable y
  | _ => true

def areShowable : List Value → Bool
  | [] => true
  | v :: rest => isShowable v && areShowable rest

def haveShowable : List (String × Value) → Bool
  | [] => true
  | (_, v) :: rest => isShowable v && haveShowable rest

end

end Value

end MusicianGraph
