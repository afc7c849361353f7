import MusicianGraph.Model.Place
import MusicianGraph.Graph.Conversation
import MusicianGraph.Graph.Projection
import MusicianGraph.Graph.Stored
import MusicianGraph.Value.Order
import MusicianGraph.Text.Blank

/-! # Arguments and rows

What the operations have in common: the parameters of a location, the bounds of a page, and the
columns that are read off a row. Arguments are values of any kind; most of them are passed on as
they are, and those that an operation works with are refused when they are not of the right kind. -/

namespace MusicianGraph

/-- The parameters of a location, as a place or as nothing. -/
def coordinateParams : Option GeoPoint → Record
  | none => [("latitude", .null), ("longitude", .null)]
  | some p => [("latitude", .float p.latitude), ("longitude", .float p.longitude)]

/-- The parameters of a location that is given as null, as a place or as an object. -/
def locationParams (v : Value) : Except Failure Record :=
  match v with
  | .null => .ok (coordinateParams none)
  | _ => (GeoPoint.schema.validate v).map fun p => coordinateParams (some p)

/-- A text without the blanks around it. -/
def strippedText : Value → Except Failure String
  | .text s => .ok (strip s)
  | v => .error (.noAttribute v "strip")

/-- An argument that may be left out. -/
def Value.orDefault (v standard : Value) : Value :=
  match v with
  | .null => standard
  | _ => v

/-- The part of an ordered list that is asked for. -/
structure Page where
  page : Value := .int 0
  limit : Value := .int 20

namespace Page

/-- A page has a number from 0 on and holds at least one row. -/
def check (p : Page) : Except Failure Unit := do
  if ← p.page.against .below then .error .negativePage
  else if ← p.limit.against .atMost then .error .nonPositiveLimit
  else .ok ()

/-- The parameters that cut the page out of the list. -/
def params (p : Page) : Except Failure Record := do
  p.check
  let skip ← p.page.times p.limit
  .ok [("skip", skip), ("limit", p.limit)]

end Page

namespace Record

def column (r : Record) (name : String) : Except Failure Value :=
  match r.get? name with
  | some v => .ok v
  | none => .error (.missingField name)

def count (r : Record) (name : String) : Except Failure Int := do
  let v ← r.column name
  v.toInt

end Record

namespace Conversation

variable {α : Type}

/-- Tell what was read, its warnings first. -/
def ofReadout (r : Readout α) : Conversation α :=
  r.warnings.foldr (fun warning rest => note (.logged .warning warning) rest) (ofExcept r.outcome)

/-- Read the rows of a reply one after the other. -/
def readRows (read : Record → Readout α) : List Record → Conversation (List α)
  | [] => done []
  | row :: rest => do
      let first ← ofReadout (read row)
      let others ← readRows read rest
      pure (first :: others)

end Conversation

end MusicianGraph
