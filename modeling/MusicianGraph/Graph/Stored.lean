import MusicianGraph.Model.SearchResult
import MusicianGraph.Model.Message
import MusicianGraph.Schema.Validate

/-! # Reading stored records

Rows of the graph are read as profiles, posts, events and messages. A spatial point that is no place
on the globe (in another reference system, or out of range) is left out with a warning; it never
makes a row unreadable. Moments are taken over from the graph's own form. -/

namespace MusicianGraph

/-- What was read, and the warnings on the way. -/
structure Readout (α : Type) where
  warnings : List String
  outcome : Except Failure α

namespace Readout

variable {α β : Type}

/-- Something read without a warning. -/
def ofExcept (outcome : Except Failure α) : Readout α := ⟨[], outcome⟩

/-- Go on with what was read. -/
def andThen (r : Readout α) (next : α → Except Failure β) : Readout β :=
  ⟨r.warnings, r.outcome.bind next⟩

end Readout

namespace Stored

/-- The reference systems whose coordinates are degrees: with two and with three dimensions. -/
def degreeSystems : List Int := [4326, 4979]

/-- Are the coordinates of a reference system degrees? A point that names none has degrees. -/
def hasDegrees (srid : Value) : Bool :=
  match srid with
  | .null => true
  | _ => degreeSystems.any fun system => srid.same (.int system)

/-- The place that a spatial point is, or a warning. -/
def placeOfPoint (x y srid : Value) : Readout (Option GeoPoint) :=
  if hasDegrees srid then
    match GeoPoint.ofRecord [("latitude", y), ("longitude", x)] with
    | .accepted p => ⟨[], .ok (some p)⟩
    | _ =>
        ⟨["Ignoring out of range location x=" ++ x.shownText ++ " y=" ++ y.shownText], .ok none⟩
  else ⟨["Ignoring non WGS-84 location (srid=" ++ srid.shownText ++ ")"], .ok none⟩

def placeOfFields (r : Record) : Except Failure GeoPoint :=
  match r.get? "latitude", r.get? "longitude" with
  | none, _ => .error (.missingField "latitude")
  | _, none => .error (.missingField "longitude")
  | some latitude, some longitude =>
      (GeoPoint.ofRecord [("latitude", latitude), ("longitude", longitude)]).result "GeoPoint"

def place : Value → Readout (Option GeoPoint)
  | .null => .ofExcept (.ok none)
  | .place p => .ofExcept (.ok (some p))
  | .object r => .ofExcept ((placeOfFields r).map some)
  | .point x y srid => placeOfPoint x y srid
  | v => .ofExcept (.error (.noAttribute v "y"))

/-- A moment in the graph's own form as a plain one; other values stay. -/
def plainMoment : Value → Value
  | .storedMoment t _ => .moment t
  | .storedDay d => .moment (.ofDate d)
  | v => v

/-- The record with its location read. -/
def withPlace (r : Record) : Readout Record :=
  (place (r.getOrNull "location")).andThen fun p => .ok (r.put "location" (.ofOption .place p))

/-- The record with a moment taken over. -/
def withMoment (name : String) (r : Record) : Record :=
  r.put name (plainMoment (r.getOrNull name))

def profile (r : Record) : Readout UserProfile :=
  (withPlace r).andThen fun r => (UserProfile.ofRecord r).result "UserProfile"

def post (r : Record) : Readout Post :=
  (withPlace r).andThen fun r => (Post.ofRecord (withMoment "created_at" r)).result "Post"

def event (r : Record) : Readout Event :=
  (withPlace r).andThen fun r => (Event.ofRecord (withMoment "date" r)).result "Event"

def message (r : Record) : Readout Message :=
  .ofExcept ((Message.ofRecord (withMoment "created_at" r)).result "Message")

end Stored

end MusicianGraph
