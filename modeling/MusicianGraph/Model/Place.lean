import MusicianGraph.Schema.Scalar
import MusicianGraph.Schema.Field

/-! # Places as data

A place is an object with a latitude and a longitude. A place that has been checked already is
accepted as it is. -/

namespace MusicianGraph

namespace GeoPoint

/-- A number that has to be in a range of degrees on either side of zero. -/
def degrees (most : Nat) : Value → Reading Float :=
  Schema.floatBetween (some (-most)) (some most)

/-- Read a place from the fields of an object. -/
def ofRecord (r : Record) : Reading GeoPoint :=
  let coordinates := Prod.mk <$> Schema.required r "latitude" (degrees 90)
    <*> Schema.required r "longitude" (degrees 180)
  coordinates.andThen fun (latitude, longitude) =>
    match ofDegrees? latitude longitude with
    | some p => .accepted p
    | none => .reject (.notModel "GeoPoint") (.object r)

def read : Value → Reading GeoPoint
  | .place p => .accepted p
  | v => Schema.fields "GeoPoint" ofRecord v

def dump (p : GeoPoint) : Value :=
  .object [("latitude", .float p.latitude), ("longitude", .float p.longitude)]

def schema : Schema GeoPoint := ⟨"GeoPoint", read, dump⟩

end GeoPoint

end MusicianGraph
