import MusicianGraph.GeoPoint

/-! # Distances

Distances are great circle distances on a sphere, by the haversine formula, in miles. -/

namespace MusicianGraph

def earthRadiusMiles : Float := 3958.8

/-- The length of half a unit circle. -/
def halfCircle : Float := 3.141592653589793

def radians (degrees : Float) : Float := degrees * (halfCircle / 180.0)

def square (x : Float) : Float := x * x

/-- A number moved into the range from 0 to 1. -/
def clampUnit (x : Float) : Float :=
  if x < 0.0 then 0.0 else if 1.0 < x then 1.0 else x

/-- The haversine of the angle between two places. -/
def haversine (a b : GeoPoint) : Float :=
  let latitudeA := radians a.latitude
  let latitudeB := radians b.latitude
  let longitudeA := radians a.longitude
  let longitudeB := radians b.longitude
  square (Float.sin ((latitudeB - latitudeA) / 2.0)) +
    Float.cos latitudeA * Float.cos latitudeB * square (Float.sin ((longitudeB - longitudeA) / 2.0))

/-- The distance between two places in miles. -/
def distanceMiles (a b : GeoPoint) : Float :=
  2.0 * earthRadiusMiles * Float.asin (Float.sqrt (clampUnit (haversine a b)))

def distancesMiles (origin : GeoPoint) (places : List GeoPoint) : List Float :=
  places.map (distanceMiles origin)

end MusicianGraph
