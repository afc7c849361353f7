/-! # Places on the globe

A place is a latitude and a longitude in degrees. Both are proper numbers in their ranges: a number
that is not one satisfies no comparison. -/

namespace MusicianGraph

def isLatitude (x : Float) : Bool := x ≤ 90.0 && -90.0 ≤ x

def isLongitude (x : Float) : Bool := x ≤ 180.0 && -180.0 ≤ x

/-- A place in decimal degrees. -/
structure GeoPoint where
  latitude : Float
  longitude : Float
  latitude_valid : isLatitude latitude = true
  longitude_valid : isLongitude longitude = true

/-- The place with the given coordinates, if they are in range. -/
def GeoPoint.ofDegrees? (latitude longitude : Float) : Option GeoPoint :=
  if valid : isLatitude latitude = true ∧ isLongitude longitude = true then
    some ⟨latitude, longitude, valid.1, valid.2⟩
  else none

end MusicianGraph
