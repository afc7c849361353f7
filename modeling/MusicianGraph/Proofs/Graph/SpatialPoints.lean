import MusicianGraph.Proofs.Graph.StoredRows
import MusicianGraph.Proofs.Number.WholeNumbers

/-! # Stored spatial points

Rows may hold a spatial point that is no place on the globe. Such a point costs the row its location
and a warning, and nothing else: what is read, or why nothing can be read, is the same as without a
location. A point on the globe is read as the object that names its latitude and its longitude. -/

namespace MusicianGraph

/-- A coordinate of a spatial point: a whole number or a floating point number, which may be
infinite or undefined. -/
inductive Coordinate where
  | whole (n : Int)
  | inexact (x : Float)

namespace Coordinate

def value : Coordinate → Value
  | whole n => .int n
  | inexact x => .float x

/-- Is the coordinate at most so many degrees away from zero? An undefined one is not. -/
def Within (most : Nat) : Coordinate → Prop
  | whole n => -most ≤ n ∧ n ≤ most
  | inexact x => Float.ofInt (-most) ≤ x ∧ x ≤ Float.ofInt most

end Coordinate

namespace Schema

/-- A whole number is read as the floating point number nearest to it, unless that is infinite. -/
theorem float_int_accepted_iff {n : Int} {x : Float} :
    float (.int n) = .accepted x ↔ n.natAbs < leastTooLarge ∧ Float.ofInt n = x := by
  rw [float, floatOfInt?, ← isFiniteNumber_ofInt_iff]
  cases isFiniteNumber (Float.ofInt n) <;> simp [Reading.reject]

end Schema

namespace GeoPoint

/-- Degrees are accepted if they are read and keep to both bounds. -/
theorem degrees_eq_accepted_iff {most : Nat} {v : Value} {x : Float} :
    degrees most v = .accepted x ↔
      Schema.float v = .accepted x ∧ x ≤ Float.ofInt most ∧ Float.ofInt (-most) ≤ x := by
  simp [degrees, Schema.floatBetween_accepted_iff]

/-- A coordinate is accepted exactly if it is in range. -/
theorem degrees_accepted_iff {most : Nat} (few : most < 2 ^ 53) (c : Coordinate) :
    (∃ x, degrees most c.value = .accepted x) ↔ c.Within most := by
  simp only [degrees_eq_accepted_iff]
  cases c with
  | inexact x =>
    constructor
    · rintro ⟨y, read, upper, lower⟩
      cases read
      exact ⟨lower, upper⟩
    · rintro ⟨lower, upper⟩
      exact ⟨x, rfl, upper, lower⟩
  | whole n =>
    simp only [Coordinate.value, Schema.float_int_accepted_iff]
    have upper : Float.ofInt n ≤ Float.ofInt most ↔ n ≤ most :=
      ofInt_le_ofInt_iff (.inr (by omega))
    have lower : Float.ofInt (-most) ≤ Float.ofInt n ↔ -most ≤ n :=
      ofInt_le_ofInt_iff (.inl (by omega))
    constructor
    · rintro ⟨_, ⟨-, rfl⟩, below, above⟩
      exact ⟨lower.mp above, upper.mp below⟩
    · rintro ⟨above, below⟩
      have small : n.natAbs < leastTooLarge := lt_leastTooLarge (by omega)
      exact ⟨_, ⟨small, rfl⟩, upper.mpr below, lower.mpr above⟩

/-- The coordinates make a place exactly if both are in range. -/
theorem ofRecord_accepted_iff (x y : Coordinate) :
    (∃ p, ofRecord [("latitude", y.value), ("longitude", x.value)] = .accepted p) ↔
      y.Within 90 ∧ x.Within 180 := by
  have vertical : ∀ a, Schema.required [("latitude", y.value), ("longitude", x.value)] "latitude"
      (degrees 90) = .accepted a ↔ degrees 90 y.value = .accepted a := fun a =>
    Schema.required_accepted_iff (degrees 90) fun _ => nofun
  have horizontal : ∀ b, Schema.required [("latitude", y.value), ("longitude", x.value)] "longitude"
      (degrees 180) = .accepted b ↔ degrees 180 x.value = .accepted b := fun b =>
    Schema.required_accepted_iff (degrees 180) fun _ => nofun
  rw [← degrees_accepted_iff (by decide) y, ← degrees_accepted_iff (by decide) x]
  simp only [ofRecord, Reading.andThen_accepted_iff, Reading.seq_accepted_iff,
    Reading.map_accepted_iff, vertical, horizontal]
  constructor
  · rintro ⟨p, _, ⟨_, b, ⟨a, north, rfl⟩, east, rfl⟩, -⟩
    exact ⟨⟨a, north⟩, ⟨b, east⟩⟩
  · rintro ⟨⟨a, north⟩, ⟨b, east⟩⟩
    have valid := isLatitude_iff.mpr (degrees_eq_accepted_iff.mp north).2
    have valid' := isLongitude_iff.mpr (degrees_eq_accepted_iff.mp east).2
    have both : ofDegrees? a b = some ⟨a, b, valid, valid'⟩ := dif_pos ⟨valid, valid'⟩
    refine ⟨⟨a, b, valid, valid'⟩, (a, b), ⟨_, b, ⟨a, north, rfl⟩, east, rfl⟩, ?_⟩
    simp only [both]

end GeoPoint

namespace Stored

/-- Does a reference system have other coordinates than degrees? A point without one has degrees. -/
def IsForeign (srid : Value) : Prop :=
  srid ≠ .null ∧ srid.same (.int 4326) = false ∧ srid.same (.int 4979) = false

theorem hasDegrees_eq_false_iff {srid : Value} : hasDegrees srid = false ↔ IsForeign srid := by
  cases srid <;> simp [hasDegrees, IsForeign, degreeSystems]

/-- How a reader of rows takes spatial points. One that is no place on the globe is read as no
location, with one warning that tells why; any other one is read as the object with its latitude and
its longitude. -/
structure Isolates {α : Type} (read : Record → Readout α) : Prop where
  /-- Reading a row without a location gives no warning. -/
  silent (r : Record) : (read (r.put "location" .null)).warnings = []
  foreign (r : Record) (x y : Coordinate) {srid : Value} : IsForeign srid →
    read (r.put "location" (.point x.value y.value srid)) =
      ⟨["Ignoring non WGS-84 location (srid=" ++ srid.shownText ++ ")"],
        (read (r.put "location" .null)).outcome⟩
  outside (r : Record) (x y : Coordinate) {srid : Value} : ¬ IsForeign srid →
    ¬ (y.Within 90 ∧ x.Within 180) →
    read (r.put "location" (.point x.value y.value srid)) =
      ⟨["Ignoring out of range location x=" ++ x.value.shownText ++ " y=" ++ y.value.shownText],
        (read (r.put "location" .null)).outcome⟩
  inside (r : Record) (x y : Coordinate) {srid : Value} : ¬ IsForeign srid →
    y.Within 90 ∧ x.Within 180 →
    (read (r.put "location" (.point x.value y.value srid))).warnings = [] ∧
      read (r.put "location" (.point x.value y.value srid)) =
        read (r.put "location" (.object [("latitude", y.value), ("longitude", x.value)]))

/-- What comes of a location is all that the rest of a row is read with. -/
theorem withPlace_put (r : Record) (v : Value) :
    withPlace (r.put "location" v) =
      (place v).andThen fun p => .ok (r.put "location" (.ofOption .place p)) := by
  rw [withPlace, Record.getOrNull_put, if_pos rfl]
  simp only [Record.put_put]

section Places

variable {x y : Coordinate} {srid : Value}

theorem place_foreign (foreign : IsForeign srid) :
    place (.point x.value y.value srid) =
      ⟨["Ignoring non WGS-84 location (srid=" ++ srid.shownText ++ ")"], .ok none⟩ := by
  rw [place, placeOfPoint, hasDegrees_eq_false_iff.mpr foreign, if_neg Bool.false_ne_true]

private theorem hasDegrees_of_not_foreign (own : ¬ IsForeign srid) : hasDegrees srid = true := by
  rwa [← hasDegrees_eq_false_iff, Bool.not_eq_false] at own

theorem place_outside (own : ¬ IsForeign srid) (out : ¬ (y.Within 90 ∧ x.Within 180)) :
    place (.point x.value y.value srid) =
      ⟨["Ignoring out of range location x=" ++ x.value.shownText ++ " y=" ++ y.value.shownText],
        .ok none⟩ := by
  rw [← GeoPoint.ofRecord_accepted_iff] at out
  rw [place, placeOfPoint, if_pos (hasDegrees_of_not_foreign own)]
  split
  · rename_i p accepted
    exact absurd ⟨p, accepted⟩ out
  · rfl

theorem place_inside (own : ¬ IsForeign srid) (inside : y.Within 90 ∧ x.Within 180) :
    ∃ p, place (.point x.value y.value srid) = ⟨[], .ok (some p)⟩ ∧
      place (.object [("latitude", y.value), ("longitude", x.value)]) = ⟨[], .ok (some p)⟩ := by
  obtain ⟨p, accepted⟩ := (GeoPoint.ofRecord_accepted_iff x y).mpr inside
  refine ⟨p, ?_, ?_⟩
  · rw [place, placeOfPoint, if_pos (hasDegrees_of_not_foreign own), accepted]
  · change Readout.ofExcept (((GeoPoint.ofRecord [("latitude", y.value),
      ("longitude", x.value)]).result "GeoPoint").map some) = _
    rw [accepted]
    rfl

end Places

/-- Whatever is read after the location is read of the place alone. -/
theorem isolates_andThen {α : Type} (next : Record → Except Failure α) :
    Isolates fun r => (withPlace r).andThen next where
  silent r := by
    rw [withPlace_put]
    rfl
  foreign r x y srid foreign := by
    rw [withPlace_put, withPlace_put, place_foreign foreign]
    rfl
  outside r x y srid own out := by
    rw [withPlace_put, withPlace_put, place_outside own out]
    rfl
  inside r x y srid own inside := by
    obtain ⟨p, point, object⟩ := place_inside own inside
    rw [withPlace_put, withPlace_put, point, object]
    exact ⟨rfl, rfl⟩

/-- Profiles, posts and events are read whatever spatial point stands under their location. A bad
point costs them the location and one warning. -/
theorem points_isolated : Isolates profile ∧ Isolates post ∧ Isolates event :=
  ⟨isolates_andThen _, isolates_andThen _, isolates_andThen _⟩

end Stored

end MusicianGraph
