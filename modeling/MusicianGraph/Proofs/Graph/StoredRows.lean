import MusicianGraph.Proofs.Schema.Accepted
import MusicianGraph.Graph.Stored

/-! # Reading rows

A stored row is read after its location was taken apart and its moment was taken over. What comes of
it is told here column by column: which value each column has to hold for a given model to be read.
-/

namespace MusicianGraph

open Schema

variable {α : Type}

theorem Reading.result_ok_iff {title : String} {r : Reading α} {a : α} :
    r.result title = .ok a ↔ r = .accepted a := by
  cases r <;> simp [result]

/-- A place that has been read is taken as it is. -/
theorem optional_place_iff {location found : Option GeoPoint} :
    optional GeoPoint.read (.ofOption .place location) = .accepted found ↔ location = found := by
  cases location with
  | none => simp [Schema.optional, Value.ofOption]
  | some p => simp [Schema.optional, Value.ofOption, GeoPoint.read, Reading.map]

namespace Stored

/-- The location is read first, and then the record with the place in it. -/
theorem withPlace_ok_iff {read : Record → Reading α} {title : String} {row : Record} {a : α} :
    ((withPlace row).andThen fun r => (read r).result title).outcome = .ok a ↔
      ∃ location, (place (row.getOrNull "location")).outcome = .ok location ∧
        read (row.put "location" (.ofOption .place location)) = .accepted a := by
  rw [withPlace, Readout.andThen, Readout.andThen]
  dsimp only
  cases (place (row.getOrNull "location")).outcome with
  | error f => simp [Except.bind]
  | ok location =>
    change (read _).result title = .ok a ↔ _
    rw [Reading.result_ok_iff]
    simp

theorem profile_ok_iff (row : Record) (p : UserProfile) :
    (profile row).outcome = .ok p ↔
      (place (row.getOrNull "location")).outcome = .ok p.location ∧
      text (row.getOrNull "user_id") = .accepted p.userId ∧
      text (row.getOrNull "username") = .accepted p.username ∧
      optional text (row.getOrNull "name") = .accepted p.name ∧
      optional text (row.getOrNull "bio") = .accepted p.bio ∧
      optional text (row.getOrNull "avatar_url") = .accepted p.avatarUrl ∧
      tags (row.getOrNull "genres") = .accepted p.genres ∧
      tags (row.getOrNull "instruments") = .accepted p.instruments ∧
      nullAs 0 int (row.getOrNull "post_count") = .accepted p.postCount ∧
      nullAs 0 int (row.getOrNull "followers_count") = .accepted p.followersCount ∧
      nullAs 0 int (row.getOrNull "following_count") = .accepted p.followingCount ∧
      optional float (row.getOrNull "hour_rate") = .accepted p.hourRate ∧
      nullAs false bool (row.getOrNull "solo_artist") = .accepted p.soloArtist := by
  rw [profile, withPlace_ok_iff]
  simp [UserProfile.ofRecord_accepted_iff, Record.getOrNull_put, optional_place_iff]

theorem post_ok_iff (row : Record) (p : Post) :
    (post row).outcome = .ok p ↔
      (place (row.getOrNull "location")).outcome = .ok p.location ∧
      text (row.getOrNull "post_id") = .accepted p.postId ∧
      text (row.getOrNull "user_id") = .accepted p.userId ∧
      optional text (row.getOrNull "title") = .accepted p.title ∧
      optional text (row.getOrNull "caption") = .accepted p.caption ∧
      optional text (row.getOrNull "media_url") = .accepted p.mediaUrl ∧
      optional MediaType.read (row.getOrNull "media_type") = .accepted p.mediaType ∧
      tags (row.getOrNull "genre_filters") = .accepted p.genreFilters ∧
      nullAs 0 int (row.getOrNull "likes_count") = .accepted p.likesCount ∧
      nullAs false bool (row.getOrNull "is_notice") = .accepted p.isNotice ∧
      optional moment (plainMoment (row.getOrNull "created_at")) = .accepted p.createdAt := by
  rw [post, withPlace_ok_iff]
  simp [Post.ofRecord_accepted_iff, withMoment, Record.getOrNull_put, optional_place_iff]

theorem event_ok_iff (row : Record) (e : Event) :
    (event row).outcome = .ok e ↔
      (place (row.getOrNull "location")).outcome = .ok e.location ∧
      text (row.getOrNull "event_id") = .accepted e.eventId ∧
      text (row.getOrNull "host_id") = .accepted e.hostId ∧
      text (row.getOrNull "name") = .accepted e.name ∧
      optional text (row.getOrNull "description") = .accepted e.description ∧
      optional text (row.getOrNull "image_url") = .accepted e.imageUrl ∧
      optional moment (plainMoment (row.getOrNull "date")) = .accepted e.date := by
  rw [event, withPlace_ok_iff]
  simp [Event.ofRecord_accepted_iff, withMoment, Record.getOrNull_put, optional_place_iff]

theorem message_ok_iff (row : Record) (m : Message) :
    (message row).outcome = .ok m ↔
      text (row.getOrNull "message_id") = .accepted m.messageId ∧
      text (row.getOrNull "sender_id") = .accepted m.senderId ∧
      text (row.getOrNull "receiver_id") = .accepted m.receiverId ∧
      text (row.getOrNull "text") = .accepted m.text ∧
      optional moment (plainMoment (row.getOrNull "created_at")) = .accepted m.createdAt := by
  rw [message, Readout.ofExcept, Reading.result_ok_iff]
  simp [Message.ofRecord_accepted_iff, withMoment, Record.getOrNull_put]

end Stored

namespace GeoPoint

/-- A number within the bounds is read as it is. -/
theorem degrees_accepted {most : Nat} {x : Float} (upper : x ≤ Float.ofInt most)
    (lower : Float.ofInt (-most) ≤ x) : degrees most (.float x) = .accepted x := by
  simp [degrees, floatBetween, float, Reading.andThen, upper, lower]

/-- The bounds of latitudes are whole numbers. -/
theorem isLatitude_iff {x : Float} :
    isLatitude x = true ↔ x ≤ Float.ofInt 90 ∧ Float.ofInt (-90) ≤ x := by
  have north : Float.ofInt 90 = 90.0 ∧ Float.ofInt (-90) = -90.0 := by decide +kernel
  rw [isLatitude, Bool.and_eq_true, decide_eq_true_eq, decide_eq_true_eq, north.1, north.2]

theorem isLongitude_iff {x : Float} :
    isLongitude x = true ↔ x ≤ Float.ofInt 180 ∧ Float.ofInt (-180) ≤ x := by
  have east : Float.ofInt 180 = 180.0 ∧ Float.ofInt (-180) = -180.0 := by decide +kernel
  rw [isLongitude, Bool.and_eq_true, decide_eq_true_eq, decide_eq_true_eq, east.1, east.2]

/-- The coordinates of a place make the same place again. -/
theorem ofRecord_coordinates (p : GeoPoint) :
    ofRecord [("latitude", .float p.latitude), ("longitude", .float p.longitude)] =
      .accepted p := by
  obtain ⟨latitude, longitude, valid, valid'⟩ := p
  have vertical := isLatitude_iff.mp valid
  have horizontal := isLongitude_iff.mp valid'
  have first : required [("latitude", .float latitude), ("longitude", .float longitude)] "latitude"
      (degrees 90) = .accepted latitude := by
    change Reading.within _ (degrees 90 (.float latitude)) = _
    rw [degrees_accepted vertical.1 vertical.2, Reading.within_accepted_iff]
  have second : required [("latitude", .float latitude), ("longitude", .float longitude)]
      "longitude" (degrees 180) = .accepted longitude := by
    change Reading.within _ (degrees 180 (.float longitude)) = _
    rw [degrees_accepted horizontal.1 horizontal.2, Reading.within_accepted_iff]
  have both : ofDegrees? latitude longitude = some ⟨latitude, longitude, valid, valid'⟩ :=
    dif_pos ⟨valid, valid'⟩
  simp only [ofRecord, first, second, Functor.map, Reading.map, Seq.seq, Reading.seq,
    Reading.andThen, both]

/-- A place as data is read as the same place. -/
theorem read_dump (p : GeoPoint) : read p.dump = .accepted p := ofRecord_coordinates p

end GeoPoint

namespace Stored

/-- A point in degrees is read as the place with its coordinates, `y` being the latitude. -/
theorem place_point (p : GeoPoint) :
    (place (.point (.float p.longitude) (.float p.latitude) (.int 4326))).outcome =
      .ok (some p) := by
  have degrees : hasDegrees (.int 4326) = true := by decide +kernel
  rw [place, placeOfPoint, if_pos degrees, GeoPoint.ofRecord_coordinates]

end Stored

end MusicianGraph
