import MusicianGraph.Proofs.Graph.StoredRows
import MusicianGraph.Proofs.Model.Tags
import MusicianGraph.Proofs.Service.Writes
import MusicianGraph.Model.ProfileUpdate

/-! # What is written is read back

A write sends its data as the parameters of a statement, and the columns of its reply hold them
again. Here the two ends are put together: the parameters of each accepted write are known, and
reading the columns that they come back in gives what was submitted. Only tags and the names of
events are changed on the way, by being cleaned and stripped. -/

namespace MusicianGraph

open Schema

/-- The location that the graph makes of the coordinates in the parameters: none without both of
them, and otherwise a point in degrees, east first. -/
def storedLocation (params : Record) : Value :=
  match params.getOrNull "latitude", params.getOrNull "longitude" with
  | .null, _ => .null
  | _, .null => .null
  | latitude, longitude => .point longitude latitude (.int 4326)

/-- The row holds the parameters of these names in columns of the same names. -/
def Echoes (names : List String) (params row : Record) : Prop :=
  ∀ name ∈ names, row.getOrNull name = params.getOrNull name

/-- A row that has the parameters behind columns of other names. -/
theorem echoes_append {names : List String} {others : Record}
    (apart : ∀ name ∈ names, others.get? name = none) (params : Record) :
    Echoes names params (others ++ params) :=
  fun name listed => Record.getOrNull_append (apart name listed) params

section Location

/-- A submitted place is sent by its coordinates. -/
theorem locationParams_dump (location : Option GeoPoint) :
    locationParams (.ofOption GeoPoint.dump location) = .ok (coordinateParams location) := by
  cases location with
  | none => rfl
  | some p =>
    have read : GeoPoint.schema.validate p.dump = .ok p := by
      rw [Schema.validate, Reading.result_ok_iff]
      exact p.read_dump
    change (GeoPoint.schema.validate p.dump).map _ = _
    rw [read]
    rfl

/-- What the coordinates come back as is the submitted place. -/
theorem place_storedLocation (others : Record) (location : Option GeoPoint)
    (latitude : others.get? "latitude" = none) (longitude : others.get? "longitude" = none) :
    (Stored.place (storedLocation (others ++ coordinateParams location))).outcome =
      .ok location := by
  rw [storedLocation, Record.getOrNull_append latitude, Record.getOrNull_append longitude]
  cases location with
  | none => rfl
  | some p => exact Stored.place_point p

end Location

section Texts

theorem optional_text (s : Option String) :
    optional text (.ofOption .text s) = .accepted s := by
  cases s <;> rfl

theorem optional_moment (t : Option DateTime) :
    optional moment (.ofOption .moment t) = .accepted t := by
  cases t <;> rfl

theorem optional_mediaType (m : Option MediaType) :
    optional MediaType.read (.ofOption MediaType.dump m) = .accepted m := by
  rcases m with _ | _ | _ | _ <;> rfl

end Texts

section Parameters

variable {s : Statement}

theorem Posts.params_of_accepted {d : PostDraft}
    (accepted : Posts.createStatement (.ofDraft d) = .ok s) :
    s.params = [
      ("user_id", .text d.userId),
      ("title", .ofOption .text d.title),
      ("caption", .ofOption .text d.caption),
      ("media_url", .ofOption .text d.mediaUrl),
      ("media_type", .ofOption MediaType.dump d.mediaType),
      ("genre_filters", .ofTexts (Tag.cleanTexts d.genreFilters)),
      ("is_notice", .bool d.isNotice)] ++ coordinateParams d.location := by
  have media : writtenMediaType (.ofOption MediaType.dump d.mediaType) =
      .ok (.ofOption MediaType.dump d.mediaType) := by
    rcases d.mediaType with _ | _ | _ | _ <;> rfl
  have tags := Tag.cleanValue_ofTexts d.genreFilters
  obtain ⟨mediaType, genreFilters, location, same, cleaned, located, rfl⟩ :=
    createStatement_ok accepted
  cases media.symm.trans same
  cases tags.symm.trans cleaned
  cases (locationParams_dump d.location).symm.trans located
  rfl

theorem Events.params_of_accepted {d : EventDraft}
    (accepted : Events.createStatement (.ofDraft d) = .ok s) :
    s.params = [
      ("host_id", .text d.hostId),
      ("name", .text (strip d.name)),
      ("description", .ofOption .text d.description),
      ("image_url", .ofOption .text d.imageUrl),
      ("date", .ofOption .moment d.date)] ++ coordinateParams d.location := by
  obtain ⟨name, location, stripped, -, located, rfl⟩ := createStatement_ok accepted
  cases stripped
  cases (locationParams_dump d.location).symm.trans located
  rfl

theorem Messages.params_of_accepted {d : MessageDraft}
    (accepted : Messages.sendStatement (.text d.senderId) (.text d.receiverId) (.text d.text) =
      .ok s) :
    s.params = [
      ("sender_id", .text d.senderId),
      ("receiver_id", .text d.receiverId),
      ("text", .text d.text)] := by
  obtain ⟨stripped, -, -, rfl⟩ := sendStatement_ok accepted
  rfl

end Parameters

section Rows

variable {s : Statement} {row : Record}

/-- A new post reads back as it was drafted, with clean genres. -/
theorem Posts.readBack {d : PostDraft} {postId : String} {createdAt : Option DateTime}
    {likesCount : Int} (accepted : Posts.createStatement (.ofDraft d) = .ok s)
    (echoes : Echoes ["user_id", "title", "caption", "media_url", "media_type", "genre_filters",
      "is_notice"] s.params row)
    (location : row.getOrNull "location" = storedLocation s.params)
    (identified : row.getOrNull "post_id" = .text postId)
    (created : optional moment (Stored.plainMoment (row.getOrNull "created_at")) =
      .accepted createdAt)
    (counted : nullAs 0 int (row.getOrNull "likes_count") = .accepted likesCount) :
    (Stored.post row).outcome = .ok {
      postId
      userId := d.userId
      title := d.title
      caption := d.caption
      mediaUrl := d.mediaUrl
      mediaType := d.mediaType
      genreFilters := Tag.cleanTexts d.genreFilters
      likesCount
      isNotice := d.isNotice
      createdAt
      location := d.location } := by
  rw [params_of_accepted accepted] at echoes location
  rw [Stored.post_ok_iff]
  refine ⟨?_, ?_, ?_, ?_, ?_, ?_, ?_, ?_, counted, ?_, created⟩
  · rw [location]
    exact place_storedLocation _ _ rfl rfl
  · rw [identified]
    rfl
  · rw [echoes "user_id" (by decide)]
    rfl
  · rw [echoes "title" (by decide)]
    exact optional_text d.title
  · rw [echoes "caption" (by decide)]
    exact optional_text d.caption
  · rw [echoes "media_url" (by decide)]
    exact optional_text d.mediaUrl
  · rw [echoes "media_type" (by decide)]
    exact optional_mediaType d.mediaType
  · rw [echoes "genre_filters" (by decide)]
    exact tags_ofTexts (Tag.nodup_cleanTexts _)
  · rw [echoes "is_notice" (by decide)]
    rfl

/-- A new event reads back as it was drafted, with a stripped name. Its date may come in the graph's
own form. -/
theorem Events.readBack {d : EventDraft} {eventId : String}
    (accepted : Events.createStatement (.ofDraft d) = .ok s)
    (echoes : Echoes ["host_id", "name", "description", "image_url"] s.params row)
    (dated : Stored.plainMoment (row.getOrNull "date") = s.params.getOrNull "date")
    (location : row.getOrNull "location" = storedLocation s.params)
    (identified : row.getOrNull "event_id" = .text eventId) :
    (Stored.event row).outcome = .ok {
      eventId
      hostId := d.hostId
      name := strip d.name
      description := d.description
      imageUrl := d.imageUrl
      date := d.date
      location := d.location } := by
  rw [params_of_accepted accepted] at echoes dated location
  rw [Stored.event_ok_iff]
  refine ⟨?_, ?_, ?_, ?_, ?_, ?_, ?_⟩
  · rw [location]
    exact place_storedLocation _ _ rfl rfl
  · rw [identified]
    rfl
  · rw [echoes "host_id" (by decide)]
    rfl
  · rw [echoes "name" (by decide)]
    rfl
  · rw [echoes "description" (by decide)]
    exact optional_text d.description
  · rw [echoes "image_url" (by decide)]
    exact optional_text d.imageUrl
  · rw [dated]
    exact optional_moment d.date

/-- The identifier of a new post is looked at before the row is read. -/
theorem Posts.readCreated_of_identified {postId : String} {p : Post}
    (identified : row.getOrNull "post_id" = .text postId)
    (read : (Stored.post row).outcome = .ok p) : readCreated row = .ok p := by
  rw [readCreated, Record.column_of_getOrNull identified (by simp)]
  exact read

theorem Events.readCreated_of_identified {eventId : String} {e : Event}
    (identified : row.getOrNull "event_id" = .text eventId)
    (read : (Stored.event row).outcome = .ok e) : readCreated row = .ok e := by
  rw [readCreated, Record.column_of_getOrNull identified (by simp)]
  exact read

/-- A message reads back as it was drafted. -/
theorem Messages.readBack {d : MessageDraft} {messageId : String} {createdAt : Option DateTime}
    (accepted : Messages.sendStatement (.text d.senderId) (.text d.receiverId) (.text d.text) =
      .ok s)
    (echoes : Echoes ["sender_id", "receiver_id", "text"] s.params row)
    (identified : row.getOrNull "message_id" = .text messageId)
    (created : optional moment (Stored.plainMoment (row.getOrNull "created_at")) =
      .accepted createdAt) :
    (Stored.message row).outcome = .ok {
      messageId
      senderId := d.senderId
      receiverId := d.receiverId
      text := d.text
      createdAt } := by
  rw [params_of_accepted accepted] at echoes
  rw [Stored.message_ok_iff]
  refine ⟨?_, ?_, ?_, ?_, created⟩
  · rw [identified]
    rfl
  · rw [echoes "sender_id" (by decide)]
    rfl
  · rw [echoes "receiver_id" (by decide)]
    rfl
  · rw [echoes "text" (by decide)]
    rfl

end Rows

section Updates

/-- The field of a profile after an edit: kept as it was, cleared, or given a value. -/
def Edit.over {α β : Type} (kept cleared : β) (given : α → β) : Edit α → β
  | keep => kept
  | clear => cleared
  | set a => given a

/-- A profile after an update. Tags are given clean. -/
def ProfileUpdate.applyTo (u : ProfileUpdate) (p : UserProfile) : UserProfile :=
  { p with
    name := u.name.over p.name none some
    bio := u.bio.over p.bio none some
    avatarUrl := u.avatarUrl.over p.avatarUrl none some
    genres := u.genres.over p.genres [] Tag.cleanTexts
    instruments := u.instruments.over p.instruments [] Tag.cleanTexts
    location := u.location.over p.location none some
    hourRate := u.hourRate.over p.hourRate none some
    soloArtist := u.soloArtist.over p.soloArtist false id }

/-- The columns of a user besides the location. -/
def Profiles.columns : List String :=
  ["user_id", "username", "name", "bio", "avatar_url", "genres", "instruments", "post_count",
    "followers_count", "following_count", "hour_rate", "solo_artist"]

/-- The row after an update: written properties come back as they were sent, and so does the
location if it was sent; all else is as it was before. -/
structure Profiles.Overlaid (params before after : Record) : Prop where
  columns : ∀ name ∈ columns, after.getOrNull name =
    ((rowOf (params.getOrNull "props")).get? name).getD (before.getOrNull name)
  location : after.getOrNull "location" =
    if (params.get? "latitude").isSome then storedLocation params
    else before.getOrNull "location"

namespace ProfileUpdate

/-- The changes hold what is written into each field. -/
theorem get?_changes (u : ProfileUpdate) (name : String) :
    u.changes.get? name = (u.edits.lookup name).join := by
  refine Record.get?_filterMap u.edits name ?_
  change ["name", "bio", "avatar_url", "genres", "instruments", "location", "hour_rate",
    "solo_artist"].Nodup
  decide

end ProfileUpdate

/-- A field is read after an edit as it was before, as nothing, or as what it was given. -/
theorem Edit.read_written {α β : Type} {read : Value → Reading β} {write : α → Value}
    {before : Value} {kept cleared : β} {given : α → β} (keeps : read before = .accepted kept)
    (clears : read .null = .accepted cleared) (gives : ∀ a, read (write a) = .accepted (given a))
    (e : Edit α) :
    read ((e.written? write).getD before) = .accepted (e.over kept cleared given) := by
  cases e with
  | keep => exact keeps
  | clear => exact clears
  | set a => exact gives a

namespace Profiles

variable {u : ProfileUpdate} {props : Record}

/-- Tags are sent clean, and cleared ones are sent as none. -/
theorem get?_tags (success : writtenProperties u.changes = .ok props) {name : String}
    (listed : name ∈ tagProperties) {edit : Edit (List String)}
    (edited : u.changes.get? name = edit.written? .ofTexts) :
    props.get? name = edit.over none (some (.ofTexts []))
      fun tags => some (.ofTexts (Tag.cleanTexts tags)) := by
  have written : ∀ name ∈ tagProperties, name ∈ properties := by decide
  rcases get?_writtenProperties success (written name listed) with
    ⟨unchanged, unsent⟩ | ⟨v, w, given, made, sent⟩
  · rw [unchanged] at edited
    cases edit <;> first | exact unsent | cases edited
  · rw [property, if_pos (List.contains_iff_mem.mpr listed)] at made
    rw [given] at edited
    rw [sent]
    cases edit with
    | keep => cases edited
    | clear => cases edited; cases made; rfl
    | set tags =>
      cases edited
      rw [Tag.cleanValue_ofTexts] at made
      cases made
      rfl

/-- The location is sent by its coordinates, and a cleared one is sent without any. -/
theorem writtenLocation_changes (u : ProfileUpdate) :
    writtenLocation u.changes = .ok (u.location.over none (some (coordinateParams none))
      fun p => some (coordinateParams (some p))) := by
  have changed : u.changes.get? "location" = u.location.written? GeoPoint.dump :=
    u.get?_changes "location"
  rw [writtenLocation, changed]
  cases u.location with
  | keep => rfl
  | clear => rfl
  | set p => exact congrArg (Except.map some) (locationParams_dump (some p))

/-- Tags are read after an edit as they were before, or as the clean form of what was given. -/
theorem read_tags (success : writtenProperties u.changes = .ok props) {name : String}
    (listed : name ∈ tagProperties) {edit : Edit (List String)}
    (edited : u.changes.get? name = edit.written? .ofTexts) {before : Value} {kept : List String}
    (keeps : tags before = .accepted kept) :
    tags ((props.get? name).getD before) =
      .accepted (edit.over kept [] Tag.cleanTexts) := by
  rw [get?_tags success listed edited]
  cases edit with
  | keep => exact keeps
  | clear => exact tags_ofTexts List.nodup_nil
  | set given => exact tags_ofTexts (Tag.nodup_cleanTexts _)

/-- The location is read after an update as it was before, or as what it was changed to. -/
theorem read_location {userId : Value} {location : Option Record}
    (written : writtenLocation u.changes = .ok location) {before after : Record}
    {kept : Option GeoPoint}
    (keeps : (Stored.place (before.getOrNull "location")).outcome = .ok kept)
    (overlaid : Overlaid ([("user_id", userId), ("props", .object props)] ++ location.getD [])
      before after) :
    (Stored.place (after.getOrNull "location")).outcome =
      .ok (u.location.over kept none some) := by
  have row := overlaid.location
  have stored := fun sent =>
    place_storedLocation [("user_id", userId), ("props", .object props)] sent rfl rfl
  rw [writtenLocation_changes] at written
  cases written
  rw [row]
  cases u.location with
  | keep => exact keeps
  | clear => exact stored none
  | set p => exact stored (some p)

end Profiles

/-- An updated profile reads back with the update applied to it. -/
theorem Profiles.readBack {u : ProfileUpdate} {userId : Value} {s : Statement}
    {before after : Record} {p : UserProfile}
    (accepted : updateStatement userId u.changes = .ok s)
    (readable : (Stored.profile before).outcome = .ok p)
    (overlaid : Overlaid s.params before after) :
    (Stored.profile after).outcome = .ok (u.applyTo p) := by
  obtain ⟨props, location, success, located, rfl⟩ := updateStatement_ok accepted
  have column : ∀ name ∈ columns, after.getOrNull name =
      (props.get? name).getD (before.getOrNull name) := overlaid.columns
  have same : ∀ name ∈ columns, name ∉ properties →
      after.getOrNull name = before.getOrNull name := by
    intro name listed unlisted
    rw [column name listed, get?_unlisted success unlisted]
    rfl
  have plain : ∀ name ∈ columns, name ∈ properties → tagProperties.contains name = false →
      after.getOrNull name = ((u.edits.lookup name).join).getD (before.getOrNull name) := by
    intro name listed written untagged
    rw [column name listed, get?_plain success written untagged, u.get?_changes]
  rw [Stored.profile_ok_iff] at readable ⊢
  obtain ⟨place, id, username, name, bio, avatar, genres, instruments, posts, followers, following,
    rate, solo⟩ := readable
  refine ⟨read_location located place overlaid, ?_, ?_, ?_, ?_, ?_, ?_, ?_, ?_, ?_, ?_, ?_, ?_⟩
  · rw [same "user_id" (by decide) (by decide)]
    exact id
  · rw [same "username" (by decide) (by decide)]
    exact username
  · rw [plain "name" (by decide) (by decide) rfl]
    exact u.name.read_written name rfl fun _ => rfl
  · rw [plain "bio" (by decide) (by decide) rfl]
    exact u.bio.read_written bio rfl fun _ => rfl
  · rw [plain "avatar_url" (by decide) (by decide) rfl]
    exact u.avatarUrl.read_written avatar rfl fun _ => rfl
  · rw [column "genres" (by decide)]
    exact read_tags success (by decide) (u.get?_changes "genres") genres
  · rw [column "instruments" (by decide)]
    exact read_tags success (by decide) (u.get?_changes "instruments") instruments
  · rw [same "post_count" (by decide) (by decide)]
    exact posts
  · rw [same "followers_count" (by decide) (by decide)]
    exact followers
  · rw [same "following_count" (by decide) (by decide)]
    exact following
  · rw [plain "hour_rate" (by decide) (by decide) rfl]
    exact u.hourRate.read_written rate rfl fun _ => rfl
  · rw [plain "solo_artist" (by decide) (by decide) rfl]
    exact u.soloArtist.read_written solo rfl fun _ => rfl

end Updates

section Payloads

/-- The post has what was submitted, with clean genres. -/
structure Posts.AsSubmitted (payload : Record) (p : Post) : Prop where
  userId : required payload "user_id" text = .accepted p.userId
  title : defaulted payload "title" none (optional text) = .accepted p.title
  caption : defaulted payload "caption" none (optional text) = .accepted p.caption
  mediaUrl : defaulted payload "media_url" none (optional text) = .accepted p.mediaUrl
  mediaType : defaulted payload "media_type" none (optional MediaType.read) = .accepted p.mediaType
  genreFilters : (defaulted payload "genre_filters" [] texts).map Tag.cleanTexts =
    .accepted p.genreFilters
  isNotice : defaulted payload "is_notice" false bool = .accepted p.isNotice
  location : defaulted payload "location" none (optional GeoPoint.read) = .accepted p.location

/-- The event has what was submitted, with a stripped name. -/
structure Events.AsSubmitted (payload : Record) (e : Event) : Prop where
  hostId : required payload "host_id" text = .accepted e.hostId
  name : (required payload "name" (boundedText 1 EventDraft.longestName)).map strip =
    .accepted e.name
  description : defaulted payload "description" none (optional text) = .accepted e.description
  imageUrl : defaulted payload "image_url" none (optional text) = .accepted e.imageUrl
  date : defaulted payload "date" none (optional moment) = .accepted e.date
  location : defaulted payload "location" none (optional GeoPoint.read) = .accepted e.location

/-- The message has what was submitted. -/
structure Messages.AsSubmitted (payload : Record) (m : Message) : Prop where
  senderId : required payload "sender_id" text = .accepted m.senderId
  receiverId : required payload "receiver_id" text = .accepted m.receiverId
  text : required payload "text" (boundedText 1 MessageDraft.longestText) = .accepted m.text

/-- The profile has what was submitted, with clean tags, and all else as before. A field that was
submitted as null is empty. -/
structure Profiles.AsSubmitted (payload : Record) (before after : UserProfile) : Prop where
  userId : after.userId = before.userId
  username : after.username = before.username
  name : defaulted payload "name" before.name (optional text) = .accepted after.name
  bio : defaulted payload "bio" before.bio (optional text) = .accepted after.bio
  avatarUrl : defaulted payload "avatar_url" before.avatarUrl (optional text) =
    .accepted after.avatarUrl
  genres : defaulted payload "genres" before.genres
    (nullAs [] fun v => (texts v).map Tag.cleanTexts) = .accepted after.genres
  instruments : defaulted payload "instruments" before.instruments
    (nullAs [] fun v => (texts v).map Tag.cleanTexts) = .accepted after.instruments
  location : defaulted payload "location" before.location (optional GeoPoint.read) =
    .accepted after.location
  postCount : after.postCount = before.postCount
  followersCount : after.followersCount = before.followersCount
  followingCount : after.followingCount = before.followingCount
  hourRate : defaulted payload "hour_rate" before.hourRate
    (optional (floatBetween (some 0) none)) = .accepted after.hourRate
  soloArtist : defaulted payload "solo_artist" before.soloArtist (nullAs false bool) =
    .accepted after.soloArtist

variable {payload : Record}

theorem Posts.asSubmitted_of_draft {d : PostDraft}
    (accepted : PostDraft.read (.object payload) = .accepted d) (postId : String)
    (likesCount : Int) (createdAt : Option DateTime) :
    AsSubmitted payload {
      postId, likesCount, createdAt
      userId := d.userId
      title := d.title
      caption := d.caption
      mediaUrl := d.mediaUrl
      mediaType := d.mediaType
      genreFilters := Tag.cleanTexts d.genreFilters
      isNotice := d.isNotice
      location := d.location } := by
  obtain ⟨userId, title, caption, mediaUrl, mediaType, genres, isNotice, location⟩ :=
    (PostDraft.ofRecord_accepted_iff payload d).mp accepted
  have clean := congrArg (Reading.map Tag.cleanTexts) genres
  exact ⟨userId, title, caption, mediaUrl, mediaType, clean, isNotice, location⟩

theorem Events.asSubmitted_of_draft {d : EventDraft}
    (accepted : EventDraft.read (.object payload) = .accepted d) (eventId : String) :
    AsSubmitted payload {
      eventId
      hostId := d.hostId
      name := strip d.name
      description := d.description
      imageUrl := d.imageUrl
      date := d.date
      location := d.location } := by
  obtain ⟨hostId, name, description, imageUrl, date, location⟩ :=
    (EventDraft.ofRecord_accepted_iff payload d).mp accepted
  have stripped := congrArg (Reading.map strip) name
  exact ⟨hostId, stripped, description, imageUrl, date, location⟩

theorem Messages.asSubmitted_of_draft {d : MessageDraft}
    (accepted : MessageDraft.read (.object payload) = .accepted d) (messageId : String)
    (createdAt : Option DateTime) :
    AsSubmitted payload {
      messageId, createdAt
      senderId := d.senderId
      receiverId := d.receiverId
      text := d.text } := by
  obtain ⟨senderId, receiverId, text⟩ := (MessageDraft.ofRecord_accepted_iff payload d).mp accepted
  exact ⟨senderId, receiverId, text⟩

/-- A submitted field gives what the edit gives: a missing one keeps what was there, null clears it,
and a value is taken over. -/
theorem Edit.defaulted_of_ofField {α β : Type} {name : String} {read : Value → Reading α}
    {e : Edit α} (accepted : ofField payload name read = .accepted e) (kept cleared : β)
    (given : α → β) :
    defaulted payload name kept (nullAs cleared fun v => (read v).map given) =
      .accepted (e.over kept cleared given) := by
  rw [defaulted]
  rcases cases_of_ofField accepted with
    ⟨missing, rfl⟩ | ⟨null, rfl⟩ | ⟨v, a, found, value, taken, rfl⟩
  · rw [missing]
    rfl
  · rw [null]
    rfl
  · rw [found]
    dsimp only
    rw [nullAs.eq_2 _ _ v value, taken]
    rfl

theorem Edit.defaulted_optional_of_ofField {α : Type} {name : String} {read : Value → Reading α}
    {e : Edit α} (accepted : ofField payload name read = .accepted e) (kept : Option α) :
    defaulted payload name kept (optional read) = .accepted (e.over kept none some) := by
  have same : optional read = nullAs none fun v => (read v).map some := by
    funext v
    cases v <;> rfl
  rw [same]
  exact defaulted_of_ofField accepted kept none some

theorem Profiles.asSubmitted_applyTo {u : ProfileUpdate}
    (accepted : ProfileUpdate.read (.object payload) = .accepted u) (p : UserProfile) :
    AsSubmitted payload p (u.applyTo p) := by
  obtain ⟨name, bio, avatarUrl, genres, instruments, location, hourRate, soloArtist⟩ :=
    (ProfileUpdate.ofRecord_accepted_iff payload u).mp accepted
  have same : (fun v => (bool v).map id) = bool := funext fun v => Reading.map_id (bool v)
  constructor
  case name => exact Edit.defaulted_optional_of_ofField name p.name
  case bio => exact Edit.defaulted_optional_of_ofField bio p.bio
  case avatarUrl => exact Edit.defaulted_optional_of_ofField avatarUrl p.avatarUrl
  case genres => exact Edit.defaulted_of_ofField genres p.genres [] Tag.cleanTexts
  case instruments => exact Edit.defaulted_of_ofField instruments p.instruments [] Tag.cleanTexts
  case location => exact Edit.defaulted_optional_of_ofField location p.location
  case hourRate => exact Edit.defaulted_optional_of_ofField hourRate p.hourRate
  case soloArtist =>
    rw [← same]
    exact Edit.defaulted_of_ofField soloArtist p.soloArtist false id
  all_goals rfl

end Payloads

/-- What an accepted write sends is read back as it was submitted: the write sends its statement and
nothing else, the statement asks for the columns that are read, and a row that has the parameters of
that statement again is answered as what was submitted. The row may have any identifier and any
moment of creation that can be read, and a profile may be any that could be read before. -/
theorem writes_readBack :
    (∀ (payload row : Record) (d : PostDraft) (s : Statement) (postId : String)
        (createdAt : Option DateTime) (likesCount : Int),
      PostDraft.read (.object payload) = .accepted d →
      Posts.createStatement (.ofDraft d) = .ok s →
      Echoes ["user_id", "title", "caption", "media_url", "media_type", "genre_filters",
        "is_notice"] s.params row →
      row.getOrNull "location" = storedLocation s.params →
      row.getOrNull "post_id" = .text postId →
      optional moment (Stored.plainMoment (row.getOrNull "created_at")) = .accepted createdAt →
      nullAs 0 int (row.getOrNull "likes_count") = .accepted likesCount →
      ∃ p, (Stored.post row).outcome = .ok p ∧
        Conversation.ReadsBack (Posts.create (.ofDraft d)) s row p ∧
        s.Returns Projection.postColumns ∧ p.postId = postId ∧ p.createdAt = createdAt ∧
        p.likesCount = likesCount ∧ Posts.AsSubmitted payload p) ∧
    (∀ (payload row : Record) (d : EventDraft) (s : Statement) (eventId : String),
      EventDraft.read (.object payload) = .accepted d →
      Events.createStatement (.ofDraft d) = .ok s →
      Echoes ["host_id", "name", "description", "image_url"] s.params row →
      Stored.plainMoment (row.getOrNull "date") = s.params.getOrNull "date" →
      row.getOrNull "location" = storedLocation s.params →
      row.getOrNull "event_id" = .text eventId →
      ∃ e, (Stored.event row).outcome = .ok e ∧
        Conversation.ReadsBack (Events.create (.ofDraft d)) s row e ∧
        s.Returns Projection.eventColumns ∧ e.eventId = eventId ∧
        Events.AsSubmitted payload e) ∧
    (∀ (payload row : Record) (d : MessageDraft) (s : Statement) (messageId : String)
        (createdAt : Option DateTime),
      MessageDraft.read (.object payload) = .accepted d →
      Messages.sendStatement (.text d.senderId) (.text d.receiverId) (.text d.text) = .ok s →
      Echoes ["sender_id", "receiver_id", "text"] s.params row →
      row.getOrNull "message_id" = .text messageId →
      optional moment (Stored.plainMoment (row.getOrNull "created_at")) = .accepted createdAt →
      ∃ m, (Stored.message row).outcome = .ok m ∧
        Conversation.ReadsBack
          (Messages.send (.text d.senderId) (.text d.receiverId) (.text d.text)) s row m ∧
        s.Returns Projection.messageColumns ∧ m.messageId = messageId ∧
        m.createdAt = createdAt ∧ Messages.AsSubmitted payload m) ∧
    ∀ (payload before after : Record) (u : ProfileUpdate) (userId : String) (s : Statement)
        (p : UserProfile),
      ProfileUpdate.read (.object payload) = .accepted u →
      Profiles.updateStatement (.text userId) u.changes = .ok s →
      (Stored.profile before).outcome = .ok p →
      Profiles.Overlaid s.params before after →
      ∃ q, (Stored.profile after).outcome = .ok q ∧
        Conversation.ReadsBack (Profiles.update (.text userId) u.changes) s after q ∧
        s.Returns Projection.userColumns ∧ Profiles.AsSubmitted payload p q := by
  refine ⟨?_, ?_, ?_, ?_⟩
  · intro payload row d s postId createdAt likesCount submitted accepted echoes location identified
      created counted
    have read := Posts.readBack accepted echoes location identified created counted
    have created := (Posts.create_isExchange (.ofDraft d)).readsBack accepted
      (Posts.readCreated_of_identified identified read)
    exact ⟨_, read, created, Posts.returns_of_accepted accepted, rfl, rfl, rfl,
      Posts.asSubmitted_of_draft submitted postId likesCount createdAt⟩
  · intro payload row d s eventId submitted accepted echoes dated location identified
    have read := Events.readBack accepted echoes dated location identified
    have created := (Events.create_isExchange (.ofDraft d)).readsBack accepted
      (Events.readCreated_of_identified identified read)
    exact ⟨_, read, created, Events.returns_of_accepted accepted, rfl,
      Events.asSubmitted_of_draft submitted eventId⟩
  · intro payload row d s messageId createdAt submitted accepted echoes identified created
    have read := Messages.readBack accepted echoes identified created
    have sent := (Messages.send_isExchange _ _ _).readsBack accepted read
    exact ⟨_, read, sent, Messages.returns_of_accepted accepted, rfl, rfl,
      Messages.asSubmitted_of_draft submitted messageId createdAt⟩
  · intro payload before after u userId s p submitted accepted readable overlaid
    have read := Profiles.readBack accepted readable overlaid
    have updated := (Profiles.update_isExchange _ _).readsBack accepted read
    exact ⟨_, read, updated, Profiles.returns_of_accepted accepted,
      Profiles.asSubmitted_applyTo submitted p⟩

section Samples

def picturePayload : Record :=
  [("user_id", .text "me"), ("title", .text "Gig"), ("media_url", .text "a.png"),
    ("media_type", .text "image")]

def picture : PostDraft where
  userId := "me"
  title := some "Gig"
  caption := none
  mediaUrl := some "a.png"
  mediaType := some .image
  genreFilters := []
  isNotice := false
  location := none

/-- An event with a name in blanks. -/
def openingPayload : Record := [("host_id", .text "me"), ("name", .text " Jam ")]

def opening : EventDraft where
  hostId := "me"
  name := " Jam "
  description := none
  imageUrl := none
  date := none
  location := none

/-- A short message. -/
def greetingPayload : Record :=
  [("sender_id", .text "me"), ("receiver_id", .text "you"), ("text", .text "Hi")]

def greeting : MessageDraft where
  senderId := "me"
  receiverId := "you"
  text := "Hi"

/-- An update that gives a user another text about the user. -/
def newBio : ProfileUpdate where
  name := .keep
  bio := .set "hi"
  avatarUrl := .keep
  genres := .keep
  instruments := .keep
  location := .keep
  hourRate := .keep
  soloArtist := .keep

theorem writes_readBack_samples :
    (∃ s row p, PostDraft.read (.object picturePayload) = .accepted picture ∧
      Posts.createStatement (.ofDraft picture) = .ok s ∧
      Echoes ["user_id", "title", "caption", "media_url", "media_type", "genre_filters",
        "is_notice"] s.params row ∧
      row.getOrNull "location" = storedLocation s.params ∧
      row.getOrNull "post_id" = .text "p" ∧
      (Stored.post row).outcome = .ok p ∧
      Conversation.ReadsBack (Posts.create (.ofDraft picture)) s row p ∧
      s.Returns Projection.postColumns ∧ p.postId = "p" ∧ p.createdAt = none ∧
      p.likesCount = 0 ∧ Posts.AsSubmitted picturePayload p) ∧
    (∃ s row e, EventDraft.read (.object openingPayload) = .accepted opening ∧
      Events.createStatement (.ofDraft opening) = .ok s ∧
      Echoes ["host_id", "name", "description", "image_url"] s.params row ∧
      row.getOrNull "location" = storedLocation s.params ∧
      row.getOrNull "event_id" = .text "e" ∧
      (Stored.event row).outcome = .ok e ∧
      Conversation.ReadsBack (Events.create (.ofDraft opening)) s row e ∧
      s.Returns Projection.eventColumns ∧ e.eventId = "e" ∧
      Events.AsSubmitted openingPayload e) ∧
    (∃ s row m, MessageDraft.read (.object greetingPayload) = .accepted greeting ∧
      Messages.sendStatement (.text "me") (.text "you") (.text "Hi") = .ok s ∧
      Echoes ["sender_id", "receiver_id", "text"] s.params row ∧
      row.getOrNull "message_id" = .text "m" ∧
      (Stored.message row).outcome = .ok m ∧
      Conversation.ReadsBack (Messages.send (.text "me") (.text "you") (.text "Hi")) s row m ∧
      s.Returns Projection.messageColumns ∧ m.messageId = "m" ∧ m.createdAt = none ∧
      Messages.AsSubmitted greetingPayload m) ∧
    ∃ s p q, ProfileUpdate.read (.object [("bio", .text "hi")]) = .accepted newBio ∧
      Profiles.updateStatement (.text "me") newBio.changes = .ok s ∧
      (Stored.profile [("user_id", .text "me"), ("username", .text "me")]).outcome = .ok p ∧
      Profiles.Overlaid s.params [("user_id", .text "me"), ("username", .text "me")]
        [("user_id", .text "me"), ("username", .text "me"), ("bio", .text "hi")] ∧
      (Stored.profile
        [("user_id", .text "me"), ("username", .text "me"), ("bio", .text "hi")]).outcome =
          .ok q ∧
      Conversation.ReadsBack (Profiles.update (.text "me") newBio.changes) s
        [("user_id", .text "me"), ("username", .text "me"), ("bio", .text "hi")] q ∧
      s.Returns Projection.userColumns ∧ Profiles.AsSubmitted [("bio", .text "hi")] p q := by
  obtain ⟨posts, events, messages, profiles⟩ := writes_readBack
  refine ⟨?_, ?_, ?_, ?_⟩
  · have submitted : PostDraft.read (.object picturePayload) = .accepted picture := rfl
    have apart : ∀ name ∈ ["user_id", "title", "caption", "media_url", "media_type",
        "genre_filters", "is_notice"], Record.get? [("post_id", .text "p"), ("location", .null),
          ("created_at", .null), ("likes_count", .null)] name = none := by
      decide
    have echoes := echoes_append apart
    obtain ⟨p, read⟩ := posts _ _ _ _ "p" none 0 submitted rfl (echoes _) rfl rfl rfl rfl
    exact ⟨_, _, p, submitted, rfl, echoes _, rfl, rfl, read⟩
  · have submitted : EventDraft.read (.object openingPayload) = .accepted opening := rfl
    have apart : ∀ name ∈ ["host_id", "name", "description", "image_url"],
        Record.get? [("event_id", .text "e"), ("location", .null)] name = none := by
      decide
    have echoes := echoes_append apart
    obtain ⟨e, read⟩ := events _ _ _ _ "e" submitted rfl (echoes _) rfl rfl rfl
    exact ⟨_, _, e, submitted, rfl, echoes _, rfl, rfl, read⟩
  · have submitted : MessageDraft.read (.object greetingPayload) = .accepted greeting := rfl
    have apart : ∀ name ∈ ["sender_id", "receiver_id", "text"],
        Record.get? [("message_id", .text "m"), ("created_at", .null)] name = none := by
      decide
    have echoes := echoes_append apart
    obtain ⟨m, read⟩ := messages _ _ _ _ "m" none submitted rfl (echoes _) rfl rfl
    exact ⟨_, _, m, submitted, rfl, echoes _, rfl, read⟩
  · have submitted : ProfileUpdate.read (.object [("bio", .text "hi")]) = .accepted newBio := rfl
    have before : (Stored.profile [("user_id", .text "me"), ("username", .text "me")]).outcome =
        .ok ⟨"me", "me", none, none, none, [], [], none, 0, 0, 0, none, false⟩ := rfl
    have known : Profiles.unknownFields newBio.changes = [] := by decide +kernel
    have accepted : Profiles.updateStatement (.text "me") newBio.changes =
        .ok ⟨Profiles.updateText false,
          [("user_id", .text "me"), ("props", .object [("bio", .text "hi")])]⟩ := by
      rw [Profiles.updateStatement, known]
      rfl
    have overlaid : Profiles.Overlaid
        [("user_id", .text "me"), ("props", .object [("bio", .text "hi")])]
        [("user_id", .text "me"), ("username", .text "me")]
        [("user_id", .text "me"), ("username", .text "me"), ("bio", .text "hi")] := by
      constructor
      · simp only [Profiles.columns, List.forall_mem_cons, List.not_mem_nil, IsEmpty.forall_iff,
          implies_true, and_true]
        exact ⟨rfl, rfl, rfl, rfl, rfl, rfl, rfl, rfl, rfl, rfl, rfl, rfl⟩
      · rfl
    obtain ⟨q, read⟩ := profiles _ _ _ _ _ _ _ submitted accepted before overlaid
    exact ⟨_, _, q, submitted, accepted, before, overlaid, read⟩

end Samples

end MusicianGraph
