import MusicianGraph.Proofs.Model.Tags
import MusicianGraph.Proofs.Number.OrderKey
import MusicianGraph.Proofs.Service.Operations
import MusicianGraph.Proofs.Service.Refusal

/-! # What is written is in normal form

Readers and rankings rely on the form of what is stored: tags are clean, names are trimmed, places
are on the globe. Here calls are held one after the other, in any number and with any arguments, and
each statement that a write sends on the way has parameters in this form. -/

namespace MusicianGraph

open Conversation

/-- A list of texts that cleaning tags does not change. -/
def Value.IsCleanTags (v : Value) : Prop :=
  ∃ tags, v = .ofTexts tags ∧ Tag.cleanValue v = .ok tags ∧ Tag.IsClean tags

/-- The parameters have a latitude and a longitude: null both, or numbers of degrees both. -/
def Record.HasCoordinates (params : Record) : Prop :=
  (params.get? "latitude" = some .null ∧ params.get? "longitude" = some .null) ∨
    ∃ x y, params.get? "latitude" = some (.float x) ∧ params.get? "longitude" = some (.float y) ∧
      (-90.0 ≤ x ∧ x ≤ 90.0) ∧ (-180.0 ≤ y ∧ y ≤ 180.0) ∧
      isFiniteNumber x = true ∧ isFiniteNumber y = true

section NormalForms

/-- The parameters of an update. There are tags or coordinates among them exactly if they are among
the changes. -/
structure Profiles.IsNormal (changes params : Record) : Prop where
  tags : ∃ props, params.get? "props" = some (.object props) ∧
    ∀ name ∈ ["genres", "instruments"],
      (changes.get? name = none ∧ Record.get? props name = none) ∨
        ∃ given written, changes.get? name = some given ∧
          Record.get? props name = some written ∧ written.IsCleanTags
  location : if (changes.get? "location").isSome then params.HasCoordinates
    else params.get? "latitude" = none ∧ params.get? "longitude" = none

/-- The parameters of a new edge. -/
structure Follows.IsNormal (params : Record) : Prop where
  different : ∃ follower followed, params.get? "follower_id" = some follower ∧
    params.get? "followed_id" = some followed ∧ follower.same followed = false

structure Posts.IsNormal (params : Record) : Prop where
  mediaType : ∃ v ∈ [Value.null, .text "image", .text "video", .text "soundcloud"],
    params.get? "media_type" = some v
  genreFilters : ∃ v, params.get? "genre_filters" = some v ∧ v.IsCleanTags
  location : params.HasCoordinates

structure Events.IsNormal (params : Record) : Prop where
  name : ∃ name, params.get? "name" = some (.text name) ∧ name ≠ "" ∧ strip name = name
  location : params.HasCoordinates

/-- The parameters of a message with a text. -/
structure Messages.IsNormal (text : Value) (params : Record) : Prop where
  unchanged : params.get? "text" = some text
  filled : ∃ s, text = .text s ∧ ∃ c ∈ s.toList, isBlank c = false

end NormalForms

section Parts

theorem Value.isCleanTags_of_cleanValue {v : Value} {tags : List String}
    (cleaned : Tag.cleanValue v = .ok tags) : (ofTexts tags).IsCleanTags := by
  have normal := Tag.isClean_of_cleanValue cleaned
  have fixed := Tag.cleanTexts_eq_self_iff.mpr normal
  exact ⟨tags, rfl, (Tag.cleanValue_ofTexts tags).trans (congrArg Except.ok fixed), normal⟩

/-- Coordinates come from nothing or from a place. -/
theorem hasCoordinates_of_locationParams {v : Value} {location : Record}
    (located : locationParams v = .ok location) (others : Record)
    (latitude : others.get? "latitude" = none) (longitude : others.get? "longitude" = none) :
    Record.HasCoordinates (others ++ location) := by
  rw [Record.HasCoordinates, Record.get?_append latitude, Record.get?_append longitude]
  unfold locationParams at located
  split at located
  · cases located
    exact .inl ⟨rfl, rfl⟩
  · obtain ⟨p, -, rfl⟩ := map_ok_iff.mp located
    right
    have north := p.latitude_valid
    have east := p.longitude_valid
    have finite := isFiniteNumber_of_isLatitude north
    have finite' := isFiniteNumber_of_isLongitude east
    rw [isLatitude, Bool.and_eq_true, decide_eq_true_eq, decide_eq_true_eq] at north
    rw [isLongitude, Bool.and_eq_true, decide_eq_true_eq, decide_eq_true_eq] at east
    exact ⟨p.latitude, p.longitude, rfl, rfl, north.symm, east.symm, finite, finite'⟩

/-- Only texts can be stripped. -/
theorem exists_text_of_strippedText {v : Value} {stripped : String}
    (success : strippedText v = .ok stripped) : ∃ s, v = .text s ∧ stripped = strip s := by
  unfold strippedText at success
  split at success
  · next s =>
    cases success
    exact ⟨s, rfl, rfl⟩
  · cases success

end Parts

section Statements

variable {s : Statement}

theorem Profiles.isNormal_of_accepted {userId : Value} {changes : Record}
    (accepted : updateStatement userId changes = .ok s) : IsNormal changes s.params := by
  obtain ⟨props, location, success, written, rfl⟩ := updateStatement_ok accepted
  refine ⟨⟨props, rfl, fun name tagged => ?_⟩, ?_⟩
  · have listed : ∀ name ∈ tagProperties, name ∈ properties := by decide
    rcases get?_writtenProperties success (listed name tagged) with
      neither | ⟨given, sent, change, made, found⟩
    · exact .inl neither
    · have holdsTags : tagProperties.contains name = true := List.contains_iff_mem.mpr tagged
      rw [property, if_pos holdsTags] at made
      obtain ⟨tags, cleaned, same⟩ := map_ok_iff.mp made
      cases same
      exact .inr ⟨given, _, change, found, Value.isCleanTags_of_cleanValue cleaned⟩
  · rw [isSome_of_written written]
    rw [writtenLocation] at written
    split at written
    · cases written
      exact ⟨rfl, rfl⟩
    · obtain ⟨params, located, rfl⟩ := map_ok_iff.mp written
      exact hasCoordinates_of_locationParams located _ rfl rfl

theorem Follows.isNormal_of_accepted {followerId followedId : Value}
    (accepted : edgeStatement followerId followedId = .ok s) : IsNormal s.params := by
  obtain ⟨different, rfl⟩ := edgeStatement_ok accepted
  exact ⟨followerId, followedId, rfl, rfl, different⟩

theorem Posts.isNormal_of_accepted {p : NewPost} (accepted : createStatement p = .ok s) :
    IsNormal s.params := by
  obtain ⟨mediaType, tags, location, media, cleaned, located, rfl⟩ := createStatement_ok accepted
  refine ⟨⟨mediaType, ?_, rfl⟩, ⟨_, rfl, Value.isCleanTags_of_cleanValue cleaned⟩,
    hasCoordinates_of_locationParams located _ rfl rfl⟩
  unfold writtenMediaType at media
  split at media
  · cases media
    exact List.mem_cons_self
  · split at media
    · next m _ =>
      cases media
      cases m <;> simp [MediaType.dump, MediaType.name]
    · cases media

theorem Events.isNormal_of_accepted {e : NewEvent} (accepted : createStatement e = .ok s) :
    IsNormal s.params := by
  obtain ⟨name, location, stripped, filled, located, rfl⟩ := createStatement_ok accepted
  obtain ⟨given, -, rfl⟩ := exists_text_of_strippedText stripped
  exact ⟨⟨_, rfl, filled, strip_strip given⟩, hasCoordinates_of_locationParams located _ rfl rfl⟩

theorem Messages.isNormal_of_accepted {senderId receiverId text : Value}
    (accepted : sendStatement senderId receiverId text = .ok s) : IsNormal text s.params := by
  obtain ⟨stripped, stripping, filled, rfl⟩ := sendStatement_ok accepted
  obtain ⟨given, rfl, rfl⟩ := exists_text_of_strippedText stripping
  exact ⟨rfl, given, rfl, (strip_ne_empty_iff given).mp filled⟩

end Statements

structure Call where
  operation : Operation
  arguments : operation.Arguments

namespace Call

def hold (settings : Settings) (c : Call) : Conversation c.operation.Result :=
  c.operation.call settings c.arguments

/-- Hold calls one after the other. A call that fails does not keep the others from being held. -/
def holdAll (settings : Settings) : List Call → Conversation Unit
  | [] => pure ()
  | c :: rest => (c.hold settings).attempt >>= fun _ => holdAll settings rest

variable (settings : Settings) (graph : Graph) (threshold : LogLevel)

/-- The statements of calls that are held one after the other, each with its call. The graph has
already answered `count` statements. -/
def sent : Nat → List Call → List (Call × Statement)
  | _, [] => []
  | count, c :: rest =>
      let said := ((c.hold settings).run graph threshold count).statements
      said.map (Prod.mk c) ++ sent (count + said.length) rest

/-- What a write is to send. The other operations may send what they like. -/
def IsNormal (c : Call) (params : Record) : Prop :=
  match c with
  | ⟨.updateProfile, _, changes⟩ => Profiles.IsNormal changes params
  | ⟨.followUser, _⟩ => Follows.IsNormal params
  | ⟨.createPost, _⟩ => Posts.IsNormal params
  | ⟨.createEvent, _⟩ => Events.IsNormal params
  | ⟨.sendMessage, _, _, text⟩ => Messages.IsNormal text params
  | _ => True

/-- A single call sends nothing that is not in normal form. -/
theorem isNormal_of_held (c : Call) (count : Nat) {s : Statement}
    (held : s ∈ ((c.hold settings).run graph threshold count).statements) :
    c.IsNormal s.params := by
  obtain ⟨operation, arguments⟩ := c
  cases operation with
  | updateProfile =>
    exact Profiles.isNormal_of_accepted
      ((Profiles.update_isExchange _ _).statement_of_sent held)
  | followUser =>
    exact Follows.isNormal_of_accepted ((Follows.follow_isExchange _ _).statement_of_sent held)
  | createPost =>
    exact Posts.isNormal_of_accepted ((Posts.create_isExchange _).statement_of_sent held)
  | createEvent =>
    exact Events.isNormal_of_accepted ((Events.create_isExchange _).statement_of_sent held)
  | sendMessage =>
    exact Messages.isNormal_of_accepted ((Messages.send_isExchange _ _ _).statement_of_sent held)
  | _ => exact trivial

/-- Held one after the other, the calls send just these statements. -/
theorem statements_holdAll (count : Nat) (calls : List Call) :
    ((holdAll settings calls).run graph threshold count).statements =
      (sent settings graph threshold count calls).map Prod.snd := by
  induction calls generalizing count with
  | nil => rfl
  | cons c rest ih =>
    obtain ⟨ended, said⟩ := run_attempt graph threshold (c.hold settings) count
    obtain ⟨-, statements⟩ := run_bind_ok graph threshold ended fun _ => holdAll settings rest
    rw [holdAll, statements, said, ih, sent, List.map_append, List.map_map]
    exact congrArg (· ++ _) (List.map_id _).symm

/-- Every statement is sent by a call that is held at some point. -/
theorem mem_sent {count : Nat} {calls : List Call} {c : Call} {s : Statement}
    (listed : (c, s) ∈ sent settings graph threshold count calls) :
    c ∈ calls ∧ ∃ count, s ∈ ((c.hold settings).run graph threshold count).statements := by
  induction calls generalizing count with
  | nil => cases listed
  | cons d rest ih =>
    rw [sent, List.mem_append, List.mem_map] at listed
    rcases listed with ⟨t, held, same⟩ | later
    · cases same
      exact ⟨List.mem_cons_self, count, held⟩
    · obtain ⟨among, held⟩ := ih later
      exact ⟨List.mem_cons_of_mem d among, held⟩

/-- In any run of calls, whatever they are called with and whatever the graph replies, each
statement of a write has parameters in normal form. -/
theorem sent_isNormal (count : Nat) (calls : List Call) :
    ((holdAll settings calls).run graph threshold count).statements =
        (sent settings graph threshold count calls).map Prod.snd ∧
      ∀ p ∈ sent settings graph threshold count calls, p.1 ∈ calls ∧ p.1.IsNormal p.2.params := by
  refine ⟨statements_holdAll settings graph threshold count calls, fun p listed => ?_⟩
  obtain ⟨among, count', held⟩ := mem_sent settings graph threshold listed
  exact ⟨among, isNormal_of_held settings graph threshold p.1 count' held⟩

section Samples

/-- A call that publishes a post with the same genre twice, and with a blank one. -/
private def publishing : Call :=
  ⟨.createPost, {
    userId := .text "u1"
    title := .text "Duo"
    mediaType := .text "image"
    genreFilters := .list [.text " Jazz", .text "JAZZ ", .text " "] }⟩

/-- A call that announces an event at a place. -/
private def announcing : Call :=
  ⟨.createEvent, {
    hostId := .text "u1"
    name := .text " Gig "
    location := .object [("latitude", .float 52.5), ("longitude", .int 13)] }⟩

/-- Two writes, and what they send. -/
theorem sent_isNormal_samples : ∃ s t : Statement,
    sent .standard (.ofReplies []) .info 0 [publishing, announcing] =
        [(publishing, s), (announcing, t)] ∧
      s.params.get? "genre_filters" = some (.ofTexts ["jazz"]) ∧
      t.params.get? "name" = some (.text "Gig") ∧
      publishing.IsNormal s.params ∧ announcing.IsNormal t.params := by
  obtain ⟨s, t, said, tags, name⟩ : ∃ s t : Statement,
      sent .standard (.ofReplies []) .info 0 [publishing, announcing] =
          [(publishing, s), (announcing, t)] ∧
        s.params.get? "genre_filters" = some (.ofTexts ["jazz"]) ∧
        t.params.get? "name" = some (.text "Gig") := by
    refine ⟨_, _, rfl, ?_, ?_⟩ <;> rfl
  obtain ⟨-, normal⟩ := sent_isNormal .standard (.ofReplies []) .info 0 [publishing, announcing]
  rw [said] at normal
  exact ⟨s, t, said, tags, name, (normal (publishing, s) List.mem_cons_self).2,
    (normal (announcing, t) (List.mem_cons_of_mem _ List.mem_cons_self)).2⟩

end Samples

end Call

end MusicianGraph
