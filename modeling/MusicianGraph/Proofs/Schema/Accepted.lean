import MusicianGraph.Proofs.Value.Record
import MusicianGraph.Model.Profile
import MusicianGraph.Model.Post
import MusicianGraph.Model.Event
import MusicianGraph.Model.Message
import MusicianGraph.Model.ProfileUpdate
import MusicianGraph.Model.Relation
import MusicianGraph.Model.SearchResult
import MusicianGraph.Model.Suggestion

/-! # What is accepted

Readings are combined field by field, and a model is accepted exactly if all its fields are. In
a stored model a missing field and one that is null are alike: where null stands for nothing, a
missing field has that default, and elsewhere both are rejected. So it is enough to look every field
up. What is submitted is not so lenient, and an update even tells the two apart. -/

namespace MusicianGraph

variable {α β : Type}

namespace Reading

theorem map_id (r : Reading α) : r.map id = r := by
  cases r <;> rfl

theorem map_accepted_iff {f : α → β} {r : Reading α} {b : β} :
    f <$> r = .accepted b ↔ ∃ a, r = .accepted a ∧ f a = b := by
  change r.map f = .accepted b ↔ _
  cases r <;> simp [map]

theorem seq_accepted_iff {f : Reading (α → β)} {r : Reading α} {b : β} :
    f <*> r = .accepted b ↔ ∃ g a, f = .accepted g ∧ r = .accepted a ∧ g a = b := by
  change f.seq r = .accepted b ↔ _
  cases f <;> cases r <;> simp [seq, map]

theorem within_accepted_iff {step : Step} {r : Reading α} {a : α} :
    r.within step = .accepted a ↔ r = .accepted a := by
  cases r <;> simp [within]

theorem andThen_accepted_iff {r : Reading α} {f : α → Reading β} {b : β} :
    r.andThen f = .accepted b ↔ ∃ a, r = .accepted a ∧ f a = .accepted b := by
  cases r <;> simp [andThen]

/-- A list is accepted item by item. -/
theorem ofItems_cons_accepted_iff {read : Value → Reading α} {start : Nat} {v : Value}
    {rest : List Value} {all : List α} :
    ofItems read start (v :: rest) = .accepted all ↔
      ∃ a others, read v = .accepted a ∧ ofItems read (start + 1) rest = .accepted others ∧
        a :: others = all := by
  simp only [ofItems, seq_accepted_iff, map_accepted_iff, within_accepted_iff]
  constructor
  · rintro ⟨_, others, ⟨a, read, rfl⟩, rest, same⟩
    exact ⟨a, others, read, rest, same⟩
  · rintro ⟨a, others, read, rest, same⟩
    exact ⟨_, others, ⟨a, read, rfl⟩, rest, same⟩

end Reading

namespace Schema

theorem text_accepted_iff {v : Value} {s : String} : text v = .accepted s ↔ v = .text s := by
  constructor
  · intro accepted
    unfold text at accepted
    split at accepted <;> cases accepted
    rfl
  · rintro rfl
    rfl

/-- A number is accepted if it is read and keeps to the bounds that there are. -/
theorem floatBetween_accepted_iff {least most : Option Int} {v : Value} {x : Float} :
    floatBetween least most v = .accepted x ↔
      float v = .accepted x ∧ (∀ bound ∈ most, x ≤ Float.ofInt bound) ∧
        ∀ bound ∈ least, Float.ofInt bound ≤ x := by
  rw [floatBetween, Reading.andThen_accepted_iff]
  constructor
  · rintro ⟨y, read, bounded⟩
    split_ifs at bounded with above below
    · cases bounded
    · cases bounded
    · cases bounded
      refine ⟨read, ?_, ?_⟩
      · simpa [Option.any_eq_true] using above
      · simpa [Option.any_eq_true] using below
  · rintro ⟨read, upper, lower⟩
    refine ⟨x, read, ?_⟩
    have notAbove : most.any (fun bound => !(x ≤ Float.ofInt bound)) = false := by
      simpa [Option.any_eq_false] using upper
    have notBelow : least.any (fun bound => !(Float.ofInt bound ≤ x)) = false := by
      simpa [Option.any_eq_false] using lower
    rw [notAbove, notBelow]
    rfl

/-- An object is accepted as its fields are. -/
theorem fields_accepted_iff {title : String} {read : Record → Reading α} {v : Value} {a : α} :
    fields title read v = .accepted a ↔ ∃ r, v = .object r ∧ read r = .accepted a := by
  constructor
  · intro accepted
    unfold fields at accepted
    split at accepted
    · exact ⟨_, rfl, accepted⟩
    · cases accepted
  · rintro ⟨r, rfl, accepted⟩
    exact accepted

/-- A field that has to be there is accepted as its value is, if null is not. -/
theorem required_accepted_iff {r : Record} {name : String} (read : Value → Reading α)
    (strict : ∀ a, read .null ≠ .accepted a) {a : α} :
    required r name read = .accepted a ↔ read (r.getOrNull name) = .accepted a := by
  rw [required, Record.getOrNull]
  cases r.get? name with
  | none =>
    refine iff_of_false (fun absent => ?_) (strict a)
    cases absent
  | some v => exact Reading.within_accepted_iff

/-- A field with a default is accepted as its value is, if null gives the default too. -/
theorem defaulted_accepted_iff {r : Record} {name : String} {empty : α} (read : Value → Reading α)
    (lenient : read .null = .accepted empty) {a : α} :
    defaulted r name empty read = .accepted a ↔ read (r.getOrNull name) = .accepted a := by
  rw [defaulted, Record.getOrNull]
  cases r.get? name with
  | none =>
    change _ ↔ read .null = .accepted a
    rw [lenient]
  | some v => exact Reading.within_accepted_iff

section Kinds

variable {r : Record} {name : String}

theorem required_text_iff {s : String} :
    required r name text = .accepted s ↔ text (r.getOrNull name) = .accepted s :=
  required_accepted_iff text fun _ => nofun

theorem defaulted_optional_iff {read : Value → Reading α} {a : Option α} :
    defaulted r name none (optional read) = .accepted a ↔
      optional read (r.getOrNull name) = .accepted a :=
  defaulted_accepted_iff (optional read) rfl

theorem defaulted_nullAs_iff {empty : α} {read : Value → Reading α} {a : α} :
    defaulted r name empty (nullAs empty read) = .accepted a ↔
      nullAs empty read (r.getOrNull name) = .accepted a :=
  defaulted_accepted_iff (nullAs empty read) rfl

theorem defaulted_tags_iff {a : List String} :
    defaulted r name [] tags = .accepted a ↔ tags (r.getOrNull name) = .accepted a :=
  defaulted_accepted_iff tags rfl

end Kinds

end Schema

/-- A field of an update that is accepted is missing, null, or has a value that is accepted. -/
theorem Edit.cases_of_ofField {r : Record} {name : String} {read : Value → Reading α} {e : Edit α}
    (accepted : ofField r name read = .accepted e) :
    (r.get? name = none ∧ e = keep) ∨ (r.get? name = some .null ∧ e = clear) ∨
      ∃ v a, r.get? name = some v ∧ v ≠ .null ∧ read v = .accepted a ∧ e = set a := by
  rw [ofField, Schema.defaulted] at accepted
  cases given : r.get? name with
  | none =>
    rw [given] at accepted
    cases accepted
    exact .inl ⟨rfl, rfl⟩
  | some v =>
    rw [given] at accepted
    rw [Reading.within_accepted_iff] at accepted
    by_cases null : v = .null
    · subst null
      cases accepted
      exact .inr (.inl ⟨rfl, rfl⟩)
    · have value : (read v).map set = .accepted e := by
        cases v <;> first | exact accepted | exact absurd rfl null
      obtain ⟨a, taken, rfl⟩ := Reading.map_accepted_iff.mp value
      exact .inr (.inr ⟨v, a, rfl, null, taken, rfl⟩)

section Models

open Schema

variable (r : Record)

theorem UserProfile.ofRecord_accepted_iff (p : UserProfile) :
    ofRecord r = .accepted p ↔
      text (r.getOrNull "user_id") = .accepted p.userId ∧
      text (r.getOrNull "username") = .accepted p.username ∧
      optional text (r.getOrNull "name") = .accepted p.name ∧
      optional text (r.getOrNull "bio") = .accepted p.bio ∧
      optional text (r.getOrNull "avatar_url") = .accepted p.avatarUrl ∧
      tags (r.getOrNull "genres") = .accepted p.genres ∧
      tags (r.getOrNull "instruments") = .accepted p.instruments ∧
      optional GeoPoint.read (r.getOrNull "location") = .accepted p.location ∧
      nullAs 0 int (r.getOrNull "post_count") = .accepted p.postCount ∧
      nullAs 0 int (r.getOrNull "followers_count") = .accepted p.followersCount ∧
      nullAs 0 int (r.getOrNull "following_count") = .accepted p.followingCount ∧
      optional float (r.getOrNull "hour_rate") = .accepted p.hourRate ∧
      nullAs false bool (r.getOrNull "solo_artist") = .accepted p.soloArtist := by
  obtain ⟨⟩ := p
  simp only [ofRecord, Reading.seq_accepted_iff, Reading.map_accepted_iff, required_text_iff,
    defaulted_optional_iff, defaulted_nullAs_iff, defaulted_tags_iff]
  simp [and_assoc]

theorem Post.ofRecord_accepted_iff (p : Post) :
    ofRecord r = .accepted p ↔
      text (r.getOrNull "post_id") = .accepted p.postId ∧
      text (r.getOrNull "user_id") = .accepted p.userId ∧
      optional text (r.getOrNull "title") = .accepted p.title ∧
      optional text (r.getOrNull "caption") = .accepted p.caption ∧
      optional text (r.getOrNull "media_url") = .accepted p.mediaUrl ∧
      optional MediaType.read (r.getOrNull "media_type") = .accepted p.mediaType ∧
      tags (r.getOrNull "genre_filters") = .accepted p.genreFilters ∧
      nullAs 0 int (r.getOrNull "likes_count") = .accepted p.likesCount ∧
      nullAs false bool (r.getOrNull "is_notice") = .accepted p.isNotice ∧
      optional moment (r.getOrNull "created_at") = .accepted p.createdAt ∧
      optional GeoPoint.read (r.getOrNull "location") = .accepted p.location := by
  obtain ⟨⟩ := p
  simp only [ofRecord, Reading.seq_accepted_iff, Reading.map_accepted_iff, required_text_iff,
    defaulted_optional_iff, defaulted_nullAs_iff, defaulted_tags_iff]
  simp [and_assoc]

theorem Event.ofRecord_accepted_iff (e : Event) :
    ofRecord r = .accepted e ↔
      text (r.getOrNull "event_id") = .accepted e.eventId ∧
      text (r.getOrNull "host_id") = .accepted e.hostId ∧
      text (r.getOrNull "name") = .accepted e.name ∧
      optional text (r.getOrNull "description") = .accepted e.description ∧
      optional text (r.getOrNull "image_url") = .accepted e.imageUrl ∧
      optional moment (r.getOrNull "date") = .accepted e.date ∧
      optional GeoPoint.read (r.getOrNull "location") = .accepted e.location := by
  obtain ⟨⟩ := e
  simp only [ofRecord, Reading.seq_accepted_iff, Reading.map_accepted_iff, required_text_iff,
    defaulted_optional_iff]
  simp [and_assoc]

theorem Message.ofRecord_accepted_iff (m : Message) :
    ofRecord r = .accepted m ↔
      Schema.text (r.getOrNull "message_id") = .accepted m.messageId ∧
      Schema.text (r.getOrNull "sender_id") = .accepted m.senderId ∧
      Schema.text (r.getOrNull "receiver_id") = .accepted m.receiverId ∧
      Schema.text (r.getOrNull "text") = .accepted m.text ∧
      optional moment (r.getOrNull "created_at") = .accepted m.createdAt := by
  obtain ⟨⟩ := m
  simp only [ofRecord, Reading.seq_accepted_iff, Reading.map_accepted_iff, required_text_iff,
    defaulted_optional_iff]
  simp [and_assoc]

theorem PostDraft.ofRecord_accepted_iff (d : PostDraft) :
    ofRecord r = .accepted d ↔
      required r "user_id" text = .accepted d.userId ∧
      defaulted r "title" none (optional text) = .accepted d.title ∧
      defaulted r "caption" none (optional text) = .accepted d.caption ∧
      defaulted r "media_url" none (optional text) = .accepted d.mediaUrl ∧
      defaulted r "media_type" none (optional MediaType.read) = .accepted d.mediaType ∧
      defaulted r "genre_filters" [] texts = .accepted d.genreFilters ∧
      defaulted r "is_notice" false bool = .accepted d.isNotice ∧
      defaulted r "location" none (optional GeoPoint.read) = .accepted d.location := by
  obtain ⟨⟩ := d
  simp only [ofRecord, Reading.seq_accepted_iff, Reading.map_accepted_iff]
  simp [and_assoc]

theorem EventDraft.ofRecord_accepted_iff (d : EventDraft) :
    ofRecord r = .accepted d ↔
      required r "host_id" text = .accepted d.hostId ∧
      required r "name" (boundedText 1 longestName) = .accepted d.name ∧
      defaulted r "description" none (optional text) = .accepted d.description ∧
      defaulted r "image_url" none (optional text) = .accepted d.imageUrl ∧
      defaulted r "date" none (optional moment) = .accepted d.date ∧
      defaulted r "location" none (optional GeoPoint.read) = .accepted d.location := by
  obtain ⟨⟩ := d
  simp only [ofRecord, Reading.seq_accepted_iff, Reading.map_accepted_iff]
  simp [and_assoc]

theorem MessageDraft.ofRecord_accepted_iff (d : MessageDraft) :
    ofRecord r = .accepted d ↔
      required r "sender_id" Schema.text = .accepted d.senderId ∧
      required r "receiver_id" Schema.text = .accepted d.receiverId ∧
      required r "text" (boundedText 1 longestText) = .accepted d.text := by
  obtain ⟨⟩ := d
  simp only [ofRecord, Reading.seq_accepted_iff, Reading.map_accepted_iff]
  simp [and_assoc]

theorem ProfileUpdate.ofRecord_accepted_iff (u : ProfileUpdate) :
    ofRecord r = .accepted u ↔
      Edit.ofField r "name" text = .accepted u.name ∧
      Edit.ofField r "bio" text = .accepted u.bio ∧
      Edit.ofField r "avatar_url" text = .accepted u.avatarUrl ∧
      Edit.ofField r "genres" texts = .accepted u.genres ∧
      Edit.ofField r "instruments" texts = .accepted u.instruments ∧
      Edit.ofField r "location" GeoPoint.read = .accepted u.location ∧
      Edit.ofField r "hour_rate" (floatBetween (some 0) none) = .accepted u.hourRate ∧
      Edit.ofField r "solo_artist" bool = .accepted u.soloArtist := by
  obtain ⟨⟩ := u
  simp only [ofRecord, Reading.seq_accepted_iff, Reading.map_accepted_iff]
  simp [and_assoc]

theorem FollowEdge.ofRecord_accepted_iff (e : FollowEdge) :
    ofRecord r = .accepted e ↔
      required r "follower_id" text = .accepted e.followerId ∧
      required r "followed_id" text = .accepted e.followedId := by
  obtain ⟨⟩ := e
  simp only [ofRecord, Reading.seq_accepted_iff, Reading.map_accepted_iff]
  simp

theorem FollowState.ofRecord_accepted_iff (s : FollowState) :
    ofRecord r = .accepted s ↔
      required r "follower_id" text = .accepted s.followerId ∧
      required r "followed_id" text = .accepted s.followedId ∧
      required r "following" bool = .accepted s.following ∧
      required r "followers_count" int = .accepted s.followersCount ∧
      required r "following_count" int = .accepted s.followingCount := by
  obtain ⟨⟩ := s
  simp only [ofRecord, Reading.seq_accepted_iff, Reading.map_accepted_iff]
  simp [and_assoc]

theorem LikeState.ofRecord_accepted_iff (s : LikeState) :
    ofRecord r = .accepted s ↔
      required r "post_id" text = .accepted s.postId ∧
      required r "user_id" text = .accepted s.userId ∧
      required r "likes_count" int = .accepted s.likesCount := by
  obtain ⟨⟩ := s
  simp only [ofRecord, Reading.seq_accepted_iff, Reading.map_accepted_iff]
  simp [and_assoc]

theorem CandidateScore.ofRecord_accepted_iff (profileName : String) (c : CandidateScore) :
    ofRecord profileName r = .accepted c ↔
      required r profileName UserProfile.read = .accepted c.profile ∧
      defaulted r "score" none (optional float) = .accepted c.score := by
  obtain ⟨⟩ := c
  simp only [ofRecord, Reading.seq_accepted_iff, Reading.map_accepted_iff]
  simp

theorem Suggestions.ofRecord_accepted_iff (s : Suggestions) :
    ofRecord r = .accepted s ↔
      required r "user" UserProfile.read = .accepted s.user ∧
      required r "strategy" text = .accepted s.strategy ∧
      required r "suggestions" readList = .accepted s.suggestions := by
  obtain ⟨⟩ := s
  simp only [ofRecord, Reading.seq_accepted_iff, Reading.map_accepted_iff]
  simp [and_assoc]

/-- A result of a kind is accepted as what stands under the kind's name. -/
theorem SearchResult.readKind_accepted_iff (title kind : String) (read : Value → Reading α)
    (v : Value) (a : α) :
    readKind title kind read v = .accepted a ↔ ∃ r, v = .object r ∧
      defaulted r "kind" () (literal kind) = .accepted () ∧
      required r kind read = .accepted a := by
  rw [readKind, fields_accepted_iff]
  simp only [Reading.seq_accepted_iff, Reading.map_accepted_iff]
  constructor
  · rintro ⟨r, rfl, _, _, ⟨⟨⟩, named, rfl⟩, content, rfl⟩
    exact ⟨r, rfl, named, content⟩
  · rintro ⟨r, rfl, named, content⟩
    exact ⟨r, rfl, _, a, ⟨(), named, rfl⟩, content, rfl⟩

end Models

end MusicianGraph
