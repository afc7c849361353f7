import MusicianGraph.Proofs.Graph.StoredRows

/-! # Sparse rows

A node need not have all the properties that its model has, and a column that is missing reads as
one that is null. Each optional column has a say in its own field only, which is empty without it;
columns that are not of the model have no say at all. -/

namespace MusicianGraph

open Schema

/-- The columns of a model: those that a row has to have, and those that it may do without. -/
structure Columns where
  required : List String
  optional : List String

/-- A row from another one: some of the optional columns hold null or are gone, and the other
columns are as they were. Columns that are not of the model may be anything in either row. -/
structure Record.Sparser (columns : Columns) (emptied : List String) (full sparse : Record) : Prop
    where
  optional : emptied ⊆ columns.optional
  cleared : ∀ name ∈ emptied, sparse.get? name = none ∨ sparse.get? name = some .null
  kept : ∀ name ∈ columns.required ++ columns.optional, name ∉ emptied →
    sparse.get? name = full.get? name

namespace Record.Sparser

variable {columns : Columns} {emptied : List String} {full sparse : Record} {name : String}

/-- Rows that agree on the columns of a model are no sparser than one another. -/
theorem of_agreeing (same : ∀ name ∈ columns.required ++ columns.optional,
    sparse.get? name = full.get? name) : Sparser columns [] full sparse where
  optional := List.nil_subset _
  cleared := nofun
  kept := fun name listed _ => same name listed

variable (sparser : Sparser columns emptied full sparse)
include sparser

theorem getOrNull_of_emptied (listed : name ∈ emptied) : sparse.getOrNull name = .null := by
  rcases sparser.cleared name listed with missing | null
  · rw [getOrNull, missing]
    rfl
  · rw [getOrNull, null]
    rfl

theorem getOrNull_of_kept (listed : name ∈ columns.required ++ columns.optional)
    (there : name ∉ emptied) : sparse.getOrNull name = full.getOrNull name := by
  rw [getOrNull, sparser.kept name listed there, ← getOrNull]

variable {ρ : Type}

/-- What is read off a required column is still read off it. -/
theorem reads_required {f : Value → ρ} {a : ρ} (listed : name ∈ columns.required)
    (needed : name ∉ columns.optional) (reads : f (full.getOrNull name) = a) :
    f (sparse.getOrNull name) = a := by
  rwa [sparser.getOrNull_of_kept (List.mem_append_left _ listed) fun member =>
    needed (sparser.optional member)]

/-- What is read off an optional column is still read off it, or is what null reads as. -/
theorem reads_optional {α : Type} {f : Value → ρ} {result : α → ρ} {empty a : α}
    (listed : name ∈ columns.optional) (null : f .null = result empty)
    (reads : f (full.getOrNull name) = result a) :
    f (sparse.getOrNull name) = result (if name ∈ emptied then empty else a) := by
  by_cases gone : name ∈ emptied
  · rw [if_pos gone, sparser.getOrNull_of_emptied gone, null]
  · rw [if_neg gone, sparser.getOrNull_of_kept (List.mem_append_right _ listed) gone, reads]

end Record.Sparser

section Models

namespace UserProfile

def columns : Columns where
  required := ["user_id", "username"]
  optional := ["name", "bio", "avatar_url", "genres", "instruments", "location", "post_count",
    "followers_count", "following_count", "hour_rate", "solo_artist"]

/-- The profile with the fields of some columns emptied. -/
def without (emptied : List String) (p : UserProfile) : UserProfile where
  userId := p.userId
  username := p.username
  name := if "name" ∈ emptied then none else p.name
  bio := if "bio" ∈ emptied then none else p.bio
  avatarUrl := if "avatar_url" ∈ emptied then none else p.avatarUrl
  genres := if "genres" ∈ emptied then [] else p.genres
  instruments := if "instruments" ∈ emptied then [] else p.instruments
  location := if "location" ∈ emptied then none else p.location
  postCount := if "post_count" ∈ emptied then 0 else p.postCount
  followersCount := if "followers_count" ∈ emptied then 0 else p.followersCount
  followingCount := if "following_count" ∈ emptied then 0 else p.followingCount
  hourRate := if "hour_rate" ∈ emptied then none else p.hourRate
  soloArtist := if "solo_artist" ∈ emptied then false else p.soloArtist

end UserProfile

namespace Post

def columns : Columns where
  required := ["post_id", "user_id"]
  optional := ["title", "caption", "media_url", "media_type", "genre_filters", "likes_count",
    "is_notice", "created_at", "location"]

/-- The post with the fields of some columns emptied. -/
def without (emptied : List String) (p : Post) : Post where
  postId := p.postId
  userId := p.userId
  title := if "title" ∈ emptied then none else p.title
  caption := if "caption" ∈ emptied then none else p.caption
  mediaUrl := if "media_url" ∈ emptied then none else p.mediaUrl
  mediaType := if "media_type" ∈ emptied then none else p.mediaType
  genreFilters := if "genre_filters" ∈ emptied then [] else p.genreFilters
  likesCount := if "likes_count" ∈ emptied then 0 else p.likesCount
  isNotice := if "is_notice" ∈ emptied then false else p.isNotice
  createdAt := if "created_at" ∈ emptied then none else p.createdAt
  location := if "location" ∈ emptied then none else p.location

end Post

namespace Event

def columns : Columns where
  required := ["event_id", "host_id", "name"]
  optional := ["description", "image_url", "date", "location"]

/-- The event with the fields of some columns emptied. -/
def without (emptied : List String) (e : Event) : Event where
  eventId := e.eventId
  hostId := e.hostId
  name := e.name
  description := if "description" ∈ emptied then none else e.description
  imageUrl := if "image_url" ∈ emptied then none else e.imageUrl
  date := if "date" ∈ emptied then none else e.date
  location := if "location" ∈ emptied then none else e.location

end Event

namespace Message

def columns : Columns where
  required := ["message_id", "sender_id", "receiver_id", "text"]
  optional := ["created_at"]

/-- The message with the fields of some columns emptied. -/
def without (emptied : List String) (m : Message) : Message where
  messageId := m.messageId
  senderId := m.senderId
  receiverId := m.receiverId
  text := m.text
  createdAt := if "created_at" ∈ emptied then none else m.createdAt

end Message

end Models

namespace Stored

open Record

variable {α : Type}

/-- Rows are read field by field. A row that is sparser than a readable one is readable, and only
the fields of the columns that are gone are emptied. Columns that are not of the model change
neither what is read nor what is warned of. -/
structure ReadsByField (columns : Columns) (read : Record → Readout α)
    (without : List String → α → α) : Prop where
  sparse : ∀ {emptied : List String} {full sparse : Record} {a : α},
    Sparser columns emptied full sparse → (read full).outcome = .ok a →
      (read sparse).outcome = .ok (without emptied a)
  others : ∀ {row other : Record},
    (∀ name ∈ columns.required ++ columns.optional, other.get? name = row.get? name) →
      (read other).warnings = (read row).warnings ∧
        ∀ a, (read other).outcome = .ok a ↔ (read row).outcome = .ok a

/-- Other columns are the case in which nothing is emptied. -/
theorem ReadsByField.of_sparse {columns : Columns} {read : Record → Readout α}
    {without : List String → α → α} (whole : ∀ a, without [] a = a)
    (warned : ∀ {row other : Record},
      (∀ name ∈ columns.required ++ columns.optional, other.get? name = row.get? name) →
        (read other).warnings = (read row).warnings)
    (sparse : ∀ {emptied : List String} {full sparse : Record} {a : α},
      Sparser columns emptied full sparse → (read full).outcome = .ok a →
        (read sparse).outcome = .ok (without emptied a)) :
    ReadsByField columns read without where
  sparse := sparse
  others := by
    have carries : ∀ {row other : Record} {a : α},
        (∀ name ∈ columns.required ++ columns.optional, other.get? name = row.get? name) →
          (read row).outcome = .ok a → (read other).outcome = .ok a := by
      intro row other a same success
      have reads := sparse (.of_agreeing same) success
      rwa [whole] at reads
    intro row other same
    exact ⟨warned same, fun a => ⟨carries fun name listed => (same name listed).symm, carries same⟩⟩

/-- All that is warned of is the location. -/
theorem warnings_withPlace (next : Record → Except Failure α) {row other : Record}
    (same : other.get? "location" = row.get? "location") :
    ((withPlace other).andThen next).warnings = ((withPlace row).andThen next).warnings := by
  change (place (other.getOrNull "location")).warnings = (place (row.getOrNull "location")).warnings
  rw [getOrNull, same, ← getOrNull]

theorem profile_readsByField :
    ReadsByField UserProfile.columns profile UserProfile.without := by
  refine .of_sparse (fun _ => rfl)
    (fun same => warnings_withPlace _ (same "location" (by decide))) ?_
  intro emptied full row p sparser success
  rw [profile_ok_iff] at success ⊢
  obtain ⟨location, userId, username, name, bio, avatarUrl, genres, instruments, postCount,
    followersCount, followingCount, hourRate, soloArtist⟩ := success
  exact ⟨sparser.reads_optional (f := fun v => (place v).outcome) (by decide) rfl location,
    sparser.reads_required (by decide) (by decide) userId,
    sparser.reads_required (by decide) (by decide) username,
    sparser.reads_optional (by decide) rfl name,
    sparser.reads_optional (by decide) rfl bio,
    sparser.reads_optional (by decide) rfl avatarUrl,
    sparser.reads_optional (by decide) rfl genres,
    sparser.reads_optional (by decide) rfl instruments,
    sparser.reads_optional (by decide) rfl postCount,
    sparser.reads_optional (by decide) rfl followersCount,
    sparser.reads_optional (by decide) rfl followingCount,
    sparser.reads_optional (by decide) rfl hourRate,
    sparser.reads_optional (by decide) rfl soloArtist⟩

theorem post_readsByField : ReadsByField Post.columns post Post.without := by
  refine .of_sparse (fun _ => rfl)
    (fun same => warnings_withPlace _ (same "location" (by decide))) ?_
  intro emptied full row p sparser success
  rw [post_ok_iff] at success ⊢
  obtain ⟨location, postId, userId, title, caption, mediaUrl, mediaType, genreFilters, likesCount,
    isNotice, createdAt⟩ := success
  exact ⟨sparser.reads_optional (f := fun v => (place v).outcome) (by decide) rfl location,
    sparser.reads_required (by decide) (by decide) postId,
    sparser.reads_required (by decide) (by decide) userId,
    sparser.reads_optional (by decide) rfl title,
    sparser.reads_optional (by decide) rfl caption,
    sparser.reads_optional (by decide) rfl mediaUrl,
    sparser.reads_optional (by decide) rfl mediaType,
    sparser.reads_optional (by decide) rfl genreFilters,
    sparser.reads_optional (by decide) rfl likesCount,
    sparser.reads_optional (by decide) rfl isNotice,
    sparser.reads_optional (f := fun v => optional moment (plainMoment v)) (by decide) rfl
      createdAt⟩

theorem event_readsByField : ReadsByField Event.columns event Event.without := by
  refine .of_sparse (fun _ => rfl)
    (fun same => warnings_withPlace _ (same "location" (by decide))) ?_
  intro emptied full row e sparser success
  rw [event_ok_iff] at success ⊢
  obtain ⟨location, eventId, hostId, name, description, imageUrl, date⟩ := success
  exact ⟨sparser.reads_optional (f := fun v => (place v).outcome) (by decide) rfl location,
    sparser.reads_required (by decide) (by decide) eventId,
    sparser.reads_required (by decide) (by decide) hostId,
    sparser.reads_required (by decide) (by decide) name,
    sparser.reads_optional (by decide) rfl description,
    sparser.reads_optional (by decide) rfl imageUrl,
    sparser.reads_optional (f := fun v => optional moment (plainMoment v)) (by decide) rfl date⟩

theorem message_readsByField : ReadsByField Message.columns message Message.without := by
  refine .of_sparse (fun _ => rfl) (fun _ => rfl) ?_
  intro emptied full row m sparser success
  rw [message_ok_iff] at success ⊢
  obtain ⟨messageId, senderId, receiverId, text, createdAt⟩ := success
  exact ⟨sparser.reads_required (by decide) (by decide) messageId,
    sparser.reads_required (by decide) (by decide) senderId,
    sparser.reads_required (by decide) (by decide) receiverId,
    sparser.reads_required (by decide) (by decide) text,
    sparser.reads_optional (f := fun v => optional moment (plainMoment v)) (by decide) rfl
      createdAt⟩

/-- Profiles, posts, events and messages are all read field by field. -/
theorem rows_readByField :
    ReadsByField UserProfile.columns profile UserProfile.without ∧
      ReadsByField Post.columns post Post.without ∧
      ReadsByField Event.columns event Event.without ∧
      ReadsByField Message.columns message Message.without :=
  ⟨profile_readsByField, post_readsByField, event_readsByField, message_readsByField⟩

/-- A row that is read as a post. -/
def fullPost : Record :=
  [("post_id", .text "p"), ("user_id", .text "me"), ("title", .text "Gig"),
    ("genre_filters", .list [.text "jazz", .text "jazz"]), ("likes_count", .int 3),
    ("is_notice", .bool true),
    ("location", .object [("latitude", .int 48), ("longitude", .int 2)])]

/-- The row without genres and a place, and with null for the likes. -/
def sparsePost : Record :=
  [("shares", .int 9), ("post_id", .text "p"), ("user_id", .text "me"), ("title", .text "Gig"),
    ("likes_count", .null), ("is_notice", .bool true)]

theorem rows_readByField_post :
    Sparser Post.columns ["genre_filters", "likes_count", "location"] fullPost sparsePost ∧
      ∃ p, (post fullPost).outcome = .ok p ∧ p.genreFilters = ["jazz"] ∧ p.likesCount = 3 ∧
        p.location.isSome ∧
        (post sparsePost).outcome =
          .ok (p.without ["genre_filters", "likes_count", "location"]) := by
  have sparser : Sparser Post.columns ["genre_filters", "likes_count", "location"] fullPost
      sparsePost := {
    optional := by decide
    cleared := by
      simp only [List.forall_mem_cons, List.not_mem_nil, IsEmpty.forall_iff, implies_true, and_true]
      exact ⟨.inl rfl, .inr rfl, .inl rfl⟩
    kept := by
      have others : ∀ name ∈ Post.columns.required ++ Post.columns.optional,
          name ∉ ["genre_filters", "likes_count", "location"] →
            name ∈ ["post_id", "user_id", "title", "caption", "media_url", "media_type",
              "is_notice", "created_at"] := by
        decide
      intro name listed there
      have left := others name listed there
      simp only [List.mem_cons, List.not_mem_nil, or_false] at left
      rcases left with rfl | rfl | rfl | rfl | rfl | rfl | rfl | rfl <;> rfl }
  have shape : (match (post fullPost).outcome with
      | .ok p => p.genreFilters == ["jazz"] && p.likesCount == 3 && p.location.isSome
      | .error _ => false) = true := by
    decide +kernel
  cases success : (post fullPost).outcome with
  | error f =>
    rw [success] at shape
    cases shape
  | ok p =>
    rw [success] at shape
    simp only [Bool.and_eq_true, beq_iff_eq] at shape
    obtain ⟨⟨genres, likes⟩, placed⟩ := shape
    exact ⟨sparser, p, rfl, genres, likes, placed, rows_readByField.2.1.sparse sparser success⟩

end Stored

end MusicianGraph
