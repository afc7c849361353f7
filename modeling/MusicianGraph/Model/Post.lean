import MusicianGraph.Model.Profile

/-! # Posts

A post has a title, a caption or media, of one of three types. A draft is what is sent to publish
one. -/

namespace MusicianGraph

/-- The types of media that a post can carry. -/
inductive MediaType where
  | image
  | video
  | soundcloud
deriving DecidableEq, Repr

namespace MediaType

/-- All media types. -/
def all : List MediaType := [image, video, soundcloud]

/-- The stored name of a media type. -/
def name : MediaType → String
  | image => "image"
  | video => "video"
  | soundcloud => "soundcloud"

/-- The media type with a stored name. -/
def ofName? (s : String) : Option MediaType := all.find? fun m => m.name == s

/-- Read a media type from its name. -/
def read (v : Value) : Reading MediaType :=
  let found :=
    match v with
    | .text s => ofName? s
    | _ => none
  match found with
  | some m => .accepted m
  | none => .reject (.notChoice (all.map name)) v

/-- A media type as its name. -/
def dump (m : MediaType) : Value := .text m.name

end MediaType

/-- A published post. -/
structure Post where
  postId : String
  userId : String
  title : Option String
  caption : Option String
  mediaUrl : Option String
  mediaType : Option MediaType
  genreFilters : List String
  likesCount : Int
  isNotice : Bool
  createdAt : Option DateTime
  location : Option GeoPoint

namespace Post

open Schema in
/-- Read a post from the fields of an object. -/
def ofRecord (r : Record) : Reading Post :=
  Post.mk
    <$> required r "post_id" text
    <*> required r "user_id" text
    <*> defaulted r "title" none (optional text)
    <*> defaulted r "caption" none (optional text)
    <*> defaulted r "media_url" none (optional text)
    <*> defaulted r "media_type" none (optional MediaType.read)
    <*> defaulted r "genre_filters" [] tags
    <*> defaulted r "likes_count" 0 (nullAs 0 int)
    <*> defaulted r "is_notice" false (nullAs false bool)
    <*> defaulted r "created_at" none (optional moment)
    <*> defaulted r "location" none (optional GeoPoint.read)

def read : Value → Reading Post := Schema.fields "Post" ofRecord

def dump (p : Post) : Value :=
  .object [
    ("post_id", .text p.postId),
    ("user_id", .text p.userId),
    ("title", .ofOption .text p.title),
    ("caption", .ofOption .text p.caption),
    ("media_url", .ofOption .text p.mediaUrl),
    ("media_type", .ofOption MediaType.dump p.mediaType),
    ("genre_filters", .ofTexts p.genreFilters),
    ("likes_count", .int p.likesCount),
    ("is_notice", .bool p.isNotice),
    ("created_at", .ofOption (fun t => .text (IsoText.render t)) p.createdAt),
    ("location", .ofOption GeoPoint.dump p.location)]

def schema : Schema Post := ⟨"Post", read, dump⟩

end Post

structure PostDraft where
  userId : String
  title : Option String
  caption : Option String
  mediaUrl : Option String
  mediaType : Option MediaType
  genreFilters : List String
  isNotice : Bool
  location : Option GeoPoint

namespace PostDraft

open Schema in
/-- Read a draft from the fields of an object. -/
def ofRecord (r : Record) : Reading PostDraft :=
  PostDraft.mk
    <$> required r "user_id" text
    <*> defaulted r "title" none (optional text)
    <*> defaulted r "caption" none (optional text)
    <*> defaulted r "media_url" none (optional text)
    <*> defaulted r "media_type" none (optional MediaType.read)
    <*> defaulted r "genre_filters" [] texts
    <*> defaulted r "is_notice" false bool
    <*> defaulted r "location" none (optional GeoPoint.read)

def read : Value → Reading PostDraft := Schema.fields "PostCreate" ofRecord

/-- A draft as an object. -/
def dump (d : PostDraft) : Value :=
  .object [
    ("user_id", .text d.userId),
    ("title", .ofOption .text d.title),
    ("caption", .ofOption .text d.caption),
    ("media_url", .ofOption .text d.mediaUrl),
    ("media_type", .ofOption MediaType.dump d.mediaType),
    ("genre_filters", .ofTexts d.genreFilters),
    ("is_notice", .bool d.isNotice),
    ("location", .ofOption GeoPoint.dump d.location)]

/-- Drafts as data. -/
def schema : Schema PostDraft := ⟨"PostCreate", read, dump⟩

end PostDraft

end MusicianGraph
