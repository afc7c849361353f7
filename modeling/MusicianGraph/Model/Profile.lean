import MusicianGraph.Model.Place
import MusicianGraph.Value.Same

/-! # Profiles

A profile is what is stored about a musician. Its tag lists hold no tag twice: when a profile is
read, repeated tags are dropped, and missing counts are zero. -/

namespace MusicianGraph

namespace Schema

/-- A list of tags, of which the first of those that are the same is kept. Null is no tags; a text
is gone through by its characters and an object by its names. -/
def tags : Value → Reading (List String)
  | .null => .accepted []
  | v =>
      match v.items? with
      | some items => .ofItems text 0 items.eraseDups
      | none => .stopped v.kindName

end Schema

/-- What is stored about a musician. -/
structure UserProfile where
  userId : String
  username : String
  name : Option String
  bio : Option String
  avatarUrl : Option String
  genres : List String
  instruments : List String
  location : Option GeoPoint
  postCount : Int
  followersCount : Int
  followingCount : Int
  hourRate : Option Float
  soloArtist : Bool

namespace UserProfile

open Schema in
/-- Read a profile from the fields of an object. -/
def ofRecord (r : Record) : Reading UserProfile :=
  UserProfile.mk
    <$> required r "user_id" text
    <*> required r "username" text
    <*> defaulted r "name" none (optional text)
    <*> defaulted r "bio" none (optional text)
    <*> defaulted r "avatar_url" none (optional text)
    <*> defaulted r "genres" [] tags
    <*> defaulted r "instruments" [] tags
    <*> defaulted r "location" none (optional GeoPoint.read)
    <*> defaulted r "post_count" 0 (nullAs 0 int)
    <*> defaulted r "followers_count" 0 (nullAs 0 int)
    <*> defaulted r "following_count" 0 (nullAs 0 int)
    <*> defaulted r "hour_rate" none (optional float)
    <*> defaulted r "solo_artist" false (nullAs false bool)

def read : Value → Reading UserProfile := Schema.fields "UserProfile" ofRecord

def dump (p : UserProfile) : Value :=
  .object [
    ("user_id", .text p.userId),
    ("username", .text p.username),
    ("name", .ofOption .text p.name),
    ("bio", .ofOption .text p.bio),
    ("avatar_url", .ofOption .text p.avatarUrl),
    ("genres", .ofTexts p.genres),
    ("instruments", .ofTexts p.instruments),
    ("location", .ofOption GeoPoint.dump p.location),
    ("post_count", .int p.postCount),
    ("followers_count", .int p.followersCount),
    ("following_count", .int p.followingCount),
    ("hour_rate", .ofOption .float p.hourRate),
    ("solo_artist", .bool p.soloArtist)]

def schema : Schema UserProfile := ⟨"UserProfile", read, dump⟩

end UserProfile

end MusicianGraph
