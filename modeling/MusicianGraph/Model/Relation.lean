import MusicianGraph.Schema.Scalar
import MusicianGraph.Schema.Field

/-! # Follows and likes

Who follows whom, and what is answered when somebody follows or likes. -/

namespace MusicianGraph

/-- One user follows another. -/
structure FollowEdge where
  followerId : String
  followedId : String
deriving DecidableEq, Repr

namespace FollowEdge

/-- Read an edge from the fields of an object. -/
def ofRecord (r : Record) : Reading FollowEdge :=
  FollowEdge.mk
    <$> Schema.required r "follower_id" Schema.text
    <*> Schema.required r "followed_id" Schema.text

/-- An edge as an object. -/
def dump (e : FollowEdge) : Value :=
  .object [("follower_id", .text e.followerId), ("followed_id", .text e.followedId)]

/-- Edges as data. -/
def schema : Schema FollowEdge := ⟨"FollowEdge", Schema.fields "FollowEdge" ofRecord, dump⟩

end FollowEdge

/-- The state of a follow relation with the counters that it changes. -/
structure FollowState where
  followerId : String
  followedId : String
  following : Bool
  followersCount : Int
  followingCount : Int
deriving DecidableEq, Repr

namespace FollowState

/-- Read a follow state from the fields of an object. -/
def ofRecord (r : Record) : Reading FollowState :=
  FollowState.mk
    <$> Schema.required r "follower_id" Schema.text
    <*> Schema.required r "followed_id" Schema.text
    <*> Schema.required r "following" Schema.bool
    <*> Schema.required r "followers_count" Schema.int
    <*> Schema.required r "following_count" Schema.int

/-- A follow state as an object. -/
def dump (s : FollowState) : Value :=
  .object [
    ("follower_id", .text s.followerId),
    ("followed_id", .text s.followedId),
    ("following", .bool s.following),
    ("followers_count", .int s.followersCount),
    ("following_count", .int s.followingCount)]

/-- Follow states as data. -/
def schema : Schema FollowState :=
  ⟨"FollowResponse", Schema.fields "FollowResponse" ofRecord, dump⟩

end FollowState

/-- The likes of a post after a user has liked or unliked it. -/
structure LikeState where
  postId : String
  userId : String
  likesCount : Int
deriving DecidableEq, Repr

namespace LikeState

/-- Read a like state from the fields of an object. -/
def ofRecord (r : Record) : Reading LikeState :=
  LikeState.mk
    <$> Schema.required r "post_id" Schema.text
    <*> Schema.required r "user_id" Schema.text
    <*> Schema.required r "likes_count" Schema.int

/-- A like state as an object. -/
def dump (s : LikeState) : Value :=
  .object [
    ("post_id", .text s.postId),
    ("user_id", .text s.userId),
    ("likes_count", .int s.likesCount)]

/-- Like states as data. -/
def schema : Schema LikeState := ⟨"LikeResponse", Schema.fields "LikeResponse" ofRecord, dump⟩

end LikeState

end MusicianGraph
