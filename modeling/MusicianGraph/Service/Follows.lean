import MusicianGraph.Service.Arguments
import MusicianGraph.Model.Relation
import MusicianGraph.Value.Same

/-! # Following and unfollowing -/

namespace MusicianGraph.Follows

open Projection

def edgeParams (followerId followedId : Value) : Record :=
  [("follower_id", followerId), ("followed_id", followedId)]

/-- Make a user follow another. -/
def followStatement (followerId followedId : Value) : Statement where
  text := clauses [
    "MATCH", nodeWithId "a" "User" "follower_id" ++ ",", nodeWithId "b" "User" "followed_id",
    "MERGE (a)-[:FOLLOWS]->(b) RETURN b.id AS followed_id"]
  params := edgeParams followerId followedId

/-- Make a user follow another, who must not be the user. There is no edge if one of them does not
exist. -/
def follow (followerId followedId : Value) : Conversation (Option FollowEdge) :=
  if followerId.same followedId then Conversation.failed .selfFollow
  else do
    match ← Conversation.queryFirst (followStatement followerId followedId) with
    | none => pure none
    | some row => do
        Conversation.log .info (followerId.shownText ++ " now follows " ++ followedId.shownText)
        Conversation.ofExcept do
          let followed ← Record.column row "followed_id"
          let edge ← FollowEdge.schema.validate
            (.object [("follower_id", followerId), ("followed_id", followed)])
          .ok (some edge)

/-- Remove the edge between two users. -/
def unfollowStatement (followerId followedId : Value) : Statement where
  text := clauses [
    "MATCH", nodeWithId "" "User" "follower_id" ++ "-[r:FOLLOWS]->"
      ++ nodeWithId "" "User" "followed_id",
    "DELETE r RETURN count(r) AS removed"]
  params := edgeParams followerId followedId

/-- Make a user no longer follow another, and tell whether that changed anything. -/
def unfollow (followerId followedId : Value) : Conversation Bool := do
  match ← Conversation.queryFirst (unfollowStatement followerId followedId) with
  | none => pure false
  | some row => Conversation.ofExcept do
      let removed ← Record.column row "removed"
      removed.against .above

/-- Ask whether a user follows another. -/
def followingStatement (followerId followedId : Value) : Statement where
  text := clauses [
    "RETURN EXISTS",
    braced (" MATCH " ++ nodeWithId "" "User" "follower_id" ++ "-[:FOLLOWS]->"
      ++ nodeWithId "" "User" "followed_id" ++ " "),
    "AS following"]
  params := edgeParams followerId followedId

def isFollowing (followerId followedId : Value) : Conversation Bool := do
  match ← Conversation.queryFirst (followingStatement followerId followedId) with
  | none => pure false
  | some row => Conversation.ofExcept ((Record.column row "following").map Value.isTruthy)

/-- Ask how many follow a user and how many the user follows. -/
def countsStatement (userId : Value) : Statement where
  text := clauses [
    "MATCH", nodeWithId "u" "User" "user_id",
    "RETURN", countOf "(:User)-[:FOLLOWS]->(u)", "AS followers,",
    countOf "(u)-[:FOLLOWS]->(:User)", "AS following"]
  params := [("user_id", userId)]

def counts (userId : Value) : Conversation (Int × Int) := do
  match ← Conversation.queryFirst (countsStatement userId) with
  | none => pure (0, 0)
  | some row => Conversation.ofExcept do
      let followers ← Record.count row "followers"
      let following ← Record.count row "following"
      .ok (followers, following)

/-- The relation between two users, with how many follow the second and how many the first
follows. -/
def state (followerId followedId : String) : Conversation FollowState := do
  let following ← isFollowing (.text followerId) (.text followedId)
  let (followersCount, _) ← counts (.text followedId)
  let (_, followingCount) ← counts (.text followerId)
  pure { followerId, followedId, following, followersCount, followingCount }

end MusicianGraph.Follows
