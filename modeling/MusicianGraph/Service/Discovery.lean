import MusicianGraph.Service.Arguments
import MusicianGraph.Selection
import MusicianGraph.Settings

/-! # Suggesting users to follow

A bounded number of candidates is fetched and then ranked, so suggestions are the best among the
fetched ones. The user is never a candidate, and users that are followed already need not be. -/

namespace MusicianGraph.Discovery

open Projection

/-- Ask for candidates, the most active first. -/
def candidatesStatement (userId limit excludeFollowed : Value) : Statement where
  text := clauses [
    "MATCH (me:User " ++ braced "id: $user_id" ++ ")",
    "MATCH (u:User) WHERE u.id <> $user_id",
    "AND (NOT $exclude_followed OR NOT (me)-[:FOLLOWS]->(u))",
    "RETURN", userFields "u",
    "ORDER BY post_count DESC, user_id LIMIT $limit"]
  params := [("user_id", userId), ("limit", limit), ("exclude_followed", excludeFollowed)]

/-- Fetch at most `limit` candidates. Nothing is sent if that is none. -/
def fetchCandidates (userId limit excludeFollowed : Value) : Conversation (List UserProfile) := do
  if ← Conversation.ofExcept (limit.against .atMost) then pure []
  else
    let rows ← Conversation.query (candidatesStatement userId limit excludeFollowed)
    Conversation.readRows Stored.profile rows

/-- A number in a log line, where a fraction is cut off. -/
def loggedNumber (v : Value) : String :=
  match v.toInt with
  | .ok n => toString n
  | .error _ => v.shownText

/-- Suggest users: fetch candidates, then rank them. Numbers that are not given are those of the
settings. Without candidates the strategy is not even looked at. -/
def suggest (settings : Settings) (user : UserProfile) (strategy limit k : Value) :
    Conversation (List CandidateScore) := do
  let limit := limit.orDefault (.int settings.candidateLimit)
  let k := k.orDefault (.int settings.suggestionCount)
  let candidates ← fetchCandidates (.text user.userId) limit (.bool true)
  Conversation.log .debug ("Fetched " ++ toString candidates.length ++ " candidates for "
    ++ user.userId ++ " (limit " ++ loggedNumber limit ++ ")")
  if candidates.isEmpty then do
    Conversation.log .info ("No follow candidates for " ++ user.userId)
    pure []
  else Conversation.ofExcept do
    let strategy ← Strategy.ofValue strategy
    Selection.rankFor strategy user candidates k

end MusicianGraph.Discovery
