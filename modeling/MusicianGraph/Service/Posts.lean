import MusicianGraph.Service.Arguments
import MusicianGraph.Model.Relation
import MusicianGraph.Tag

/-! # Posts, feeds and likes -/

namespace MusicianGraph.Posts

open Projection

/-- Cut a page out of the posts that a pattern matches, the newest first. -/
def listText (pattern : String) : String :=
  clauses ["MATCH", pattern, "RETURN", postFields,
    "ORDER BY p.created_at DESC SKIP $skip LIMIT $limit"]

/-- The statement that cuts out a page, unless the page is refused. -/
def listStatement (pattern : String) (userId : Value) (page : Page) : Except Failure Statement := do
  let params ← page.params
  .ok { text := listText pattern, params := ("user_id", userId) :: params }

/-- A page of the posts that a pattern matches. -/
def list (pattern : String) (userId : Value) (page : Page) : Conversation (List Post) := do
  let statement ← Conversation.ofExcept (listStatement pattern userId page)
  let rows ← Conversation.query statement
  Conversation.readRows Stored.post rows

/-- The posts of those whom a user follows. -/
def feedPattern : String :=
  nodeWithId "" "User" "user_id" ++ "-[:FOLLOWS]->(u:User)-[:POSTED]->(p:Post)"

def authorPattern : String := nodeWithId "u" "User" "user_id" ++ "-[:POSTED]->(p:Post)"

/-- A page of the posts of those whom a user follows. -/
def feed (userId : Value) (page : Page) : Conversation (List Post) := list feedPattern userId page

def byUser (userId : Value) (page : Page) : Conversation (List Post) :=
  list authorPattern userId page

structure NewPost where
  userId : Value
  title : Value := .null
  caption : Value := .null
  mediaUrl : Value := .null
  mediaType : Value := .null
  genreFilters : Value := .null
  isNotice : Value := .bool false
  location : Value := .null

def NewPost.ofDraft (d : PostDraft) : NewPost where
  userId := .text d.userId
  title := .ofOption .text d.title
  caption := .ofOption .text d.caption
  mediaUrl := .ofOption .text d.mediaUrl
  mediaType := .ofOption MediaType.dump d.mediaType
  genreFilters := .ofTexts d.genreFilters
  isNotice := .bool d.isNotice
  location := .ofOption GeoPoint.dump d.location

def createText : String :=
  clauses [
    "MATCH", nodeWithId "u" "User" "user_id",
    "CREATE (u)-[:POSTED]->" ++ newNode "p" "Post" "",
    "SET p.title = $title, p.caption = $caption, p.media_url = $media_url,",
    "p.media_type = $media_type, p.genre_filters = $genre_filters, p.is_notice = $is_notice,",
    "p.location =", locationValue,
    "WITH u, p RETURN", postFields]

/-- The stored name of a media type, if one is given. -/
def writtenMediaType (v : Value) : Except Failure Value :=
  match v with
  | .null => .ok .null
  | _ =>
      match MediaType.read v with
      | .accepted m => .ok m.dump
      | _ => .error (.unknownMedia v)

/-- The statement that publishes a post, unless it is refused. -/
def createStatement (p : NewPost) : Except Failure Statement := do
  if !(p.title.isTruthy || p.caption.isTruthy || p.mediaUrl.isTruthy) then .error .emptyPost
  else
    let mediaType ← writtenMediaType p.mediaType
    let genreFilters ← Tag.cleanValue p.genreFilters
    let location ← locationParams p.location
    .ok {
      text := createText
      params := [
        ("user_id", p.userId),
        ("title", p.title),
        ("caption", p.caption),
        ("media_url", p.mediaUrl),
        ("media_type", mediaType),
        ("genre_filters", .ofTexts genreFilters),
        ("is_notice", p.isNotice)] ++ location }

/-- Publish a post. There is none if the author does not exist. -/
def create (p : NewPost) : Conversation (Option Post) := do
  let statement ← Conversation.ofExcept (createStatement p)
  match ← Conversation.queryFirst statement with
  | none => pure none
  | some row => do
      let postId ← Conversation.ofExcept (Record.column row "post_id")
      Conversation.log .info (p.userId.shownText ++ " posted " ++ postId.shownText)
      some <$> Conversation.ofReadout (Stored.post row)

def likeParams (postId userId : Value) : Record := [("post_id", postId), ("user_id", userId)]

def likeStatement (postId userId : Value) : Statement where
  text := clauses [
    "MATCH", nodeWithId "u" "User" "user_id" ++ ",", nodeWithId "p" "Post" "post_id",
    "MERGE (u)-[:LIKED]->(p) RETURN", countOf "(:User)-[:LIKED]->(p)", "AS likes_count"]
  params := likeParams postId userId

/-- Make a user no longer like a post. -/
def unlikeStatement (postId userId : Value) : Statement where
  text := clauses [
    "MATCH", nodeWithId "p" "Post" "post_id",
    "OPTIONAL MATCH", nodeWithId "" "User" "user_id" ++ "-[r:LIKED]->(p)",
    "DELETE r WITH DISTINCT p RETURN", countOf "(:User)-[:LIKED]->(p)", "AS likes_count"]
  params := likeParams postId userId

/-- The number of likes that a statement answers. -/
def likesCount (s : Statement) : Conversation (Option Int) := do
  match ← Conversation.queryFirst s with
  | none => pure none
  | some row => Conversation.ofExcept ((Record.count row "likes_count").map some)

/-- Like a post, and count its likes. -/
def like (postId userId : Value) : Conversation (Option Int) :=
  likesCount (likeStatement postId userId)

/-- Take a like back, and count the likes of the post. -/
def unlike (postId userId : Value) : Conversation (Option Int) :=
  likesCount (unlikeStatement postId userId)

end MusicianGraph.Posts
