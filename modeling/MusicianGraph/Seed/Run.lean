import MusicianGraph.Seed.Load
import MusicianGraph.Graph.Connection
import MusicianGraph.Service.Arguments

/-! # Seeding the graph

The loaded rows are written into the graph one statement each: all users, then all follows, then
posts and events. Before that the connection is tested, and afterwards users and follows are
counted. -/

namespace MusicianGraph.Seed

open Projection

/-- How the printed lines begin. -/
def lineMark : String := "[USERS ETL] "

/-- Print a line. -/
def say (line : String) : Conversation Unit := Conversation.print (lineMark ++ line)

/-- A cell that has to have a column. A missing value is sent as the undefined number. -/
def given (row : Record) (name : String) : Except Failure Value := do
  match ← Record.column row name with
  | .null => .ok (.float (0.0 / 0.0))
  | v => .ok v

/-- A cell that may be missing, as may its column. -/
def optionalCell (row : Record) (name : String) : Value := Record.getOrNull row name

/-- A cell that may be missing and is a number otherwise. -/
def coordinate (row : Record) (name : String) : Except Failure Value :=
  match Record.getOrNull row name with
  | .null => .ok .null
  | v => v.toFloat.map .float

def userStatement (row : Record) : Except Failure Statement := do
  let id ← given row "id"
  let username ← given row "username"
  let genres ← Record.column row "genres"
  let instruments ← Record.column row "instruments"
  let latitude ← coordinate row "latitude"
  let longitude ← coordinate row "longitude"
  .ok {
    text := clauses [
      "MERGE", nodeWithId "u" "User" "id",
      "SET u.username = $username, u.name = $name, u.bio = $bio, u.avatar_url = $avatar_url,",
      "u.genres = $genres, u.instruments = $instruments, u.location =", locationValue]
    params := [
      ("id", id), ("username", username),
      ("name", optionalCell row "name"), ("bio", optionalCell row "bio"),
      ("avatar_url", optionalCell row "avatar_url"),
      ("genres", genres), ("instruments", instruments),
      ("latitude", latitude), ("longitude", longitude)] }

def followStatement (row : Record) : Except Failure Statement := do
  let src ← given row "follower"
  let dst ← given row "followed"
  .ok {
    text := clauses [
      "MATCH", nodeWithId "a" "User" "src" ++ ",", nodeWithId "b" "User" "dst",
      "MERGE (a)-[:FOLLOWS]->(b)"]
    params := [("src", src), ("dst", dst)] }

def postStatement (row : Record) : Except Failure Statement := do
  let id ← given row "id"
  let userId ← given row "user_id"
  let genreFilters ← Record.column row "genre_filters"
  .ok {
    text := clauses [
      "MATCH", nodeWithId "u" "User" "user_id", "MERGE", nodeWithId "p" "Post" "id",
      "SET p.title = $title, p.caption = $caption, p.media_url = $media_url,",
      "p.media_type = $media_type, p.genre_filters = $genre_filters,",
      "p.created_at = coalesce(datetime($created_at), datetime())",
      "MERGE (u)-[:POSTED]->(p)"]
    params := [
      ("id", id), ("user_id", userId),
      ("title", optionalCell row "title"), ("caption", optionalCell row "caption"),
      ("media_url", optionalCell row "media_url"), ("media_type", optionalCell row "media_type"),
      ("genre_filters", genreFilters), ("created_at", optionalCell row "created_at")] }

def eventStatement (row : Record) : Except Failure Statement := do
  let id ← given row "id"
  let hostId ← given row "host_id"
  let name ← Record.column row "name"
  let latitude ← coordinate row "latitude"
  let longitude ← coordinate row "longitude"
  .ok {
    text := clauses [
      "MATCH", nodeWithId "h" "User" "host_id", "MERGE", nodeWithId "e" "Event" "id",
      "SET e.name = $name, e.description = $description, e.image_url = $image_url,",
      "e.date = CASE WHEN $date IS NULL THEN null ELSE datetime($date) END,",
      "e.location =", locationValue ++ ",",
      "e.created_at = coalesce(datetime($created_at), datetime())",
      "MERGE (h)-[:HOSTS]->(e)"]
    params := [
      ("id", id), ("host_id", hostId), ("name", .text (strip name.shownText)),
      ("description", optionalCell row "description"), ("image_url", optionalCell row "image_url"),
      ("date", optionalCell row "date"), ("latitude", latitude), ("longitude", longitude),
      ("created_at", optionalCell row "created_at")] }

/-- Send a statement and pass over its reply. -/
def send (s : Statement) : Conversation Unit := do
  let _ ← Conversation.query s
  pure ()

/-- Send a statement for each row, and say now and then how many there were so far. At the end
their number is known. -/
def sendRows (statement : Record → Except Failure Statement) (progress : Nat → Option String)
    (count : Nat) : List Record → Conversation Nat
  | [] => pure count
  | row :: rest => do
      send (← Conversation.ofExcept (statement row))
      match progress (count + 1) with
      | some line => say line
      | none => pure ()
      sendRows statement progress (count + 1) rest

/-- A line for every so many rows. -/
def every (step : Nat) (things : String) (count : Nat) : Option String :=
  if count % step = 0 then some ("Created " ++ toString count ++ " " ++ things ++ "...") else none

def never (_ : Nat) : Option String := none

/-- The statements that keep ids unique. -/
def constraints : List Statement :=
  [("u", "User"), ("p", "Post"), ("e", "Event")].map fun (node, label) =>
    ⟨"CREATE CONSTRAINT IF NOT EXISTS FOR (" ++ node ++ ":" ++ label ++ ") REQUIRE " ++ node
      ++ ".id IS UNIQUE", []⟩

/-- What was loaded. -/
structure Tables where
  musicians : Table
  follows : Table
  posts : Option Table
  events : Option Table

def load (files : Files) : Except Failure Tables := do
  let musicians ← loadMusicians files
  let follows ← loadFollows files
  let posts ← loadPosts files
  let events ← loadEvents files
  .ok { musicians, follows, posts, events }

/-- How many rows a table has, if it is there. -/
def size (t : Option Table) : Nat := (t.map fun t => t.rows.length).getD 0

def write (tables : Tables) : Conversation Unit := do
  constraints.forM send
  say "✓ Constraints created"
  let users ← sendRows userStatement (every 1000 "users") 0 tables.musicians.rows
  say ("✓ Created " ++ toString users ++ " User nodes")
  let follows ← sendRows followStatement (every 10000 "relationships") 0 tables.follows.rows
  say ("✓ Created " ++ toString follows ++ " FOLLOWS relationships")
  match tables.posts with
  | none => pure ()
  | some posts => do
      let _ ← sendRows postStatement never 0 posts.rows
      say ("✓ Created " ++ toString posts.rows.length ++ " Post nodes")
  match tables.events with
  | none => pure ()
  | some events => do
      let _ ← sendRows eventStatement never 0 events.rows
      say ("✓ Created " ++ toString events.rows.length ++ " Event nodes")

def testStatement : Statement := ⟨"RETURN 1", []⟩

def countUsers : Statement := ⟨"MATCH (u:User) RETURN count(u) AS cnt", []⟩

def countFollows : Statement := ⟨"MATCH ()-[r:FOLLOWS]->() RETURN count(r) AS cnt", []⟩

/-- The count in the first row of an answer. -/
def countIn (row : Option Record) : Except Failure String :=
  match row with
  | none => .error .noRow
  | some row => (Record.column row "cnt").bind Value.shown

def verify : Conversation Unit := do
  let users ← Conversation.queryFirst countUsers
  let edges ← Conversation.queryFirst countFollows
  let users ← Conversation.ofExcept (countIn users)
  let edges ← Conversation.ofExcept (countIn edges)
  say ("Verification: " ++ users ++ " users, " ++ edges ++ " FOLLOWS relationships")

/-- Do some work in a session of its own; a failure ends the seeding. -/
def inSession (driver : Nat) (work : Conversation Unit) : Conversation Unit := do
  Conversation.ofExcept (← Pool.inSession driver work)

def run (settings : Settings) (files : Files) : Conversation Unit := do
  say ("Connecting to Neo4j at: " ++ settings.graphUri)
  let driver ← Conversation.ofExcept (← Pool.connect settings none 0)
  inSession driver (send testStatement)
  say "✓ Connection successful"
  let tables ← Conversation.ofExcept (load files)
  say ("Loaded: " ++ toString tables.musicians.rows.length ++ " musicians, "
    ++ toString tables.follows.rows.length ++ " follows, "
    ++ toString (size tables.posts) ++ " posts, " ++ toString (size tables.events) ++ " events")
  inSession driver (write tables)
  inSession driver verify
  Conversation.note (.disconnected driver) (pure ())
  say "✓ ETL completed successfully"

end MusicianGraph.Seed
