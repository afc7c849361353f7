/-! # Parts of statement texts

The columns that statements return for users, posts, events and messages, and the expression that
makes a stored location of two coordinates. Statement texts are built of fixed parts only; values
travel in the parameters. -/

namespace MusicianGraph.Projection

def braced (inner : String) : String := "\x7b" ++ inner ++ "\x7d"

/-- A subquery that counts the matches of a pattern. -/
def countOf (pattern : String) : String := "COUNT " ++ braced (" " ++ pattern ++ " ")

/-- The parts of a text with single blanks between them. -/
def clauses (parts : List String) : String := " ".intercalate parts

/-- The properties of a node that are returned under their own names. -/
def properties (node : String) (names : List String) : List String :=
  names.map fun name => node ++ "." ++ name ++ " AS " ++ name

def userFields (node : String) : String :=
  ", ".intercalate
    ((node ++ ".id AS user_id") ::
      (properties node ["username", "name", "bio", "avatar_url", "genres", "instruments",
          "location", "hour_rate", "solo_artist"] ++
        [countOf ("(" ++ node ++ ")-[:POSTED]->(:Post)") ++ " AS post_count",
          countOf ("(:User)-[:FOLLOWS]->(" ++ node ++ ")") ++ " AS followers_count",
          countOf ("(" ++ node ++ ")-[:FOLLOWS]->(:User)") ++ " AS following_count"]))

/-- The columns of a post `p` by a user `u`. -/
def postFields : String :=
  ", ".intercalate
    ("p.id AS post_id" :: "u.id AS user_id" ::
      (properties "p" ["title", "caption", "media_url", "media_type", "genre_filters", "is_notice",
          "created_at", "location"] ++
        [countOf "(:User)-[:LIKED]->(p)" ++ " AS likes_count"]))

/-- The columns of an event `e` hosted by a user `h`. -/
def eventFields : String :=
  ", ".intercalate
    ("e.id AS event_id" :: "h.id AS host_id" ::
      properties "e" ["name", "description", "image_url", "date", "location"])

/-- The columns of a message `m` from a user `s` to a user `r`. -/
def messageFields : String :=
  ", ".intercalate
    ("m.id AS message_id" :: "s.id AS sender_id" :: "r.id AS receiver_id" ::
      properties "m" ["text", "created_at"])

/-- The location with the coordinates in the parameters, if both are there. -/
def locationValue : String :=
  clauses ["CASE WHEN $latitude IS NULL OR $longitude IS NULL THEN null ELSE",
    "point(" ++ braced "latitude: $latitude, longitude: $longitude" ++ ") END"]

def nodeWithId (node label parameter : String) : String :=
  "(" ++ node ++ ":" ++ label ++ " " ++ braced ("id: $" ++ parameter) ++ ")"

/-- A new node with a random id and the present moment, and more properties before the moment. -/
def newNode (node label : String) (more : String) : String :=
  "(" ++ node ++ ":" ++ label ++ " "
    ++ braced ("id: randomUUID()" ++ more ++ ", created_at: datetime()") ++ ")"

end MusicianGraph.Projection
