import MusicianGraph.Service.Arguments
import MusicianGraph.Text.Lowercase

/-! # Searching

A search finds what begins with a text, in any case: users by their usernames, then events by their
names, then posts by their genres. -/

namespace MusicianGraph.Search

open Projection

/-- What is looked for: the text in lowercase, without blanks around it. -/
def beginning (text : Value) : Except Failure String := (strippedText text).map lower

/-- What is looked for and how many of each kind are wanted, as parameters. -/
def params (sought : String) (limit : Value) : Record :=
  [("prefix", .text sought), ("limit", limit)]

def usersStatement (sought : String) (limit : Value) : Statement where
  text := clauses ["MATCH (u:User) WHERE toLower(u.username) STARTS WITH $prefix",
    "RETURN", userFields "u", "ORDER BY username LIMIT $limit"]
  params := params sought limit

def eventsStatement (sought : String) (limit : Value) : Statement where
  text := clauses ["MATCH (h:User)-[:HOSTS]->(e:Event) WHERE toLower(e.name) STARTS WITH $prefix",
    "RETURN", eventFields, "ORDER BY name LIMIT $limit"]
  params := params sought limit

def postsStatement (sought : String) (limit : Value) : Statement where
  text := clauses ["MATCH (u:User)-[:POSTED]->(p:Post)",
    "WHERE any(g IN coalesce(p.genre_filters, []) WHERE toLower(g) STARTS WITH $prefix)",
    "RETURN", postFields, "ORDER BY created_at DESC LIMIT $limit"]
  params := params sought limit

/-- Send a statement and read its rows as results. -/
def group {α : Type} (s : Statement) (read : Record → Readout α) (result : α → SearchResult) :
    Conversation (List SearchResult) := do
  let rows ← Conversation.query s
  let found ← Conversation.readRows read rows
  pure (found.map result)

/-- Search for a text. A blank text finds nothing. -/
def search (text limit : Value) : Conversation (List SearchResult) := do
  let sought ← Conversation.ofExcept (beginning text)
  if sought.isEmpty then pure []
  else
    let users ← group (usersStatement sought limit) Stored.profile .user
    let events ← group (eventsStatement sought limit) Stored.event .event
    let posts ← group (postsStatement sought limit) Stored.post .post
    let results := users ++ events ++ posts
    Conversation.log .debug ("Search " ++ quoted sought ++ " matched: "
      ++ ", ".intercalate (results.map SearchResult.label))
    pure results

end MusicianGraph.Search
