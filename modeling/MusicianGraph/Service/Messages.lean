import MusicianGraph.Service.Arguments

/-! # Messages between users -/

namespace MusicianGraph.Messages

open Projection

/-- Ask for the messages between two users. -/
def conversationStatement (userA userB : Value) : Statement where
  text := clauses [
    "MATCH (s:User)-[:SENT]->(m:Message)-[:TO]->(r:User)",
    "WHERE (s.id = $user_a AND r.id = $user_b) OR (s.id = $user_b AND r.id = $user_a)",
    "RETURN", messageFields,
    "ORDER BY m.created_at ASC"]
  params := [("user_a", userA), ("user_b", userB)]

/-- The messages between two users in both directions, the oldest first. -/
def between (userA userB : Value) : Conversation (List Message) := do
  let rows ← Conversation.query (conversationStatement userA userB)
  Conversation.readRows Stored.message rows

def sendText : String :=
  clauses [
    "MATCH", nodeWithId "s" "User" "sender_id" ++ ",", nodeWithId "r" "User" "receiver_id",
    "CREATE (s)-[:SENT]->" ++ newNode "m" "Message" ", text: $text" ++ "-[:TO]->(r)",
    "RETURN", messageFields]

/-- The statement that stores a message, unless it is blank. -/
def sendStatement (senderId receiverId text : Value) : Except Failure Statement := do
  if (← strippedText text).isEmpty then .error .emptyMessage
  else .ok {
    text := sendText
    params := [("sender_id", senderId), ("receiver_id", receiverId), ("text", text)] }

/-- Store a message. There is none if one of the users does not exist. -/
def send (senderId receiverId text : Value) : Conversation (Option Message) := do
  let statement ← Conversation.ofExcept (sendStatement senderId receiverId text)
  match ← Conversation.queryFirst statement with
  | none => pure none
  | some row => some <$> Conversation.ofReadout (Stored.message row)

end MusicianGraph.Messages
