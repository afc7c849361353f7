import MusicianGraph.Service.Arguments

/-! # Listing and hosting events -/

namespace MusicianGraph.Events

open Projection

/-- Cut a page out of the events, those created last first. -/
def listText : String :=
  clauses ["MATCH (h:User)-[:HOSTS]->(e:Event) RETURN", eventFields,
    "ORDER BY e.created_at DESC SKIP $skip LIMIT $limit"]

/-- The statement that cuts out a page, unless the page is refused. -/
def listStatement (page : Page) : Except Failure Statement := do
  let params ← page.params
  .ok { text := listText, params }

def list (page : Page) : Conversation (List Event) := do
  let statement ← Conversation.ofExcept (listStatement page)
  let rows ← Conversation.query statement
  Conversation.readRows Stored.event rows

structure NewEvent where
  hostId : Value
  name : Value
  description : Value := .null
  imageUrl : Value := .null
  date : Value := .null
  location : Value := .null

def NewEvent.ofDraft (d : EventDraft) : NewEvent where
  hostId := .text d.hostId
  name := .text d.name
  description := .ofOption .text d.description
  imageUrl := .ofOption .text d.imageUrl
  date := .ofOption .moment d.date
  location := .ofOption GeoPoint.dump d.location

def createText : String :=
  clauses [
    "MATCH", nodeWithId "h" "User" "host_id",
    "CREATE (h)-[:HOSTS]->" ++ newNode "e" "Event" "",
    "SET e.name = $name, e.description = $description, e.image_url = $image_url,",
    "e.date = $date, e.location =", locationValue,
    "WITH h, e RETURN", eventFields]

/-- The statement that creates an event, unless it is refused. -/
def createStatement (e : NewEvent) : Except Failure Statement := do
  let name ← strippedText e.name
  if name.isEmpty then .error .emptyEventName
  else
    let location ← locationParams e.location
    .ok {
      text := createText
      params := [
        ("host_id", e.hostId),
        ("name", .text name),
        ("description", e.description),
        ("image_url", e.imageUrl),
        ("date", e.date)] ++ location }

/-- Create an event. There is none if the host does not exist. -/
def create (e : NewEvent) : Conversation (Option Event) := do
  let statement ← Conversation.ofExcept (createStatement e)
  match ← Conversation.queryFirst statement with
  | none => pure none
  | some row => do
      let eventId ← Conversation.ofExcept (Record.column row "event_id")
      Conversation.log .info (e.hostId.shownText ++ " is hosting event " ++ eventId.shownText)
      some <$> Conversation.ofReadout (Stored.event row)

end MusicianGraph.Events
