import MusicianGraph.Model.Place

/-! # Events

An event is pinned on the map and hosted by a user. A draft is what is sent to host one. -/

namespace MusicianGraph

/-- A hosted event. -/
structure Event where
  eventId : String
  hostId : String
  name : String
  description : Option String
  imageUrl : Option String
  date : Option DateTime
  location : Option GeoPoint

namespace Event

open Schema in
/-- Read an event from the fields of an object. -/
def ofRecord (r : Record) : Reading Event :=
  Event.mk
    <$> required r "event_id" text
    <*> required r "host_id" text
    <*> required r "name" text
    <*> defaulted r "description" none (optional text)
    <*> defaulted r "image_url" none (optional text)
    <*> defaulted r "date" none (optional moment)
    <*> defaulted r "location" none (optional GeoPoint.read)

def read : Value → Reading Event := Schema.fields "Event" ofRecord

def dump (e : Event) : Value :=
  .object [
    ("event_id", .text e.eventId),
    ("host_id", .text e.hostId),
    ("name", .text e.name),
    ("description", .ofOption .text e.description),
    ("image_url", .ofOption .text e.imageUrl),
    ("date", .ofOption (fun t => .text (IsoText.render t)) e.date),
    ("location", .ofOption GeoPoint.dump e.location)]

def schema : Schema Event := ⟨"Event", read, dump⟩

end Event

structure EventDraft where
  hostId : String
  name : String
  description : Option String
  imageUrl : Option String
  date : Option DateTime
  location : Option GeoPoint

namespace EventDraft

/-- The most characters that the name of an event may have. -/
def longestName : Nat := 200

open Schema in
/-- Read a draft from the fields of an object. -/
def ofRecord (r : Record) : Reading EventDraft :=
  EventDraft.mk
    <$> required r "host_id" text
    <*> required r "name" (boundedText 1 longestName)
    <*> defaulted r "description" none (optional text)
    <*> defaulted r "image_url" none (optional text)
    <*> defaulted r "date" none (optional moment)
    <*> defaulted r "location" none (optional GeoPoint.read)

def read : Value → Reading EventDraft := Schema.fields "EventCreate" ofRecord

/-- A draft as an object. -/
def dump (d : EventDraft) : Value :=
  .object [
    ("host_id", .text d.hostId),
    ("name", .text d.name),
    ("description", .ofOption .text d.description),
    ("image_url", .ofOption .text d.imageUrl),
    ("date", .ofOption (fun t => .text (IsoText.render t)) d.date),
    ("location", .ofOption GeoPoint.dump d.location)]

/-- Drafts as data. -/
def schema : Schema EventDraft := ⟨"EventCreate", read, dump⟩

end EventDraft

end MusicianGraph
