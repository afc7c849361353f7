import MusicianGraph.Schema.Scalar
import MusicianGraph.Schema.Field

/-! # Messages

A message goes from one user to another. A draft is what is sent to post one. -/

namespace MusicianGraph

/-- A stored message. -/
structure Message where
  messageId : String
  senderId : String
  receiverId : String
  text : String
  createdAt : Option DateTime

namespace Message

open Schema in
/-- Read a message from the fields of an object. -/
def ofRecord (r : Record) : Reading Message :=
  Message.mk
    <$> required r "message_id" Schema.text
    <*> required r "sender_id" Schema.text
    <*> required r "receiver_id" Schema.text
    <*> required r "text" Schema.text
    <*> defaulted r "created_at" none (optional moment)

def read : Value → Reading Message := Schema.fields "Message" ofRecord

def dump (m : Message) : Value :=
  .object [
    ("message_id", .text m.messageId),
    ("sender_id", .text m.senderId),
    ("receiver_id", .text m.receiverId),
    ("text", .text m.text),
    ("created_at", .ofOption (fun t => .text (IsoText.render t)) m.createdAt)]

def schema : Schema Message := ⟨"Message", read, dump⟩

end Message

structure MessageDraft where
  senderId : String
  receiverId : String
  text : String
deriving DecidableEq, Repr

namespace MessageDraft

/-- The most characters that a message may have. -/
def longestText : Nat := 2000

open Schema in
/-- Read a draft from the fields of an object. -/
def ofRecord (r : Record) : Reading MessageDraft :=
  MessageDraft.mk
    <$> required r "sender_id" Schema.text
    <*> required r "receiver_id" Schema.text
    <*> required r "text" (boundedText 1 longestText)

def read : Value → Reading MessageDraft := Schema.fields "MessageCreate" ofRecord

/-- A draft as an object. -/
def dump (d : MessageDraft) : Value :=
  .object [
    ("sender_id", .text d.senderId),
    ("receiver_id", .text d.receiverId),
    ("text", .text d.text)]

/-- Drafts as data. -/
def schema : Schema MessageDraft := ⟨"MessageCreate", read, dump⟩

end MessageDraft

end MusicianGraph
