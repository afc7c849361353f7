import MusicianGraph.Model.Post
import MusicianGraph.Model.Event
import MusicianGraph.Value.Render

/-! # Search results

A result is a user, an event or a post. As data it is an object whose `kind` says which. -/

namespace MusicianGraph

/-- What a search can find. -/
inductive SearchResult where
  | user (profile : UserProfile)
  | event (event : Event)
  | post (post : Post)

namespace SearchResult

def kinds : List String := ["user", "event", "post"]

def kind : SearchResult → String
  | user _ => "user"
  | event _ => "event"
  | post _ => "post"

/-- A text that has to be the given one. -/
def literal (wanted : String) : Value → Reading Unit
  | .text s => if s = wanted then .accepted () else .reject (.notLiteral wanted) (.text s)
  | v => .reject (.notLiteral wanted) v

/-- An object that has the given kind, which may be left out, and something under the kind's
name. -/
def readKind {α : Type} (title kind : String) (read : Value → Reading α) : Value → Reading α :=
  Schema.fields title fun r =>
    (fun _ a => a) <$> Schema.defaulted r "kind" () (literal kind) <*> Schema.required r kind read

def readUser (v : Value) : Reading SearchResult :=
  (readKind "UserResult" "user" UserProfile.read v).map user

def readEvent (v : Value) : Reading SearchResult :=
  (readKind "EventResult" "event" Event.read v).map event

def readPost (v : Value) : Reading SearchResult :=
  (readKind "PostResult" "post" Post.read v).map post

def readerFor? : Value → Option (String × (Value → Reading SearchResult))
  | .text "user" => some ("user", readUser)
  | .text "event" => some ("event", readEvent)
  | .text "post" => some ("post", readPost)
  | _ => none

/-- Read a result by its kind; problems inside it are told under the kind. The values that the graph
adds have fields, though none that says their kind; a plain moment has none. -/
def read (v : Value) : Reading SearchResult :=
  match v with
  | .object r =>
      match Record.get? r "kind" with
      | none => .reject .noTag v
      | some tag =>
          match readerFor? tag with
          | some (kind, reader) => (reader v).within (.field kind)
          | none => .reject (.unknownTag tag.shownText kinds) v
  | .place _ | .point .. | .storedMoment .. | .storedDay _ => .reject .noTag v
  | _ => .reject .notFields v

/-- What was found, as an object. -/
def content : SearchResult → Value
  | user p => p.dump
  | event e => e.dump
  | post p => p.dump

def dump (s : SearchResult) : Value :=
  .object [("kind", .text s.kind), (s.kind, s.content)]

def schema : Schema SearchResult :=
  ⟨"tagged-union[UserResult,EventResult,PostResult]", read, dump⟩

def userSchema : Schema SearchResult := ⟨"UserResult", readUser, dump⟩

def eventSchema : Schema SearchResult := ⟨"EventResult", readEvent, dump⟩

def postSchema : Schema SearchResult := ⟨"PostResult", readPost, dump⟩

def label : SearchResult → String
  | user p => "@" ++ p.username
  | event e => "Event: " ++ e.name
  | post p =>
      let title := p.title.getD ""
      "Post: " ++ (if title.isEmpty then ", ".intercalate p.genreFilters else title)

end SearchResult

end MusicianGraph
