import MusicianGraph.Proofs.Graph.Exchange
import MusicianGraph.Proofs.Graph.Wording
import MusicianGraph.Proofs.Value.Record
import MusicianGraph.Service.Profiles
import MusicianGraph.Service.Posts
import MusicianGraph.Service.Events
import MusicianGraph.Service.Messages
import MusicianGraph.Service.Follows

/-! # The writes are exchanges

Five operations write into the graph: profiles are edited, users are followed, posts and events are
created and messages are sent. Each is one exchange, with its own statement and its own reading of
the row that comes back. A statement that is not refused is known in all its parts. -/

namespace MusicianGraph

open Conversation

theorem Profiles.update_isExchange (userId : Value) (changes : Record) :
    IsExchange (update userId changes) (updateStatement userId changes)
      fun row => (Stored.profile row).outcome :=
  isExchange_of_settles fun row =>
    (Settles.log _ _).bind fun _ => (Settles.ofReadout (Stored.profile row)).map some

/-- A column that is not null is there. -/
theorem Record.column_of_getOrNull {r : Record} {name : String} {v : Value}
    (found : r.getOrNull name = v) (filled : v ≠ .null) : r.column name = .ok v := by
  rw [Record.getOrNull] at found
  rw [Record.column]
  cases stored : r.get? name with
  | none =>
    rw [stored] at found
    exact absurd found.symm filled
  | some w =>
    rw [stored] at found
    exact congrArg Except.ok found

/-- What is read off the row of a new post. Its identifier is looked at first, for the log. -/
def Posts.readCreated (row : Record) : Except Failure Post := do
  let _ ← Record.column row "post_id"
  (Stored.post row).outcome

theorem Posts.create_isExchange (p : NewPost) :
    IsExchange (create p) (createStatement p) readCreated := by
  refine isExchange_of_settles fun row => ?_
  have settled := (Settles.ofExcept (Record.column row "post_id")).bind fun postId =>
    (Settles.log .info (p.userId.shownText ++ " posted " ++ postId.shownText)).bind fun _ =>
      (Settles.ofReadout (Stored.post row)).map some
  rw [readCreated]
  cases column : Record.column row "post_id" <;> rw [column] at settled <;> exact settled

/-- What is read off the row of a new event. Its identifier is looked at first, for the log. -/
def Events.readCreated (row : Record) : Except Failure Event := do
  let _ ← Record.column row "event_id"
  (Stored.event row).outcome

theorem Events.create_isExchange (e : NewEvent) :
    IsExchange (create e) (createStatement e) readCreated := by
  refine isExchange_of_settles fun row => ?_
  have settled := (Settles.ofExcept (Record.column row "event_id")).bind fun eventId =>
    (Settles.log .info (e.hostId.shownText ++ " is hosting event " ++ eventId.shownText)).bind
      fun _ => (Settles.ofReadout (Stored.event row)).map some
  rw [readCreated]
  cases column : Record.column row "event_id" <;> rw [column] at settled <;> exact settled

theorem Messages.send_isExchange (senderId receiverId text : Value) :
    IsExchange (send senderId receiverId text) (sendStatement senderId receiverId text)
      fun row => (Stored.message row).outcome :=
  isExchange_of_settles fun row => (Settles.ofReadout (Stored.message row)).map some

/-- The statement that makes a user follow another, unless they are the same. -/
def Follows.edgeStatement (followerId followedId : Value) : Except Failure Statement :=
  if followerId.same followedId then .error .selfFollow
  else .ok (followStatement followerId followedId)

/-- What is read off the row of a new edge: who is followed now. -/
def Follows.readEdge (followerId : Value) (row : Record) : Except Failure FollowEdge := do
  let followed ← Record.column row "followed_id"
  FollowEdge.schema.validate (.object [("follower_id", followerId), ("followed_id", followed)])

theorem Follows.follow_isExchange (followerId followedId : Value) :
    IsExchange (follow followerId followedId) (edgeStatement followerId followedId)
      (readEdge followerId) := by
  have answer : ∀ row, Settles
      (do
        log .info (followerId.shownText ++ " now follows " ++ followedId.shownText)
        ofExcept do
          let followed ← Record.column row "followed_id"
          let edge ← FollowEdge.schema.validate
            (.object [("follower_id", followerId), ("followed_id", followed)])
          .ok (some edge))
      ((readEdge followerId row).map some) := by
    intro row
    have told : (readEdge followerId row).map some = (do
        let followed ← Record.column row "followed_id"
        let edge ← FollowEdge.schema.validate
          (.object [("follower_id", followerId), ("followed_id", followed)])
        .ok (some edge)) := by
      rw [readEdge]
      cases Record.column row "followed_id" with
      | error f => rfl
      | ok followed =>
        change Except.map some (FollowEdge.schema.validate _) =
          (FollowEdge.schema.validate _ >>= fun edge => .ok (some edge))
        cases FollowEdge.schema.validate _ <;> rfl
    rw [told]
    exact (Settles.log _ _).bind fun _ => Settles.ofExcept _
  rw [follow, edgeStatement]
  cases followerId.same followedId with
  | true =>
    refine ⟨fun refused => ?_, fun sent => nomatch sent⟩
    cases refused
    exact Settles.failed .selfFollow
  | false =>
    have sends : IsExchange _ (.ok (followStatement followerId followedId)) (readEdge followerId) :=
      isExchange_of_settles answer
    exact sends

section Statements

variable {s : Statement}

/-- What is sent for an update that is not refused. -/
theorem Profiles.updateStatement_ok {userId : Value} {changes : Record}
    (accepted : updateStatement userId changes = .ok s) :
    ∃ props location, writtenProperties changes = .ok props ∧
      writtenLocation changes = .ok location ∧ s = {
        text := updateText location.isSome
        params := [("user_id", userId), ("props", .object props)] ++ location.getD [] } := by
  rw [updateStatement] at accepted
  split at accepted
  · cases accepted
  · split at accepted
    · cases accepted
    · simp only [bind_ok_iff] at accepted
      obtain ⟨props, written, location, located, same⟩ := accepted
      cases same
      exact ⟨props, location, written, located, rfl⟩

/-- What is sent for a new post that is not refused. -/
theorem Posts.createStatement_ok {p : NewPost} (accepted : createStatement p = .ok s) :
    ∃ mediaType genreFilters location, writtenMediaType p.mediaType = .ok mediaType ∧
      Tag.cleanValue p.genreFilters = .ok genreFilters ∧ locationParams p.location = .ok location ∧
      s = {
        text := createText
        params := [
          ("user_id", p.userId),
          ("title", p.title),
          ("caption", p.caption),
          ("media_url", p.mediaUrl),
          ("media_type", mediaType),
          ("genre_filters", .ofTexts genreFilters),
          ("is_notice", p.isNotice)] ++ location } := by
  rw [createStatement] at accepted
  split at accepted
  · cases accepted
  · simp only [bind_ok_iff] at accepted
    obtain ⟨mediaType, media, genreFilters, cleaned, location, located, same⟩ := accepted
    cases same
    exact ⟨mediaType, genreFilters, location, media, cleaned, located, rfl⟩

/-- What is sent for a new event that is not refused. -/
theorem Events.createStatement_ok {e : NewEvent} (accepted : createStatement e = .ok s) :
    ∃ name location, strippedText e.name = .ok name ∧ name ≠ "" ∧
      locationParams e.location = .ok location ∧ s = {
        text := createText
        params := [
          ("host_id", e.hostId),
          ("name", .text name),
          ("description", e.description),
          ("image_url", e.imageUrl),
          ("date", e.date)] ++ location } := by
  rw [createStatement, bind_ok_iff] at accepted
  obtain ⟨name, stripped, rest⟩ := accepted
  split at rest
  · cases rest
  · next filled =>
    rw [bind_ok_iff] at rest
    obtain ⟨location, located, same⟩ := rest
    cases same
    exact ⟨name, location, stripped, fun empty => filled (String.isEmpty_iff.mpr empty), located,
      rfl⟩

/-- What is sent for a message that is not refused. -/
theorem Messages.sendStatement_ok {senderId receiverId text : Value}
    (accepted : sendStatement senderId receiverId text = .ok s) :
    ∃ stripped, strippedText text = .ok stripped ∧ stripped ≠ "" ∧ s = {
      text := sendText
      params := [("sender_id", senderId), ("receiver_id", receiverId), ("text", text)] } := by
  rw [sendStatement, bind_ok_iff] at accepted
  obtain ⟨stripped, stripping, rest⟩ := accepted
  split at rest
  · cases rest
  · next filled =>
    cases rest
    exact ⟨stripped, stripping, fun empty => filled (String.isEmpty_iff.mpr empty), rfl⟩

/-- What is sent to follow somebody else. -/
theorem Follows.edgeStatement_ok {followerId followedId : Value}
    (accepted : edgeStatement followerId followedId = .ok s) :
    followerId.same followedId = false ∧ s = followStatement followerId followedId := by
  rw [edgeStatement] at accepted
  cases same : followerId.same followedId with
  | true => rw [same] at accepted; cases accepted
  | false => rw [same] at accepted; cases accepted; exact ⟨rfl, rfl⟩

end Statements

section Columns

open Projection

variable {s : Statement}

theorem Profiles.returns_of_accepted {userId : Value} {changes : Record}
    (accepted : updateStatement userId changes = .ok s) : s.Returns userColumns := by
  obtain ⟨props, location, -, -, rfl⟩ := updateStatement_ok accepted
  have returning : "WITH u RETURN" = "WITH u " ++ "RETURN" := by decide +kernel
  cases location with
  | none =>
    exact Statement.returns_of_clauses 3 rfl (List.cons_ne_nil _ _) returning userFields_eq
  | some params =>
    exact Statement.returns_of_clauses 5 rfl (List.cons_ne_nil _ _) returning userFields_eq

theorem Posts.returns_of_accepted {p : NewPost} (accepted : createStatement p = .ok s) :
    s.Returns postColumns := by
  obtain ⟨_, _, _, -, -, -, rfl⟩ := createStatement_ok accepted
  have returning : "WITH u, p RETURN" = "WITH u, p " ++ "RETURN" := by decide +kernel
  exact Statement.returns_of_clauses 7 rfl (List.cons_ne_nil _ _) returning postFields_eq

theorem Events.returns_of_accepted {e : NewEvent} (accepted : createStatement e = .ok s) :
    s.Returns eventColumns := by
  obtain ⟨_, _, -, -, -, rfl⟩ := createStatement_ok accepted
  have returning : "WITH h, e RETURN" = "WITH h, e " ++ "RETURN" := by decide +kernel
  exact Statement.returns_of_clauses 6 rfl (List.cons_ne_nil _ _) returning eventFields_eq

theorem Messages.returns_of_accepted {senderId receiverId text : Value}
    (accepted : sendStatement senderId receiverId text = .ok s) : s.Returns messageColumns := by
  obtain ⟨_, -, -, rfl⟩ := sendStatement_ok accepted
  have returning : "RETURN" = "" ++ "RETURN" := rfl
  exact Statement.returns_of_clauses 4 rfl (List.cons_ne_nil _ _) returning messageFields_eq

end Columns

section Properties

namespace Profiles

variable {changes props : Record}

theorem property_keeps_name {name : String} {v : Value} {field : String × Value}
    (success : property name v = .ok field) : field.1 = name := by
  rw [property] at success
  split at success
  · cases cleaned : Tag.cleanValue v with
    | error f => rw [cleaned] at success; cases success
    | ok tags => rw [cleaned] at success; cases success; rfl
  · cases success
    rfl

/-- What is sent for a property is what its change gives. -/
theorem get?_writtenProperties (success : writtenProperties changes = .ok props) {name : String}
    (listed : name ∈ properties) :
    (changes.get? name = none ∧ props.get? name = none) ∨
      ∃ v w, changes.get? name = some v ∧ property name v = .ok (name, w) ∧
        props.get? name = some w := by
  have restricted := Record.get?_restricted changes properties name
  rw [if_pos listed] at restricted
  rw [← restricted]
  exact Record.get?_mapM property property_keeps_name success name

/-- Properties that hold no tags are sent as they are given. -/
theorem get?_plain (success : writtenProperties changes = .ok props) {name : String}
    (listed : name ∈ properties) (plain : tagProperties.contains name = false) :
    props.get? name = changes.get? name := by
  rcases get?_writtenProperties success listed with ⟨kept, unsent⟩ | ⟨v, w, given, made, sent⟩
  · rw [kept, unsent]
  · rw [property, plain] at made
    cases made
    rw [given, sent]

/-- Nothing else is sent. -/
theorem get?_unlisted (success : writtenProperties changes = .ok props) {name : String}
    (unlisted : name ∉ properties) : props.get? name = none := by
  have restricted := Record.get?_restricted changes properties name
  rw [if_neg unlisted] at restricted
  rcases Record.get?_mapM property property_keeps_name success name with
    ⟨-, unsent⟩ | ⟨v, w, given, -⟩
  · exact unsent
  · rw [restricted] at given
    cases given

/-- There are parameters of the location exactly if it is changed. -/
theorem isSome_of_written {location : Option Record}
    (written : writtenLocation changes = .ok location) :
    (changes.get? "location").isSome = location.isSome := by
  rw [writtenLocation] at written
  cases given : changes.get? "location" with
  | none =>
    rw [given] at written
    cases written
    rfl
  | some v =>
    rw [given] at written
    change (locationParams v).map some = .ok location at written
    cases params : locationParams v with
    | error f => rw [params] at written; cases written
    | ok found => rw [params] at written; cases written; rfl

end Profiles

end Properties

end MusicianGraph
