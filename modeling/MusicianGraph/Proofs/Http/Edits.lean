import MusicianGraph.Proofs.Graph.Wording
import MusicianGraph.Proofs.Http.BadRequest
import MusicianGraph.Proofs.Service.ReadBack
import MusicianGraph.Proofs.Service.Refusal

/-! # What an edit touches

The body of an edit may leave a field out, give it as null or give it a value, and the three are
told apart all the way to the statement: a field that is left out is not sent, one that is null is
sent as nothing, and one with a value is sent as what was read off it. The location goes its own
way, by its coordinates. Whatever else is in the body is not sent at all. -/

namespace MusicianGraph

open Schema Conversation

section Fields

variable {α : Type}

/-- What becomes of a field that may be left out: nothing then, what is written for null if it is
null, and otherwise what is written for the value that is read off it. -/
structure SentAs (read : Value → Reading α) (write : Option α → Value) (given sent : Option Value) :
    Prop where
  absent : given = none → sent = none
  null : given = some .null → sent = some (write none)
  value : ∀ v, given = some v → v ≠ .null → ∃ a, read v = .accepted a ∧ sent = some (write (some a))

namespace Edit

/-- What is sent of a field after an edit. -/
def sent? (write : Option α → Value) (e : Edit α) : Option Value :=
  e.over none (some (write none)) fun a => some (write (some a))

theorem written?_eq (f : α → Value) (e : Edit α) : e.written? f = e.sent? (.ofOption f) := by
  cases e <;> rfl

variable {body : Record} {name : String} {read : Value → Reading α} {e : Edit α}

theorem sentAs_of_ofField (accepted : ofField body name read = .accepted e)
    (write : Option α → Value) : SentAs read write (body.get? name) (e.sent? write) := by
  rcases cases_of_ofField accepted with
    ⟨missing, rfl⟩ | ⟨null, rfl⟩ | ⟨v, a, given, value, taken, rfl⟩
  · rw [missing]
    exact ⟨fun _ => rfl, nofun, nofun⟩
  · rw [null]
    exact ⟨nofun, fun _ => rfl, fun w same other => absurd (Option.some.inj same).symm other⟩
  · rw [given]
    refine ⟨nofun, fun same => absurd (Option.some.inj same) value, fun w same _ => ?_⟩
    cases same
    exact ⟨a, taken, rfl⟩

/-- Something is written into a field exactly if it is in the body. -/
theorem isSome_written (accepted : ofField body name read = .accepted e) (f : α → Value) :
    (e.written? f).isSome = (body.get? name).isSome := by
  rcases cases_of_ofField accepted with
    ⟨missing, rfl⟩ | ⟨null, rfl⟩ | ⟨v, a, given, -, -, rfl⟩
  · rw [missing]
    rfl
  · rw [null]
    rfl
  · rw [given]
    rfl

end Edit

end Fields

namespace ProfileUpdate

/-- The fields that an update may name. -/
def declared : List String :=
  ["name", "bio", "avatar_url", "genres", "instruments", "location", "hour_rate", "solo_artist"]

variable {body : Record} {u : ProfileUpdate}

/-- Of the declared fields those are written that are in the body. -/
theorem isSome_changes (accepted : read (.object body) = .accepted u) {name : String}
    (listed : name ∈ declared) : (u.changes.get? name).isSome = (body.get? name).isSome := by
  obtain ⟨name, bio, avatarUrl, genres, instruments, location, hourRate, soloArtist⟩ :=
    (ofRecord_accepted_iff body u).mp accepted
  rw [u.get?_changes]
  simp only [declared, List.mem_cons, List.not_mem_nil, or_false] at listed
  rcases listed with rfl | rfl | rfl | rfl | rfl | rfl | rfl | rfl
  · exact Edit.isSome_written name .text
  · exact Edit.isSome_written bio .text
  · exact Edit.isSome_written avatarUrl .text
  · exact Edit.isSome_written genres .ofTexts
  · exact Edit.isSome_written instruments .ofTexts
  · exact Edit.isSome_written location GeoPoint.dump
  · exact Edit.isSome_written hourRate .float
  · exact Edit.isSome_written soloArtist .bool

/-- Nothing else is written. -/
theorem mem_declared (u : ProfileUpdate) {name : String} (listed : name ∈ u.changes.names) :
    name ∈ declared := by
  obtain ⟨field, member, rfl⟩ := List.mem_map.mp listed
  obtain ⟨edit, edited, made⟩ := List.mem_filterMap.mp member
  obtain ⟨v, -, rfl⟩ := Option.map_eq_some_iff.mp made
  have named : edit.1 ∈ u.edits.map Prod.fst := List.mem_map.mpr ⟨edit, edited, rfl⟩
  exact named

/-- There is nothing to write exactly if no declared field is in the body. -/
theorem changes_eq_nil_iff (accepted : read (.object body) = .accepted u) :
    u.changes = [] ↔ ∀ name ∈ declared, body.get? name = none := by
  constructor
  · intro none name listed
    have written := isSome_changes accepted listed
    rw [none] at written
    exact Option.isNone_iff_eq_none.mp (Option.isSome_eq_false_iff.mp written.symm)
  · intro missing
    refine List.eq_nil_iff_forall_not_mem.mpr fun field member => ?_
    have listed := u.mem_declared (List.mem_map.mpr ⟨field, member, rfl⟩)
    have written := isSome_changes accepted listed
    rw [missing field.1 listed] at written
    exact Bool.false_ne_true
      (written.symm.trans (List.lookup_isSome_iff.mpr ⟨field, member, beq_self_eq_true _⟩))

end ProfileUpdate

namespace Profiles

/-- Tags as they are sent: clean ones, and none of them for null. -/
def sentTags : Option (List String) → Value
  | none => .list []
  | some tags => .ofTexts (Tag.cleanTexts tags)

/-- How a text sets the location: to none unless both coordinates are given. -/
def settingLocation : String :=
  "SET u.location = " ++ "CASE WHEN $latitude IS NULL OR $longitude IS NULL THEN null ELSE " ++
    "point(\x7blatitude: $latitude, longitude: $longitude\x7d) END"

/-- The statement of an edit with a given body, and the properties in it. The fields of the body
that are declared are sent, each as it stands there; of the others there is no trace. -/
structure Touches (userId : String) (body : Record) (s : Statement) (props : Record) : Prop where
  wording : s.text = updateText (body.get? "location").isSome
  finds : s.Mentions "MATCH (u:User \x7bid: $user_id\x7d)"
  setsProps : s.Mentions "SET u += $props"
  setsLocation : s.Mentions "u.location =" ↔ (body.get? "location").isSome
  placed : (body.get? "location").isSome → s.Mentions settingLocation
  params : s.params.names = ["user_id", "props"] ++
    if (body.get? "location").isSome then ["latitude", "longitude"] else []
  user : s.params.get? "user_id" = some (.text userId)
  sent : s.params.get? "props" = some (.object props)
  names : props.names = properties.filter fun name => (body.get? name).isSome
  name : SentAs text (.ofOption .text) (body.get? "name") (props.get? "name")
  bio : SentAs text (.ofOption .text) (body.get? "bio") (props.get? "bio")
  avatarUrl : SentAs text (.ofOption .text) (body.get? "avatar_url") (props.get? "avatar_url")
  genres : SentAs texts sentTags (body.get? "genres") (props.get? "genres")
  instruments : SentAs texts sentTags (body.get? "instruments") (props.get? "instruments")
  hourRate : SentAs (floatBetween (some 0) none) (.ofOption .float)
    (body.get? "hour_rate") (props.get? "hour_rate")
  soloArtist : SentAs bool (.ofOption .bool) (body.get? "solo_artist") (props.get? "solo_artist")
  latitude : SentAs GeoPoint.read (.ofOption fun p => .float p.latitude)
    (body.get? "location") (s.params.get? "latitude")
  longitude : SentAs GeoPoint.read (.ofOption fun p => .float p.longitude)
    (body.get? "location") (s.params.get? "longitude")

section Wording

open Projection

/-- The clauses of the text that writes properties and, where asked, the location. -/
theorem updateText_eq (located : Bool) :
    updateText located = clauses (["MATCH (u:User \x7bid: $user_id\x7d)", "SET u += $props"] ++
      (if located then [settingLocation] else []) ++ ["WITH u RETURN", listed userColumns]) := by
  have finds : "MATCH" ++ " " ++ nodeWithId "u" "User" "user_id" =
      "MATCH (u:User \x7bid: $user_id\x7d)" := by decide +kernel
  have places : "SET u.location =" ++ " " ++ locationValue = settingLocation := by decide +kernel
  rw [updateText, userFields_eq, ← finds, ← places]
  cases located <;>
    simp [clauses, String.intercalate_cons_cons, String.append_assoc]

theorem mentions_settingLocation {s : Statement} (text : s.text = updateText true) :
    s.Mentions settingLocation := by
  refine Statement.mentions_of_mem_clauses (text.trans (updateText_eq true)) ?_
  exact List.mem_append_left _ (List.mem_append_right _ (List.mem_singleton_self _))

/-- A text sets the location by its clause alone. -/
theorem mentions_location_iff {s : Statement} {located : Bool}
    (text : s.text = updateText located) : s.Mentions "u.location =" ↔ located = true := by
  cases located with
  | false =>
    refine iff_of_false ?_ Bool.false_ne_true
    rw [Statement.Mentions, text, updateText_eq]
    simp only [clauses, listed, userColumns, Bool.false_eq_true, if_false, List.append_nil,
      List.cons_append, List.nil_append, String.toList_intercalate, List.map_cons, List.map_nil,
      String.toList_append, String.reduceToList]
    decide +kernel
  | true =>
    have head : "u.location =".toList <:+: "SET u.location = ".toList := by decide +kernel
    have part : "u.location =".toList <:+: settingLocation.toList :=
      isInfix_toList_append (isInfix_toList_append head _) _
    exact iff_of_true ((mentions_settingLocation text).of_isInfix part) rfl

end Wording

variable {body props : Record} {u : ProfileUpdate}

/-- An update that has been read is refused only for being empty. -/
theorem exists_updateStatement (userId : Value) (filled : u.changes ≠ []) :
    ∃ s, updateStatement userId u.changes = .ok s := by
  refine Refused.exists_ok fun refused => ?_
  rcases (refused_updateStatement_iff userId u.changes).mp refused with
    ⟨name, listed, unknown, other⟩ | empty | ⟨name, tagged, v, given, untaggable⟩ |
      ⟨v, given, misplaced⟩
  · have known : ∀ name ∈ ProfileUpdate.declared, name ∈ properties ∨ name = "location" := by
      decide
    exact (known name (u.mem_declared listed)).elim unknown other
  · exact filled empty
  · have taggable : ∀ e : Edit (List String), ∀ v ∈ e.written? .ofTexts, ¬ Untaggable v := by
      rintro (_ | _ | tags) v ⟨⟩
      · rw [← Tag.refused_cleanValue_iff]
        exact Refused.not_ok _
      · rw [← Tag.refused_cleanValue_iff, Tag.cleanValue_ofTexts]
        exact Refused.not_ok _
    rw [u.get?_changes] at given
    simp only [tagProperties, List.mem_cons, List.not_mem_nil, or_false] at tagged
    rcases tagged with rfl | rfl
    · exact taggable u.genres v given untaggable
    · exact taggable u.instruments v given untaggable
  · have placed : ∀ e : Edit GeoPoint, ∀ v ∈ e.written? GeoPoint.dump, ¬ Misplaced v := by
      rintro (_ | _ | p) v ⟨⟩ ⟨filled, unreadable⟩
      · exact filled rfl
      · exact unreadable p p.read_dump
    rw [u.get?_changes] at given
    exact placed u.location v given misplaced

/-- Without changes there is nothing to send. -/
theorem updateStatement_nil (userId : Value) :
    updateStatement userId [] = .error .nothingToUpdate := by
  have known : unknownFields [] = [] := List.mergeSort_nil
  rw [updateStatement, known]
  rfl

/-- Properties that hold no tags are sent as they were read. -/
theorem sentAs_plain {α : Type} (success : writtenProperties u.changes = .ok props) {name : String}
    (listed : name ∈ properties) (plain : tagProperties.contains name = false)
    {read : Value → Reading α} {e : Edit α} {f : α → Value}
    (accepted : Edit.ofField body name read = .accepted e)
    (edited : u.changes.get? name = e.written? f) :
    SentAs read (.ofOption f) (body.get? name) (props.get? name) := by
  rw [get?_plain success listed plain, edited, e.written?_eq]
  exact Edit.sentAs_of_ofField accepted _

/-- Tags are sent clean. -/
theorem sentAs_tags (success : writtenProperties u.changes = .ok props) {name : String}
    (listed : name ∈ tagProperties) {e : Edit (List String)}
    (accepted : Edit.ofField body name texts = .accepted e)
    (edited : u.changes.get? name = e.written? .ofTexts) :
    SentAs texts sentTags (body.get? name) (props.get? name) := by
  rw [get?_tags success listed edited]
  exact Edit.sentAs_of_ofField accepted _

/-- The names that are sent are those of the declared properties in the body. -/
theorem names_writtenProperties (accepted : ProfileUpdate.read (.object body) = .accepted u)
    (success : writtenProperties u.changes = .ok props) :
    props.names = properties.filter fun name => (body.get? name).isSome := by
  have declared : ∀ name ∈ properties, name ∈ ProfileUpdate.declared := by decide
  rw [Record.names_mapM property property_keeps_name success, Record.names_restricted]
  exact List.filter_congr fun name listed =>
    ProfileUpdate.isSome_changes accepted (declared name listed)

/-- The statement of an update touches what was read from its body. -/
theorem touches_of_accepted {userId : String} {s : Statement}
    (accepted : ProfileUpdate.read (.object body) = .accepted u)
    (written : updateStatement (.text userId) u.changes = .ok s) :
    ∃ props, Touches userId body s props := by
  obtain ⟨props, location, success, located, rfl⟩ := updateStatement_ok written
  have there := isSome_of_written located
  rw [ProfileUpdate.isSome_changes accepted (by decide)] at there
  rw [writtenLocation_changes] at located
  cases located
  obtain ⟨name, bio, avatarUrl, genres, instruments, location, hourRate, soloArtist⟩ :=
    (ProfileUpdate.ofRecord_accepted_iff body u).mp accepted
  refine ⟨props, ?_⟩
  constructor
  case wording => exact congrArg updateText there.symm
  case finds => exact Statement.mentions_of_mem_clauses (updateText_eq _) List.mem_cons_self
  case setsProps =>
    refine Statement.mentions_of_mem_clauses (updateText_eq _) ?_
    exact List.mem_cons_of_mem _ List.mem_cons_self
  case setsLocation =>
    rw [there]
    exact mentions_location_iff rfl
  case placed =>
    intro given
    exact mentions_settingLocation (congrArg updateText (there.symm.trans given))
  case params =>
    rw [there]
    cases u.location <;> rfl
  case names => exact names_writtenProperties accepted success
  case name => exact sentAs_plain success (by decide) rfl name (u.get?_changes "name")
  case bio => exact sentAs_plain success (by decide) rfl bio (u.get?_changes "bio")
  case avatarUrl =>
    exact sentAs_plain success (by decide) rfl avatarUrl (u.get?_changes "avatar_url")
  case genres => exact sentAs_tags success (by decide) genres (u.get?_changes "genres")
  case instruments =>
    exact sentAs_tags success (by decide) instruments (u.get?_changes "instruments")
  case hourRate => exact sentAs_plain success (by decide) rfl hourRate (u.get?_changes "hour_rate")
  case soloArtist =>
    exact sentAs_plain success (by decide) rfl soloArtist (u.get?_changes "solo_artist")
  case latitude =>
    have sent := Edit.sentAs_of_ofField location (.ofOption fun p => .float p.latitude)
    revert sent
    cases u.location <;> exact id
  case longitude =>
    have sent := Edit.sentAs_of_ofField location (.ofOption fun p => .float p.longitude)
    revert sent
    cases u.location <;> exact id
  all_goals rfl

end Profiles

namespace Api

/-- The request asks for an edit of a user, and what is in its body is accepted as one. -/
structure AsksForEdit (request : Request) (userId : String) (body : Record) : Prop where
  routed : Route.destination request.method (Percent.decode request.path) =
    .endpoint .editUser [userId]
  sent : request.payload = .ok (.object body)
  accepted : ∃ u, ProfileUpdate.read (.object body) = .accepted u

section Requests

variable {request : Request} {userId : String} {body : Record} {u : ProfileUpdate}

theorem withBody_of_accepted {α : Type} (schema : Schema α) {v : Value} {a : α}
    (sent : request.payload = .ok v) (accepted : schema.read v = .accepted a)
    (next : α → Conversation Response) : withBody schema request next = next a := by
  rw [withBody, Request.readBody?, sent]
  dsimp only
  rw [accepted]
  rfl

/-- An edit that is accepted is made, and a failure of it is an internal error. -/
theorem AsksForEdit.handle_eq (asks : AsksForEdit request userId body)
    (accepted : ProfileUpdate.read (.object body) = .accepted u) (settings : Settings) :
    handle settings request =
      (editUser userId u).recover fun f => some (pure (.failed f)) := by
  rw [handle_of_routed request settings asks.routed]
  exact congrArg (recover _)
    (withBody_of_accepted ProfileUpdate.schema asks.sent accepted (editUser userId))

theorem editUser_eq (userId : String) (u : ProfileUpdate) :
    editUser userId u = refusingBadValues (Profiles.update (.text userId) u.changes >>= fun found =>
      pure (found.elim (noUser userId) fun user => .ok user.dump)) := by
  refine congrArg (fun next => refusingBadValues (Profiles.update _ _ >>= next)) (funext ?_)
  rintro (_ | _) <;> rfl

/-- What is answered after an update sends nothing more. -/
theorem statements_editUser (userId : String) (u : ProfileUpdate) (graph : Graph)
    (threshold : LogLevel) (count : Nat) :
    ((editUser userId u).run graph threshold count).statements =
      ((Profiles.update (.text userId) u.changes).run graph threshold count).statements := by
  rw [editUser_eq, (run_refusingBadValues graph threshold count _).1,
    (run_bind_pure graph threshold count _ _).2]

end Requests

/-- A request that clears the genres and the place of a user, gives instruments and names a field
that is not to be edited. -/
def clearingRequest : Request where
  method := "PATCH"
  path := "/api/users/me"
  body := "\x7b\"instruments\":[\" Bass \",\"bass\"],\"genres\":null," ++
    "\"location\":null,\"user_id\":7\x7d"

def clearingBody : Record :=
  [("instruments", .list [.text " Bass ", .text "bass"]), ("genres", .null), ("location", .null),
    ("user_id", .int 7)]

/-- The texts and the number in a body of this shape. -/
def clearingParts? : Except BodyFault Value → Option (List String × Int)
  | .ok (.object [(first, .list [.text a, .text b]), (second, .null), (third, .null),
      (fourth, .int n)]) => some ([first, a, b, second, third, fourth], n)
  | _ => none

theorem clearingRequest_payload : clearingRequest.payload = .ok (.object clearingBody) := by
  have parts : clearingParts? clearingRequest.payload =
      some (["instruments", " Bass ", "bass", "genres", "location", "user_id"], 7) := by
    decide +kernel
  unfold clearingParts? at parts
  split at parts
  · next same =>
    cases parts
    exact same
  · cases parts

end Api

end MusicianGraph
