import MusicianGraph.Service.Arguments
import MusicianGraph.Tag

/-! # Looking up and editing profiles -/

namespace MusicianGraph.Profiles

open Projection

/-- Ask for the profile of a user. -/
def lookupStatement (userId : Value) : Statement where
  text := clauses ["MATCH", nodeWithId "u" "User" "user_id", "RETURN", userFields "u"]
  params := [("user_id", userId)]

/-- The profile of a user, if there is such a user. -/
def get (userId : Value) : Conversation (Option UserProfile) := do
  match ← Conversation.queryFirst (lookupStatement userId) with
  | none => pure none
  | some row => some <$> Conversation.ofReadout (Stored.profile row)

/-- The properties of a user that an update may write, in the order in which they are sent. -/
def properties : List String :=
  ["name", "bio", "avatar_url", "genres", "instruments", "hour_rate", "solo_artist"]

def tagProperties : List String := ["genres", "instruments"]

/-- The names of changes that are no fields of a profile, each once and in order. -/
def unknownFields (changes : Record) : List String :=
  ((Record.names changes).eraseDups.filter fun name =>
    !(properties.contains name || name == "location")).mergeSort (· ≤ ·)

/-- What is written for a change: tags are cleaned, other values stay. -/
def property (name : String) (v : Value) : Except Failure (String × Value) :=
  if tagProperties.contains name then (Tag.cleanValue v).map fun tags => (name, .ofTexts tags)
  else .ok (name, v)

def writtenProperties (changes : Record) : Except Failure Record :=
  (properties.filterMap fun name => (Record.get? changes name).map fun v => (name, v)).mapM
    fun (name, v) => property name v

/-- The parameters of the location, if it is changed. -/
def writtenLocation (changes : Record) : Except Failure (Option Record) :=
  match Record.get? changes "location" with
  | none => .ok none
  | some v => (locationParams v).map some

/-- The text that writes properties and, where asked, the location. -/
def updateText (hasLocation : Bool) : String :=
  clauses (["MATCH", nodeWithId "u" "User" "user_id", "SET u += $props"] ++
    (if hasLocation then ["SET u.location =", locationValue] else []) ++
    ["WITH u RETURN", userFields "u"])

/-- The statement that writes changes, unless they are refused. -/
def updateStatement (userId : Value) (changes : Record) : Except Failure Statement := do
  let unknown := unknownFields changes
  if !unknown.isEmpty then .error (.unknownFields unknown)
  else if changes.isEmpty then .error .nothingToUpdate
  else
    let props ← writtenProperties changes
    let location ← writtenLocation changes
    .ok {
      text := updateText location.isSome
      params := [("user_id", userId), ("props", .object props)] ++ location.getD [] }

/-- Write changes into a profile and give back the profile, if there is such a user. A change to
null removes the property. -/
def update (userId : Value) (changes : Record) : Conversation (Option UserProfile) := do
  let statement ← Conversation.ofExcept (updateStatement userId changes)
  match ← Conversation.queryFirst statement with
  | none => pure none
  | some row => do
      let names := (Record.names changes).eraseDups.mergeSort (· ≤ ·)
      Conversation.log .info
        ("Updated profile " ++ userId.shownText ++ ": " ++ ", ".intercalate names)
      some <$> Conversation.ofReadout (Stored.profile row)

end MusicianGraph.Profiles
