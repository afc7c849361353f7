import MusicianGraph.Graph.Connection
import MusicianGraph.Service.Arguments

/-! # Checking the connection

Connect to the graph, count what is in it and show a few users. Whatever fails is printed, and the
check has failed. -/

namespace MusicianGraph.Check

def counts : List (String × String) := [
  ("Users", "MATCH (u:User) RETURN count(u) AS cnt"),
  ("FOLLOWS relationships", "MATCH ()-[r:FOLLOWS]->() RETURN count(r) AS cnt"),
  ("Users with genres",
    "MATCH (u:User) WHERE size(coalesce(u.genres, [])) > 0 RETURN count(u) AS cnt"),
  ("Users with a location", "MATCH (u:User) WHERE u.location IS NOT NULL RETURN count(u) AS cnt"),
  ("Posts", "MATCH (p:Post) RETURN count(p) AS cnt"),
  ("Events", "MATCH (e:Event) RETURN count(e) AS cnt"),
  ("Messages", "MATCH (m:Message) RETURN count(m) AS cnt")]

/-- A few users. -/
def sampleText : String :=
  "MATCH (u:User) RETURN u.id AS id, u.username AS username, u.genres AS genres LIMIT 5"

open Conversation in
/-- Count something and print the count; without a row it is zero. -/
def count (label text : String) : Conversation Unit := do
  let cnt ←
    match ← queryFirst ⟨text, []⟩ with
    | none | some [] => pure (.int 0)
    | some row => ofExcept (Record.column row "cnt")
  let shown ← ofExcept cnt.shown
  print ("✓ " ++ label ++ ": " ++ shown)

def userLine (row : Record) : Except Failure String := do
  let id ← Record.column row "id"
  let username := (Record.get? row "username").getD (.text "N/A")
  let genres := Record.getOrNull row "genres"
  let genres := if genres.isTruthy then genres else .list []
  .ok ("  - id: " ++ (← id.shown) ++ ", username: " ++ (← username.shown) ++ ", genres: "
    ++ (← genres.shown))

open Conversation in
/-- The work in the session. -/
def inspect : Conversation Unit := do
  let _ ← queryFirst Pool.testStatement
  print "✓ Connection successful!"
  counts.forM fun (label, text) => count label text
  let rows ← query ⟨sampleText, []⟩
  if !rows.isEmpty then
    print "\nSample users:"
    rows.forM fun row => do
      let line ← ofExcept (userLine row)
      print line

open Conversation in
/-- Check the connection and tell whether all went well. -/
def run (settings : Settings) (refusal : Option Failure) : Conversation Bool := do
  print ("Testing connection to: " ++ settings.graphUri)
  print ("User: " ++ settings.graphUser)
  print ("Password: " ++ String.ofList (List.replicate settings.graphPassword.length '*'))
  print ("Candidate fetch limit: " ++ toString settings.candidateLimit)
  print ""
  let result ← attempt do
    let driver ← (← Pool.connect settings refusal 0) |> ofExcept
    let done ← Pool.inSession driver inspect
    ofExcept done
    note (.disconnected driver) (pure ())
    print "\n✓ All checks passed!"
  match result with
  | .ok _ => pure true
  | .error f => do
      print ("\n✗ Error: " ++ f.message)
      pure false

end MusicianGraph.Check
