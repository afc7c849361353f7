import MusicianGraph.Graph.Check
import MusicianGraph.Json.Reader
import MusicianGraph.Json.Writer
import MusicianGraph.Seed.Run

/-! # The command line

Two commands: `seed` writes the seed files into the graph, and `check` tests the connection. What a
command prints goes to standard output. The graph stands at the other end of the other two streams:
every statement is written to standard error as one line of JSON, and its reply is read from
standard input as one line of JSON. The command `seed` first reads a line with an object that holds
the texts of the files by their names. -/

namespace MusicianGraph.CommandLine

def settingNames : List String :=
  ["NEO4J_URI", "NEO4J_USER", "NEO4J_PASSWORD", "CANDIDATE_FETCH_LIMIT", "ONBOARDING_FETCH_LIMIT",
    "SUGGESTION_COUNT", "LOG_LEVEL"]

def replyOfLine (line : String) : Reply :=
  match Json.read line with
  | .ok v => .ofValue v
  | .error _ => .fault .serviceUnavailable "The reply is not readable"

def filesOfLine (line : String) : Seed.Files := fun name =>
  match Json.read line with
  | .ok v => (Record.get? (rowOf v) name).map Value.shownText
  | .error _ => none

/-- Send a statement and wait for its reply. -/
def ask (s : Statement) : IO Reply := do
  IO.eprintln (Json.write s.dump)
  let line ← (← IO.getStdin).getLine
  pure (replyOfLine line)

/-- Hold a conversation. Of its notes only printed texts are shown. -/
def hold {α : Type} : Conversation α → IO (Except Failure α)
  | .done a => pure (.ok a)
  | .failed f => pure (.error f)
  | .note (.printed text) next => do
      IO.println text
      hold next
  | .note _ next => hold next
  | .send s next => do
      let reply ← ask s
      hold (next reply)

/-- Hold a conversation that tells whether all went well, and make an exit status of that. -/
def finish (work : Except Failure (Conversation Bool)) : IO UInt32 := do
  let result ←
    match work with
    | .ok conversation => hold conversation
    | .error f => pure (.error f)
  match result with
  | .ok success => pure (if success then 0 else 1)
  | .error f => do
      IO.eprintln f.message
      pure 1

def readSettings : IO (Except Failure Settings) := do
  let found ← settingNames.mapM fun name => do
    let value ← IO.getEnv name
    pure (name, value)
  pure (Settings.ofEnvironment fun name => (found.lookup name).join)

def seed : IO UInt32 := do
  let line ← (← IO.getStdin).getLine
  let settings ← readSettings
  finish (settings.map fun s => do
    Seed.run s (filesOfLine line)
    pure true)

/-- Test the connection. -/
def check : IO UInt32 := do
  let settings ← readSettings
  finish (settings.map fun s => Check.run s none)

end MusicianGraph.CommandLine

open MusicianGraph.CommandLine in
/-- Run the command that the arguments name. -/
def main (args : List String) : IO UInt32 :=
  match args with
  | ["seed"] => seed
  | ["check"] => check
  | _ => do
      IO.eprintln "usage: (seed | check)"
      pure 2
