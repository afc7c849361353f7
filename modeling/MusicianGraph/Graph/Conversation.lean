import MusicianGraph.Graph.Statement
import MusicianGraph.Log

/-! # Conversations with the graph

An operation of the service is a conversation: it sends statements, goes on according to the
replies, makes notes on the way, and ends with a result or a failure. `Conversation.run` holds it
with a graph and records what was said; the log lines below the threshold are left out of the
record. -/

namespace MusicianGraph

/-- What a conversation notes besides the statements it sends. -/
inductive Note where
  | logged (level : LogLevel) (message : String)
  | printed (text : String)
  /-- A driver for the graph is asked for. -/
  | connecting (uri user password : String)
  /-- A driver was made; drivers are numbered from 0. -/
  | connected (driver : Nat)
  | sessionOpened (driver : Nat)
  | sessionClosed (driver : Nat)
  /-- A driver was closed. -/
  | disconnected (driver : Nat)
deriving DecidableEq, Repr

/-- Does the note appear in a record with the given threshold for log lines? -/
def Note.isKept (threshold : LogLevel) : Note → Bool
  | logged level _ => threshold.passes level
  | _ => true

/-- A conversation that ends with a value of type `α` or a failure. -/
inductive Conversation (α : Type) where
  | done (a : α)
  | failed (f : Failure)
  | note (n : Note) (next : Conversation α)
  | send (s : Statement) (next : Reply → Conversation α)

namespace Conversation

variable {α β : Type}

/-- Go on with the result of a conversation. -/
def bind : Conversation α → (α → Conversation β) → Conversation β
  | done a, f => f a
  | failed e, _ => failed e
  | note n next, f => note n (next.bind f)
  | send s next, f => send s fun reply => (next reply).bind f

instance : Monad Conversation where
  pure := done
  bind := bind

/-- Go on after certain failures of a conversation. -/
def recover (handle : Failure → Option (Conversation α)) : Conversation α → Conversation α
  | done a => done a
  | failed e => (handle e).getD (failed e)
  | note n next => note n (next.recover handle)
  | send s next => send s fun reply => (next reply).recover handle

/-- A result that is known without a conversation. -/
def ofExcept : Except Failure α → Conversation α
  | .ok a => done a
  | .error e => failed e

def log (level : LogLevel) (message : String) : Conversation Unit :=
  note (.logged level message) (done ())

def print (text : String) : Conversation Unit := note (.printed text) (done ())

/-- The end of a conversation as a result, so that a failure does not end what comes after. -/
def attempt : Conversation α → Conversation (Except Failure α)
  | done a => done (.ok a)
  | failed e => done (.error e)
  | note n next => note n next.attempt
  | send s next => send s fun reply => (next reply).attempt

/-- Send a statement and take its rows. -/
def query (s : Statement) : Conversation (List Record) :=
  send s fun reply => ofExcept reply.result

/-- Send a statement and take its first row, if there is one. -/
def queryFirst (s : Statement) : Conversation (Option Record) := do
  let rows ← query s
  pure rows.head?

end Conversation

inductive Entry where
  | noted (n : Note)
  | sent (s : Statement)

/-- The record of a conversation that was held. -/
structure Run (α : Type) where
  outcome : Except Failure α
  entries : List Entry

namespace Run

variable {α : Type}

/-- Put an entry in front. -/
def after (e : Entry) (r : Run α) : Run α := { r with entries := e :: r.entries }

def statements (r : Run α) : List Statement :=
  r.entries.filterMap fun
    | .sent s => some s
    | .noted _ => none

def notes (r : Run α) : List Note :=
  r.entries.filterMap fun
    | .sent _ => none
    | .noted n => some n

/-- The log lines, each with its level in front. -/
def logLines (r : Run α) : List String :=
  r.notes.filterMap fun
    | .logged level message => some (level.name ++ " " ++ message)
    | _ => none

def printedLines (r : Run α) : List String :=
  r.notes.flatMap fun
    | .printed text => (text.toList.splitOn '\n').map String.ofList
    | _ => []

end Run

/-- Hold a conversation with a graph that has already answered `count` statements. -/
def Conversation.run {α : Type} (graph : Graph) (threshold : LogLevel) (count : Nat) :
    Conversation α → Run α
  | done a => ⟨.ok a, []⟩
  | failed e => ⟨.error e, []⟩
  | note n next =>
      let rest := next.run graph threshold count
      if n.isKept threshold then rest.after (.noted n) else rest
  | send s next => ((next (graph count s)).run graph threshold (count + 1)).after (.sent s)

end MusicianGraph
