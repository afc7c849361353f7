import MusicianGraph.Graph.Conversation
import MusicianGraph.Settings

/-! # The life of the connection

The service keeps at most one driver. It is made when it is first needed and kept until it is
closed; making it and closing it can fail. Every session is opened on the kept driver and closed
again, however the work in it ends. -/

namespace MusicianGraph

/-- The driver that is kept, and how many were made so far. -/
structure Pool where
  cached : Option Nat
  made : Nat
deriving DecidableEq, Repr

/-- Work with the kept driver. A failure leaves a pool behind as well. -/
abbrev Managed (α : Type) := Pool → Conversation (Pool × Except Failure α)

namespace Pool

/-- The pool of a service that has just started. -/
def initial : Pool := ⟨none, 0⟩

variable {α : Type}

/-- Ask for a new driver with a number. If it is refused, there is none. -/
def connect (settings : Settings) (refusal : Option Failure) (driver : Nat) :
    Conversation (Except Failure Nat) := do
  Conversation.note
    (.connecting settings.graphUri settings.graphUser settings.graphPassword) (pure ())
  match refusal with
  | some f => pure (.error f)
  | none => Conversation.note (.connected driver) (pure (.ok driver))

/-- The kept driver. If none is kept, one is made. -/
def driver (settings : Settings) (refusal : Option Failure) : Managed Nat := fun pool =>
  match pool.cached with
  | some d => pure (pool, .ok d)
  | none => do
      match ← connect settings refusal pool.made with
      | .ok d => pure (⟨some d, pool.made + 1⟩, .ok d)
      | .error f => pure (pool, .error f)

/-- Close the kept driver, if there is one. If that fails, it is still kept. -/
def close (refusal : Option Failure) : Managed Unit := fun pool =>
  match pool.cached, refusal with
  | none, _ => pure (pool, .ok ())
  | some _, some f => pure (pool, .error f)
  | some d, none => Conversation.note (.disconnected d) (pure (⟨none, pool.made⟩, .ok ()))

/-- Do some work in a session on a driver. -/
def inSession (driver : Nat) (work : Conversation α) : Conversation (Except Failure α) :=
  Conversation.note (.sessionOpened driver) do
    let result ← work.attempt
    Conversation.note (.sessionClosed driver) (pure result)

def session (settings : Settings) (refusal : Option Failure) (work : Conversation α) :
    Managed α := fun pool => do
  let (pool, driver?) ← driver settings refusal pool
  match driver? with
  | .error f => pure (pool, .error f)
  | .ok d => do
      let result ← inSession d work
      pure (pool, result)

/-- Run the service: do its work, then close the driver. Work that fails leaves it open. -/
def serve (closeRefusal : Option Failure) (work : Managed α) : Managed Unit := fun pool => do
  let (pool, result) ← work pool
  match result with
  | .error f => pure (pool, .error f)
  | .ok _ => close closeRefusal pool

/-- The statement that only tests a session. -/
def testStatement : Statement := ⟨"RETURN 1 AS test", []⟩

end Pool

end MusicianGraph
