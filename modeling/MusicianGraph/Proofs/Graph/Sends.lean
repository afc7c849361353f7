import MusicianGraph.Proofs.Graph.Runs

/-! # What all statements of a conversation have in common

A property of statements is checked where the conversation sends them, whatever the replies are. It
then holds of every statement of every run. -/

namespace MusicianGraph

namespace Conversation

variable {α β : Type} {p : Statement → Prop}

/-- Every statement that the conversation can send has the property. -/
def Sends (p : Statement → Prop) : Conversation α → Prop
  | done _ => True
  | failed _ => True
  | note _ next => Sends p next
  | send s next => p s ∧ ∀ reply, Sends p (next reply)

/-- What holds of all that can be sent holds of all that is sent. -/
theorem Sends.forall_statements {c : Conversation α} (all : Sends p c) (graph : Graph)
    (threshold : LogLevel) (count : Nat) :
    ∀ s ∈ (c.run graph threshold count).statements, p s := by
  induction c generalizing count with
  | done a => exact fun s sent => absurd sent List.not_mem_nil
  | failed e => exact fun s sent => absurd sent List.not_mem_nil
  | note n next ih =>
    rw [(outcome_note graph threshold n next count).2]
    exact ih all count
  | send first next ih =>
    intro s sent
    rw [run, statements_after_sent] at sent
    rcases List.mem_cons.mp sent with rfl | later
    · exact all.1
    · exact ih (graph count first) (all.2 _) (count + 1) s later

namespace Sends

theorem bind {c : Conversation α} {f : α → Conversation β} (head : Sends p c)
    (tail : ∀ a, Sends p (f a)) : Sends p (c >>= f) := by
  change Sends p (c.bind f)
  induction c with
  | done a => exact tail a
  | failed e => exact trivial
  | note n next ih => exact ih head
  | send s next ih => exact ⟨head.1, fun reply => ih reply (head.2 reply)⟩

theorem ofExcept (outcome : Except Failure α) : Sends p (ofExcept outcome) := by
  cases outcome <;> exact trivial

theorem query {s : Statement} (here : p s) : Sends p (query s) :=
  ⟨here, fun _ => ofExcept _⟩

theorem ofReadout (r : Readout α) : Sends p (ofReadout r) := by
  rw [Conversation.ofReadout]
  induction r.warnings with
  | nil => exact ofExcept r.outcome
  | cons warning rest ih => exact ih

theorem readRows (read : Record → Readout α) (rows : List Record) :
    Sends p (readRows read rows) := by
  induction rows with
  | nil => exact trivial
  | cons row rest ih => exact (ofReadout (read row)).bind fun _ => ih.bind fun _ => trivial

end Sends

end Conversation

end MusicianGraph
