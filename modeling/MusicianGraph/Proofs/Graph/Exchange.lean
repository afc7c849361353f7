import MusicianGraph.Proofs.Graph.Runs

/-! # Operations that are one exchange

Every write is of one kind: its arguments give a statement or are refused, the statement is sent,
and what is answered is read off the first row of the reply. Whatever holds of such an operation
holds of its statement and its reading alone. -/

namespace MusicianGraph

variable {α : Type}

/-- What a reply tells: nothing if it has no row, and otherwise what is read off the first one. -/
def Reply.told (reply : Reply) (read : Record → Except Failure α) : Except Failure (Option α) := do
  let rows ← reply.result
  match rows.head? with
  | none => .ok none
  | some row => (read row).map some

namespace Conversation

/-- The conversation sends the statement and nothing else, unless there is none, and ends with what
the reply tells. -/
structure IsExchange (c : Conversation (Option α)) (statement : Except Failure Statement)
    (read : Record → Except Failure α) : Prop where
  refused : ∀ {f}, statement = .error f → Settles c (.error f)
  sent : ∀ {s}, statement = .ok s → ∀ graph threshold count,
    (c.run graph threshold count).statements = [s] ∧
      (c.run graph threshold count).outcome = (graph count s).told read

/-- What an exchange sends is its statement. -/
theorem IsExchange.statement_of_sent {c : Conversation (Option α)}
    {statement : Except Failure Statement} {read : Record → Except Failure α}
    (exchange : IsExchange c statement read) {graph : Graph} {threshold : LogLevel} {count : Nat}
    {s : Statement} (sent : s ∈ (c.run graph threshold count).statements) : statement = .ok s := by
  cases asked : statement with
  | error f =>
    rw [(exchange.refused asked graph threshold count).2] at sent
    cases sent
  | ok t =>
    rw [(exchange.sent asked graph threshold count).1, List.mem_singleton] at sent
    rw [sent]

/-- The conversation sends this statement alone, and where the reply begins with the row, it ends
with this result. -/
structure ReadsBack (c : Conversation (Option α)) (s : Statement) (row : Record) (a : α) : Prop where
  sent : ∀ graph threshold count, (c.run graph threshold count).statements = [s]
  answered : ∀ graph threshold count others, graph count s = .rows (row :: others) →
    (c.run graph threshold count).outcome = .ok (some a)

theorem IsExchange.readsBack {c : Conversation (Option α)} {s : Statement}
    {read : Record → Except Failure α} {statement : Except Failure Statement}
    (exchange : IsExchange c statement read) (accepted : statement = .ok s) {row : Record} {a : α}
    (found : read row = .ok a) : ReadsBack c s row a where
  sent graph threshold count := (exchange.sent accepted graph threshold count).1
  answered graph threshold count others reply := by
    rw [(exchange.sent accepted graph threshold count).2, reply, Reply.told]
    change (read row).map some = _
    rw [found]
    rfl

/-- Asking for the first row sends one statement. -/
theorem run_queryFirst (s : Statement) (graph : Graph) (threshold : LogLevel) (count : Nat) :
    ((queryFirst s).run graph threshold count).statements = [s] ∧
      ((queryFirst s).run graph threshold count).outcome =
        (graph count s).result.map List.head? := by
  change ((send s fun reply => (ofExcept reply.result).bind fun rows => pure rows.head?).run graph
    threshold count).statements = [s] ∧ _
  have settled := (Settles.ofExcept (graph count s).result).bind
    (fun rows => Settles.pure rows.head?) graph threshold (count + 1)
  refine ⟨congrArg (s :: ·) settled.2, settled.1.trans ?_⟩
  cases (graph count s).result <;> rfl

/-- A conversation is an exchange if nothing is sent before its statement is there, and nothing
after the reply. -/
theorem isExchange_of_settles {statement : Except Failure Statement}
    {answer : Record → Conversation (Option α)} {read : Record → Except Failure α}
    (settled : ∀ row, Settles (answer row) ((read row).map some)) :
    IsExchange (do
      let s ← ofExcept statement
      match ← queryFirst s with
      | none => pure none
      | some row => answer row) statement read where
  refused := by
    rintro f rfl
    exact Settles.failed f
  sent := by
    rintro s rfl graph threshold count
    obtain ⟨statements, outcome⟩ := run_queryFirst s graph threshold count
    have tail : ∀ row? : Option Record, Settles
        (match row? with
          | none => (pure none : Conversation (Option α))
          | some row => answer row)
        (match row? with
          | none => .ok none
          | some row => (read row).map some) := by
      intro row?
      cases row? with
      | none => exact Settles.pure none
      | some row => exact settled row
    change ((queryFirst s >>= _).run graph threshold count).statements = _ ∧
      ((queryFirst s >>= _).run graph threshold count).outcome = _
    cases result : (graph count s).result with
    | error f =>
      rw [result] at outcome
      obtain ⟨last, sent⟩ := run_bind_error graph threshold outcome _
      rw [sent, statements, last, Reply.told, result]
      exact ⟨rfl, rfl⟩
    | ok rows =>
      rw [result] at outcome
      obtain ⟨last, sent⟩ := run_bind_ok graph threshold outcome _
      obtain ⟨told, silent⟩ := tail rows.head? graph threshold
        (count + ((queryFirst s).run graph threshold count).statements.length)
      rw [sent, silent, statements, last, told, Reply.told, result]
      exact ⟨rfl, rfl⟩

end Conversation

end MusicianGraph
