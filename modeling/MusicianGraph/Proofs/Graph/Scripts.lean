import MusicianGraph.Proofs.Graph.Runs

/-! # What a conversation says, whatever it is told

A script is a list of statement texts. A conversation recites it if it sends statements with these
texts in this order, whatever the replies are; only a failure ends it early. So the replies decide
how far a conversation gets, and nothing else about its texts. -/

namespace MusicianGraph

namespace Conversation

variable {α β : Type} {script : List String}

/-- The conversation sends statements with the texts of the script, all of them unless it fails. -/
def Recites : List String → Conversation α → Prop
  | script, done _ => script = []
  | _, failed _ => True
  | script, note _ next => Recites script next
  | [], send _ _ => False
  | text :: rest, send s next => s.text = text ∧ ∀ reply, Recites rest (next reply)

/-- Every run gets through some part of the script from its beginning on. -/
theorem Recites.texts_isPrefix {c : Conversation α} (recites : Recites script c) (graph : Graph)
    (threshold : LogLevel) (count : Nat) :
    (c.run graph threshold count).statements.map Statement.text <+: script := by
  induction c generalizing script count with
  | done a => exact List.nil_prefix
  | failed f => exact List.nil_prefix
  | note n next ih =>
    rw [(outcome_note graph threshold n next count).2]
    exact ih recites count
  | send s next ih =>
    cases script with
    | nil => exact recites.elim
    | cons text rest =>
      obtain ⟨rfl, later⟩ := recites
      rw [run, statements_after_sent, List.map_cons, List.cons_prefix_cons]
      exact ⟨rfl, ih (graph count s) (later (graph count s)) (count + 1)⟩

namespace Recites

/-- The script of a sequence is that of its first part and then that of its second one. -/
theorem bind {c : Conversation α} {f : α → Conversation β} {second : List String}
    (head : Recites script c) (tail : ∀ a, Recites second (f a)) :
    Recites (script ++ second) (c >>= f) := by
  change Recites (script ++ second) (c.bind f)
  induction c generalizing script with
  | done a =>
    obtain rfl : script = [] := head
    exact tail a
  | failed e => exact trivial
  | note n next ih => exact ih head
  | send s next ih =>
    cases script with
    | nil => exact head.elim
    | cons text rest => exact ⟨head.1, fun reply => ih reply (head.2 reply)⟩

theorem ofExcept (outcome : Except Failure α) : Recites [] (ofExcept outcome) := by
  cases outcome with
  | ok a => rfl
  | error f => exact trivial

theorem ofReadout (r : Readout α) : Recites [] (ofReadout r) := by
  rw [Conversation.ofReadout]
  induction r.warnings with
  | nil => exact ofExcept r.outcome
  | cons warning rest ih => exact ih

theorem map {c : Conversation α} (recites : Recites script c) (f : α → β) :
    Recites script (f <$> c) := by
  rw [map_eq_pure_bind, ← List.append_nil script]
  exact recites.bind fun _ => rfl

theorem readRows (read : Record → Readout α) (rows : List Record) :
    Recites [] (readRows read rows) := by
  induction rows with
  | nil => rfl
  | cons row rest ih => exact (ofReadout (read row)).bind fun _ => ih.bind fun _ => rfl

theorem query (s : Statement) : Recites [s.text] (query s) := ⟨rfl, fun _ => ofExcept _⟩

/-- A statement whose first row is read, if there is one. -/
theorem queryFirst (s : Statement) {missing : Conversation β} {next : Record → Conversation β}
    (absent : Recites [] missing) (present : ∀ row, Recites [] (next row)) :
    Recites [s.text] (do
      match ← Conversation.queryFirst s with
      | none => missing
      | some row => next row) := by
  rw [Conversation.queryFirst, bind_assoc]
  refine (query s).bind fun rows => ?_
  change Recites [] (match rows.head? with | none => missing | some row => next row)
  cases rows.head? with
  | none => exact absent
  | some row => exact present row

/-- A statement all of whose rows are read. -/
theorem queryRows (s : Statement) (read : Record → Readout α) :
    Recites [s.text] (Conversation.query s >>= Conversation.readRows read) :=
  (query s).bind fun rows => readRows read rows

/-- A statement that may be refused, but has a known text otherwise. -/
theorem ofStatement {statement : Except Failure Statement} {text : String}
    (known : ∀ {s}, statement = .ok s → s.text = text) {next : Statement → Conversation β}
    (recites : ∀ s, Recites [s.text] (next s)) :
    Recites [text] (Conversation.ofExcept statement >>= next) := by
  cases statement with
  | error f => exact trivial
  | ok s => exact known rfl ▸ recites s

end Recites

end Conversation

end MusicianGraph
