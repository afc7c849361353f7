import MusicianGraph.Service.Arguments

/-! # Runs of composed conversations

The run of a sequence is put together from the runs of its parts: the second part starts where the
graph was left by the first one, and a failure of the first part ends the whole. A part that sends
nothing ends in the same way whatever the graph is; most of what an operation does is of that
kind. -/

namespace MusicianGraph

/-- A run followed by what its result leads to. -/
def Run.andThen {α β : Type} (r : Run α) (next : α → Run β) : Run β :=
  match r.outcome with
  | .ok a => ⟨(next a).outcome, r.entries ++ (next a).entries⟩
  | .error f => ⟨.error f, r.entries⟩

/-- A run followed by what its failure leads to, if it leads to anything. -/
def Run.orElse {α : Type} (r : Run α) (next : Failure → Option (Run α)) : Run α :=
  match r.outcome with
  | .ok _ => r
  | .error f => (next f).elim r fun rest => ⟨rest.outcome, r.entries ++ rest.entries⟩

namespace Run

variable {α : Type} (outcome : Except Failure α)

theorem statements_append (first second : List Entry) :
    (Run.mk outcome (first ++ second)).statements =
      (Run.mk outcome first).statements ++ (Run.mk outcome second).statements :=
  List.filterMap_append

theorem notes_append (first second : List Entry) :
    (Run.mk outcome (first ++ second)).notes =
      (Run.mk outcome first).notes ++ (Run.mk outcome second).notes :=
  List.filterMap_append

/-- Among notes there is no statement. -/
theorem statements_noted (notes : List Note) :
    (Run.mk outcome (notes.map .noted)).statements = [] := by
  induction notes with
  | nil => rfl
  | cons n rest ih => exact ih

/-- The notes among entries that are all notes. -/
theorem notes_noted (notes : List Note) : (Run.mk outcome (notes.map .noted)).notes = notes := by
  induction notes with
  | nil => rfl
  | cons n rest ih => exact congrArg (n :: ·) ih

end Run

namespace Conversation

variable {α β γ : Type}

private theorem bind_done (c : Conversation α) : c.bind done = c := by
  induction c with
  | done a => rfl
  | failed f => rfl
  | note n next ih => rw [bind, ih]
  | send s next ih =>
    rw [bind]
    congr 1
    funext reply
    exact ih reply

private theorem bind_bind (c : Conversation α) (f : α → Conversation β) (g : β → Conversation γ) :
    (c.bind f).bind g = c.bind fun a => (f a).bind g := by
  induction c with
  | done a => rfl
  | failed e => rfl
  | note n next ih => rw [bind, bind, bind, ih]
  | send s next ih =>
    rw [bind, bind, bind]
    congr 1
    funext reply
    exact ih reply

instance : LawfulMonad Conversation := LawfulMonad.mk' Conversation
  bind_done (fun _ _ => rfl) bind_bind

section Run

variable (graph : Graph) (threshold : LogLevel)

@[simp] theorem statements_after_sent (s : Statement) (r : Run α) :
    (r.after (.sent s)).statements = s :: r.statements := rfl

@[simp] theorem statements_after_noted (n : Note) (r : Run α) :
    (r.after (.noted n)).statements = r.statements := rfl

private theorem after_andThen (e : Entry) (r : Run α) (next : α → Run β) :
    (r.after e).andThen next = (r.andThen next).after e := by
  obtain ⟨outcome, entries⟩ := r
  cases outcome <;> rfl

private theorem after_orElse (e : Entry) (r : Run α) (next : Failure → Option (Run α)) :
    (r.after e).orElse next = (r.orElse next).after e := by
  obtain ⟨outcome, entries⟩ := r
  cases outcome with
  | ok a => rfl
  | error f =>
    change (next f).elim _ _ = Run.after e ((next f).elim _ _)
    cases next f <;> rfl

/-- Notes are kept or left out, but they end nothing. -/
theorem outcome_note (n : Note) (next : Conversation α) (count : Nat) :
    ((note n next).run graph threshold count).outcome = (next.run graph threshold count).outcome ∧
      ((note n next).run graph threshold count).statements =
        (next.run graph threshold count).statements := by
  rw [run]
  split <;> exact ⟨rfl, rfl⟩

/-- A sequence runs part by part; the graph counts the statements of both. -/
theorem run_bind (c : Conversation α) (f : α → Conversation β) (count : Nat) :
    (c >>= f).run graph threshold count = (c.run graph threshold count).andThen fun a =>
      (f a).run graph threshold (count + (c.run graph threshold count).statements.length) := by
  change (c.bind f).run graph threshold count = _
  induction c generalizing count with
  | done a => rfl
  | failed e => rfl
  | note n next ih =>
    rw [bind, run, run, ih]
    split
    · rw [statements_after_noted, after_andThen]
    · rfl
  | send s next ih =>
    rw [bind, run, run, ih, after_andThen, statements_after_sent, List.length_cons,
      Nat.add_right_comm, Nat.add_assoc]

/-- After a result the statements of the second part follow, and its end is the end. -/
theorem run_bind_ok {c : Conversation α} {count : Nat} {a : α}
    (result : (c.run graph threshold count).outcome = .ok a) (f : α → Conversation β) :
    ((c >>= f).run graph threshold count).outcome =
        ((f a).run graph threshold
          (count + (c.run graph threshold count).statements.length)).outcome ∧
      ((c >>= f).run graph threshold count).statements =
        (c.run graph threshold count).statements ++ ((f a).run graph threshold
          (count + (c.run graph threshold count).statements.length)).statements := by
  rw [run_bind, Run.andThen, result]
  exact ⟨rfl, Run.statements_append ..⟩

/-- After a failure nothing follows. -/
theorem run_bind_error {c : Conversation α} {count : Nat} {e : Failure}
    (result : (c.run graph threshold count).outcome = .error e) (f : α → Conversation β) :
    ((c >>= f).run graph threshold count).outcome = .error e ∧
      ((c >>= f).run graph threshold count).statements =
        (c.run graph threshold count).statements := by
  rw [run_bind, Run.andThen, result]
  exact ⟨rfl, rfl⟩

/-- What is made of a result sends nothing. -/
theorem run_bind_pure (count : Nat) (c : Conversation α) (f : α → β) :
    ((c >>= fun a => pure (f a)).run graph threshold count).outcome =
        (c.run graph threshold count).outcome.map f ∧
      ((c >>= fun a => pure (f a)).run graph threshold count).statements =
        (c.run graph threshold count).statements := by
  cases result : (c.run graph threshold count).outcome with
  | ok a =>
    obtain ⟨last, sent⟩ := run_bind_ok graph threshold result fun a => pure (f a)
    exact ⟨last, sent.trans (List.append_nil _)⟩
  | error e => exact run_bind_error graph threshold result fun a => pure (f a)

/-- Two runs that are known whole, one after the other. -/
theorem run_bind_eq {count : Nat} {c : Conversation α} {f : α → Conversation β} {a : α}
    {outcome : Except Failure β} {first second : List Entry} {sent : List Statement}
    (head : c.run graph threshold count = ⟨.ok a, first⟩)
    (asked : (Run.mk (.ok a) first).statements = sent)
    (tail : (f a).run graph threshold (count + sent.length) = ⟨outcome, second⟩) :
    (c >>= f).run graph threshold count = ⟨outcome, first ++ second⟩ := by
  rw [run_bind, head, asked, Run.andThen]
  dsimp only
  rw [tail]

/-- To attempt a conversation is to hold it; its end is the result. -/
theorem run_attempt_eq (c : Conversation α) (count : Nat) :
    c.attempt.run graph threshold count =
      ⟨.ok (c.run graph threshold count).outcome, (c.run graph threshold count).entries⟩ := by
  induction c generalizing count with
  | done a => rfl
  | failed e => rfl
  | note n next ih =>
    rw [attempt, run, run, ih]
    split <;> rfl
  | send s next ih =>
    rw [attempt, run, run, ih]
    rfl

theorem run_attempt (c : Conversation α) (count : Nat) :
    (c.attempt.run graph threshold count).outcome = .ok (c.run graph threshold count).outcome ∧
      (c.attempt.run graph threshold count).statements =
        (c.run graph threshold count).statements := by
  rw [run_attempt_eq]
  exact ⟨rfl, rfl⟩

/-- What follows a failure starts where the graph was left. -/
theorem run_recover (handle : Failure → Option (Conversation α)) (c : Conversation α)
    (count : Nat) :
    (c.recover handle).run graph threshold count = (c.run graph threshold count).orElse fun f =>
      (handle f).map fun next => next.run graph threshold
        (count + (c.run graph threshold count).statements.length) := by
  induction c generalizing count with
  | done a => rfl
  | failed e =>
    change ((handle e).getD (failed e)).run graph threshold count =
      ((handle e).map fun next => next.run graph threshold count).elim ⟨.error e, []⟩
        fun rest => ⟨rest.outcome, [] ++ rest.entries⟩
    cases handle e <;> rfl
  | note n next ih =>
    rw [recover, run, run, ih]
    split
    · rw [statements_after_noted, after_orElse]
    · rfl
  | send s next ih =>
    rw [recover, run, run, ih, after_orElse, statements_after_sent, List.length_cons,
      Nat.add_right_comm, Nat.add_assoc]

end Run

/-- The conversation sends nothing and ends with the given outcome, whatever the graph is. -/
def Settles (c : Conversation α) (outcome : Except Failure α) : Prop :=
  ∀ graph threshold count, (c.run graph threshold count).outcome = outcome ∧
    (c.run graph threshold count).statements = []

namespace Settles

theorem pure (a : α) : Settles (Pure.pure a : Conversation α) (.ok a) := fun _ _ _ => ⟨rfl, rfl⟩

theorem failed (e : Failure) : Settles (failed e : Conversation α) (.error e) :=
  fun _ _ _ => ⟨rfl, rfl⟩

theorem ofExcept (outcome : Except Failure α) : Settles (ofExcept outcome) outcome := by
  cases outcome with
  | ok a => exact pure a
  | error e => exact failed e

theorem note {next : Conversation α} {outcome : Except Failure α} (rest : Settles next outcome)
    (n : Note) : Settles (note n next) outcome := by
  intro graph threshold count
  have same := outcome_note graph threshold n next count
  have settled := rest graph threshold count
  exact ⟨same.1.trans settled.1, same.2.trans settled.2⟩

theorem log (level : LogLevel) (message : String) : Settles (log level message) (.ok ()) :=
  (pure ()).note _

theorem ofReadout (r : Readout α) : Settles (ofReadout r) r.outcome := by
  rw [Conversation.ofReadout]
  induction r.warnings with
  | nil => exact ofExcept r.outcome
  | cons warning rest ih => exact ih.note _

/-- What settles in two parts settles as a whole. -/
theorem bind {c : Conversation α} {first : Except Failure α} {f : α → Conversation β}
    {second : α → Except Failure β} (head : Settles c first)
    (tail : ∀ a, Settles (f a) (second a)) :
    Settles (c >>= f) (first >>= second) := by
  intro graph threshold count
  obtain ⟨result, silent⟩ := head graph threshold count
  cases first with
  | ok a =>
    obtain ⟨last, sent⟩ := run_bind_ok graph threshold result f
    have settled := tail a graph threshold
      (count + (c.run graph threshold count).statements.length)
    rw [last, sent, settled.1, settled.2, silent]
    exact ⟨rfl, rfl⟩
  | error e =>
    obtain ⟨last, sent⟩ := run_bind_error graph threshold result f
    rw [last, sent, silent]
    exact ⟨rfl, rfl⟩

theorem map {c : Conversation α} {outcome : Except Failure α} (head : Settles c outcome)
    (f : α → β) : Settles (f <$> c) (outcome.map f) := by
  rw [map_eq_pure_bind]
  have whole := head.bind fun a => pure (f a)
  cases outcome <;> exact whole

/-- Rows are read one after the other, and the first one that cannot be read ends it. -/
theorem readRows (read : Record → Readout α) (rows : List Record) :
    Settles (readRows read rows) (rows.mapM fun row => (read row).outcome) := by
  induction rows with
  | nil => exact pure []
  | cons row rest ih =>
    rw [List.mapM_cons]
    exact (ofReadout (read row)).bind fun first => ih.bind fun others => pure (first :: others)

end Settles

section Handled

variable (graph : Graph) (threshold : LogLevel) {count : Nat} {c : Conversation α}
  {handle : Failure → Option (Conversation α)}

/-- There is nothing to recover from after a result. -/
theorem run_recover_of_ok {a : α} (result : (c.run graph threshold count).outcome = .ok a) :
    (c.recover handle).run graph threshold count = c.run graph threshold count := by
  rw [run_recover, Run.orElse, result]

/-- A failure that is not handled stays. -/
theorem run_recover_of_unhandled {e : Failure}
    (result : (c.run graph threshold count).outcome = .error e) (unhandled : handle e = none) :
    (c.recover handle).run graph threshold count = c.run graph threshold count := by
  rw [run_recover, Run.orElse, result]
  dsimp only
  rw [unhandled]
  rfl

/-- A failure that is handled without a statement ends as its handler does. -/
theorem run_recover_of_handled {e : Failure} {next : Conversation α} {outcome : Except Failure α}
    (result : (c.run graph threshold count).outcome = .error e) (handled : handle e = some next)
    (settled : Settles next outcome) :
    ((c.recover handle).run graph threshold count).outcome = outcome ∧
      ((c.recover handle).run graph threshold count).statements =
        (c.run graph threshold count).statements := by
  obtain ⟨last, silent⟩ := settled graph threshold
    (count + (c.run graph threshold count).statements.length)
  rw [run_recover, Run.orElse, result]
  dsimp only
  rw [handled]
  refine ⟨last, ?_⟩
  rw [Option.map_some, Option.elim_some, Run.statements_append]
  exact (congrArg _ silent).trans (List.append_nil _)

end Handled

/-- A statement followed by nothing that sends: its reply decides the end. -/
theorem run_query_settles (s : Statement) {next : List Record → Conversation α}
    {outcome : List Record → Except Failure α} (settled : ∀ rows, Settles (next rows) (outcome rows))
    (graph : Graph) (threshold : LogLevel) (count : Nat) :
    ((query s >>= next).run graph threshold count).statements = [s] ∧
      ((query s >>= next).run graph threshold count).outcome =
        (graph count s).result >>= outcome := by
  have tail := (Settles.ofExcept (graph count s).result).bind settled graph threshold (count + 1)
  exact ⟨congrArg (s :: ·) tail.2, tail.1⟩

end Conversation

end MusicianGraph
