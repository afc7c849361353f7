import MusicianGraph.Proofs.Graph.Runs

/-! # What a threshold leaves of a record

The threshold decides which log lines stay in the record of a run, and nothing else: neither what is
sent nor how it ends. So a run is known at every threshold once it is known at the lowest one, where
all lines stay. -/

namespace MusicianGraph

variable {α : Type}

/-- Does the entry stay in a record with the given threshold for log lines? -/
def Entry.isKept (threshold : LogLevel) : Entry → Bool
  | noted n => n.isKept threshold
  | sent _ => true

/-- All lines pass the lowest threshold. -/
theorem Note.isKept_debug (n : Note) : n.isKept .debug = true := by
  cases n with
  | logged level message => cases level <;> rfl
  | _ => rfl

namespace Run

/-- The record with what stays at a threshold. -/
def cut (threshold : LogLevel) (r : Run α) : Run α :=
  { r with entries := r.entries.filter (Entry.isKept threshold) }

theorem statements_cut (threshold : LogLevel) (r : Run α) :
    (r.cut threshold).statements = r.statements := by
  rw [statements, statements, cut, List.filterMap_filter]
  congr 1
  funext e
  cases e with
  | noted n => exact ite_self none
  | sent s => rfl

theorem notes_cut (threshold : LogLevel) (r : Run α) :
    (r.cut threshold).notes = r.notes.filter (Note.isKept threshold) := by
  rw [notes, notes, cut, List.filterMap_filter, List.filter_filterMap]
  congr 1
  funext e
  cases e with
  | noted n =>
    change (if n.isKept threshold then some n else none) = (some n).filter (Note.isKept threshold)
    rw [Option.filter_some]
  | sent s => rfl

theorem cut_after (threshold : LogLevel) (e : Entry) (r : Run α) :
    (r.after e).cut threshold =
      if e.isKept threshold then (r.cut threshold).after e else r.cut threshold := by
  rw [cut, after, List.filter_cons]
  split <;> rfl

end Run

namespace Conversation

/-- At every threshold the run is what the threshold leaves of the run where all lines stay. -/
theorem run_eq_cut (graph : Graph) (threshold : LogLevel) (c : Conversation α) (count : Nat) :
    c.run graph threshold count = (c.run graph .debug count).cut threshold := by
  induction c generalizing count with
  | done a => rfl
  | failed f => rfl
  | note n next ih =>
    rw [run, run, if_pos n.isKept_debug, Run.cut_after, ← ih]
    rfl
  | send s next ih =>
    rw [run, run, Run.cut_after, ← ih]
    rfl

end Conversation

end MusicianGraph
