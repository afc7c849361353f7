import MusicianGraph.Schema.Problem

/-! # Readings

The outcome of reading data as something: it is accepted, or it is rejected with all its problems,
or reading stops at once because something that cannot be gone through item by item stands where a
collection of tags is wanted. Readings are combined field by field: problems add up in the order of
the fields, and the first stop wins. -/

namespace MusicianGraph

/-- The outcome of reading data. -/
inductive Reading (α : Type) where
  | accepted (a : α)
  | rejected (problems : List Problem)
  /-- A value of the named kind cannot be gone through item by item. -/
  | stopped (kind : String)

namespace Reading

variable {α β : Type}

/-- Apply a function to what is accepted. -/
def map (f : α → β) : Reading α → Reading β
  | accepted a => accepted (f a)
  | rejected problems => rejected problems
  | stopped kind => stopped kind

/-- Read two things side by side, the function first. -/
def seq : Reading (α → β) → Reading α → Reading β
  | accepted f, r => r.map f
  | stopped kind, _ => stopped kind
  | rejected _, stopped kind => stopped kind
  | rejected before, rejected after => rejected (before ++ after)
  | rejected before, accepted _ => rejected before

instance : Applicative Reading where
  pure := accepted
  map := map
  seq f r := seq f (r ())

/-- Reject a value for one reason. -/
def reject (issue : Issue) (input : Value) : Reading α := rejected [⟨[], issue, input⟩]

/-- A reading of a part, told as a reading of the whole. -/
def within (step : Step) : Reading α → Reading α
  | rejected problems => rejected (problems.map (·.within step))
  | r => r

def andThen : Reading α → (α → Reading β) → Reading β
  | accepted a, f => f a
  | rejected problems, _ => rejected problems
  | stopped kind, _ => stopped kind

/-- Read a list item by item, from the given index on. -/
def ofItems (read : Value → Reading α) (start : Nat) : List Value → Reading (List α)
  | [] => accepted []
  | v :: rest => List.cons <$> (read v).within (.index start) <*> ofItems read (start + 1) rest

end Reading

end MusicianGraph
