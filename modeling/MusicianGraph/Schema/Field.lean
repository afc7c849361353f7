import MusicianGraph.Schema.Reading

/-! # Reading the fields of an object

Fields that no model asks for are passed over. -/

namespace MusicianGraph

namespace Schema

variable {α : Type}

def required (r : Record) (name : String) (read : Value → Reading α) : Reading α :=
  match r.get? name with
  | some v => (read v).within (.field name)
  | none => .rejected [⟨[.field name], .missing, .object r⟩]

def defaulted (r : Record) (name : String) (default : α) (read : Value → Reading α) : Reading α :=
  match r.get? name with
  | some v => (read v).within (.field name)
  | none => .accepted default

/-- An object, read by its fields. -/
def fields (title : String) (read : Record → Reading α) : Value → Reading α
  | .object r => read r
  | v => .reject (.notModel title) v

end Schema

/-- A model: what it is called, how it is read from data and how it is shown as data. -/
structure Schema (α : Type) where
  title : String
  read : Value → Reading α
  dump : α → Value

end MusicianGraph
