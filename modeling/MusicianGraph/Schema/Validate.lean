import MusicianGraph.Schema.Field
import MusicianGraph.Failure

/-! # Validation

Reading data as a model, with the outcome as a result or a failure. -/

namespace MusicianGraph

namespace Reading

variable {α : Type}

/-- The outcome of a reading for a model of the given name. -/
def result (title : String) : Reading α → Except Failure α
  | accepted a => .ok a
  | rejected problems => .error (.invalid title problems)
  | stopped kind => .error (.notIterable kind)

end Reading

namespace Schema

variable {α : Type}

def validate (s : Schema α) (v : Value) : Except Failure α := (s.read v).result s.title

/-- Validate data and show the result as data. -/
def normalize (s : Schema α) (v : Value) : Except Failure Value := (s.validate v).map s.dump

end Schema

end MusicianGraph
