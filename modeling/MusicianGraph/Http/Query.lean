import MusicianGraph.Http.Percent
import MusicianGraph.Schema.Scalar

/-! # Query strings

A query string is a list of names and values. It is taken byte by byte; percent encoding is decoded
after that. Of several values for one name the last one counts, and an empty value is a value. -/

namespace MusicianGraph

/-- The names and values of a query string, decoded, in order. -/
abbrev Query := List (String × String)

namespace Query

/-- Decode a name or a value; a plus sign is a blank. -/
def decodePart (cs : List Char) : String :=
  String.ofList (Percent.decodeRuns (cs.map fun c => if c = '+' then ' ' else c))

/-- A name and a value. Without an equals sign the value is empty. -/
def pair (cs : List Char) : String × String :=
  (decodePart (cs.takeWhile (· != '=')), decodePart ((cs.dropWhile (· != '=')).drop 1))

def ofString (s : String) : Query :=
  (((Percent.byteChars s.toList).splitOn '&').filter fun part => !part.isEmpty).map pair

/-- The last value for a name. -/
def get? (q : Query) (name : String) : Option String := q.reverse.lookup name

variable {α : Type}

/-- A parameter that has to be there. -/
def required (q : Query) (name : String) (read : Value → Reading α) : Reading α :=
  match q.get? name with
  | some s => (read (.text s)).within (.field name)
  | none => .rejected [⟨[.field name], .missing, .null⟩]

def defaulted (q : Query) (name : String) (default : α) (read : Value → Reading α) : Reading α :=
  match q.get? name with
  | some s => (read (.text s)).within (.field name)
  | none => .accepted default

/-- A whole number with bounds. -/
def intBetween (least : Int) (most : Option Int) (v : Value) : Reading Int :=
  (Schema.int v).andThen fun n =>
    if most.any fun bound => bound < n then .reject (.aboveBound (most.getD 0)) v
    else if n < least then .reject (.belowBound least) v
    else .accepted n

end Query

end MusicianGraph
