import MusicianGraph.Failure

/-! # Statements and replies

A statement is a fixed text with parameters that carry all values. The graph answers it with rows
or with a fault. -/

namespace MusicianGraph

structure Statement where
  text : String
  params : Record

inductive Reply where
  | rows (found : List Record)
  | fault (kind : GraphFault) (message : String)

/-- The rows of a reply, or the fault as a failure. -/
def Reply.result : Reply → Except Failure (List Record)
  | rows found => .ok found
  | fault kind message => .error (.graph kind message)

/-- The fields of an object; other values have none. -/
def rowOf : Value → Record
  | .object fields => fields
  | _ => []

/-- A reply as data: a list of rows, or an object that names a fault and may say what is wrong. -/
def Reply.ofValue (v : Value) : Reply :=
  match v with
  | .list items => .rows (items.map rowOf)
  | _ =>
      .fault (.ofName ((rowOf v).getOrNull "raise").shownText)
        (((rowOf v).get? "message").elim "" Value.shownText)

def Statement.dump (s : Statement) : Value :=
  .object [("query", .text s.text), ("params", .object s.params)]

/-- A graph, by its answers: to every statement, given how many came before it. -/
abbrev Graph := Nat → Statement → Reply

namespace Graph

/-- A graph that gives prepared replies in order, and no rows after the last one. -/
def ofReplies (replies : List Reply) : Graph := fun i _ => replies.getD i (.rows [])

/-- The graph as it goes on after a number of statements. -/
def after (graph : Graph) (count : Nat) : Graph := fun i s => graph (count + i) s

end Graph

end MusicianGraph
