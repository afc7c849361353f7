import MusicianGraph.Csv.Lines
import MusicianGraph.Csv.Column

/-! # Tables

The first line of a comma separated text names the columns, the others are rows. If the first row
has more cells than there are names, the surplus cells in front of every row are left out. -/

namespace MusicianGraph

/-- A table: the names of its columns, and a record for each row. -/
structure Table where
  columns : List String
  rows : List Record

namespace Table

/-- The name of a column without one. -/
def unnamed (i : Nat) : String := "Unnamed: " ++ toString i

/-- The first of the names `name.1`, `name.2`, … that is neither given in the header nor taken
already. There are more candidates than names that are in use. -/
def freshName (given taken : List String) (name : String) : String :=
  let candidates := (List.range (given.length + taken.length + 1)).map fun i =>
    name ++ "." ++ toString (i + 1)
  (candidates.find? fun candidate => !(given ++ taken).contains candidate).getD name

/-- Give the columns names of their own, one after the other: a name that is taken gets a number.
Columns come with their places. -/
def distinctNames (given taken : List String) : List (Nat × String) → List (Nat × String)
  | [] => []
  | (i, name) :: rest =>
      let name := if taken.contains name then freshName given taken name else name
      (i, name) :: distinctNames given (name :: taken) rest

def givenNames (header : List String) : List String :=
  header.mapIdx fun i name => if name.isEmpty then unnamed i else name

/-- The names of the columns. Columns that are named in the header have the first choice. -/
def columnNames (header : List String) : List String :=
  let given := givenNames header
  let places := (given.zip header).mapIdx fun i (name, cell) => (i, name, cell.isEmpty)
  let (left, named) := places.partition fun (_, _, isUnnamed) => isUnnamed
  let names := distinctNames given [] ((named ++ left).map fun (i, name, _) => (i, name))
  given.mapIdx fun i name => (names.lookup i).getD name

/-- Is a column declared as text? A column whose name got a number is what the first column of the
name is. -/
def isDeclared (texts : String → Bool) (given name : String) : Bool := texts given || texts name

/-- The cells at a place of every line. -/
def cellsAt (lines : List (List String)) (i : Nat) : List String :=
  lines.map fun line => line.getD i ""

/-- The records of so many rows from named columns. -/
def records (count : Nat) (columns : List (String × List Value)) : List Record :=
  let attach := fun (name, values) rows =>
    List.zipWith (fun (v : Value) (row : Record) => (name, v) :: row) values rows
  columns.foldr attach (List.replicate count [])

/-- Read a text as a table. `texts` tells which columns hold texts whatever their cells are. -/
def ofText (texts : String → Bool) (text : String) : Except Failure Table := do
  let (header, lines) ← Csv.lines text
  let columns := columnNames header
  let surplus := (lines.head?.map List.length).getD 0 - header.length
  let lines := lines.map fun line => line.drop surplus
  let values := ((givenNames header).zip columns).mapIdx fun i (given, name) =>
    let cells := cellsAt lines i
    (name, if isDeclared texts given name then Csv.textValues cells else Csv.columnValues cells)
  .ok { columns, rows := records lines.length values }

/-- A column that has to be there. -/
def require (t : Table) (name : String) : Except Failure Unit :=
  if t.columns.contains name then .ok () else .error (.missingField name)

def mapColumn (t : Table) (name : String) (f : Value → Value) : Table :=
  { t with rows := t.rows.map fun row => Record.put row name (f (Record.getOrNull row name)) }

def filter (t : Table) (keep : Record → Bool) : Table := { t with rows := t.rows.filter keep }

end Table

end MusicianGraph
