import MusicianGraph.Csv.Table
import MusicianGraph.Tag

/-! # Loading seed files

Musicians, follows, posts and events are loaded from comma separated files; the last two need not be
there. Cells of tags become lists of tags, follows of oneself and repeated ones are left out, and so
are events without a name. -/

namespace MusicianGraph.Seed

/-- The files that are there, by their names. -/
abbrev Files := String → Option String

/-- The text of a file that has to be there. -/
def required (files : Files) (name : String) : Except Failure String :=
  match files name with
  | some text => .ok text
  | none => .error (.missingFile name)

/-- Turn a column of cells into lists of tags. -/
def splitTags (name : String) (t : Table) : Except Failure Table := do
  t.require name
  .ok (t.mapColumn name fun cell => .ofTexts (Tag.ofCellValue cell))

def loadMusicians (files : Files) : Except Failure Table := do
  let text ← required files "musicians.csv"
  let t ← Table.ofText (· == "id") text
  let t ← splitTags "genres" t
  splitTags "instruments" t

/-- The end of a follow: a user's id, if it is given. -/
def endpoint (row : Record) (name : String) : Option String :=
  match Record.getOrNull row name with
  | .text s => some s
  | _ => none

def ends (row : Record) : Option String × Option String :=
  (endpoint row "follower", endpoint row "followed")

/-- Do the ends of a follow differ? What is not given differs from everything. -/
def hasTwoEnds (row : Record) : Bool :=
  match ends row with
  | (some a, some b) => a != b
  | _ => true

/-- The rows whose ends are not those of an earlier row. Here two ends that are not given are the
same. -/
def firstFollows (seen : List (Option String × Option String)) : List Record → List Record
  | [] => []
  | row :: rest =>
      if seen.contains (ends row) then firstFollows seen rest
      else row :: firstFollows (ends row :: seen) rest

def loadFollows (files : Files) : Except Failure Table := do
  let text ← required files "follows.csv"
  let t ← Table.ofText (fun _ => true) text
  t.require "follower"
  t.require "followed"
  .ok { t with rows := firstFollows [] (t.rows.filter hasTwoEnds) }

/-- Load the posts, if there is a file of them. -/
def loadPosts (files : Files) : Except Failure (Option Table) :=
  match files "posts.csv" with
  | none => .ok none
  | some text => do
      let t ← Table.ofText (fun name => name == "id" || name == "user_id") text
      let t ← splitTags "genre_filters" t
      .ok (some t)

def hasName (row : Record) : Bool :=
  match Record.getOrNull row "name" with
  | .null => false
  | v => !(strip v.shownText).isEmpty

/-- Load the events, if there is a file of them. -/
def loadEvents (files : Files) : Except Failure (Option Table) :=
  match files "events.csv" with
  | none => .ok none
  | some text => do
      let t ← Table.ofText (fun name => name == "id" || name == "host_id") text
      t.require "name"
      .ok (some (t.filter hasName))

end MusicianGraph.Seed
