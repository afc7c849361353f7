import MusicianGraph.Proofs.Csv.BlankCells
import MusicianGraph.Proofs.Seed.Phases
import MusicianGraph.Proofs.Seed.Readable
import MusicianGraph.Proofs.Service.Refusal

/-! # Which events are seeded, and by which name

A row of the events' file is kept if its name is loaded as a value and is not blank. Its name is
sent as a new event of that name would send it, and a row whose name is blank has the name of an
event that is refused. The rows that are kept are sent in order, but a row that cannot be sent ends
the seeding, as a fault of the graph does. -/

namespace MusicianGraph

namespace Seed

/-- The columns of events that are declared as text. -/
def eventTexts (name : String) : Bool := name == "id" || name == "host_id"

section Rows

variable {header : List String} {lines : List (List String)} {text : String} {raw : Table}
  {i : Nat} {row : Record} {cell : String}

/-- A name without a point is given to a column as it is. -/
theorem eq_of_derivesFrom {given name : String} (plain : '.' ∉ name.toList)
    (derives : Table.DerivesFrom given name) : given = name := by
  rcases derives with same | ⟨k, numbered⟩
  · exact same.symm
  · rw [numbered] at plain
    simp [String.toList_append] at plain

/-- The name of a row is read from its cell, as the column of names decides. -/
theorem columnValues_name (parsed : Csv.lines text = .ok (header, lines))
    (read : Table.ofText eventTexts text = .ok raw) (found : raw.rows[i]? = some row) :
    (Csv.columnValues (Table.cellsUnder header lines "name"))[i]? = some (row.getOrNull "name") := by
  have own : ∀ given, Table.DerivesFrom given "name" →
      Table.isDeclared eventTexts given "name" = eventTexts "name" := by
    intro given derives
    rw [eq_of_derivesFrom (by decide) derives]
    rfl
  have here := Table.getOrNull_row parsed read found own
  rwa [Table.valuesUnder, if_neg (by decide)] at here

/-- The name that a row has, and the cell that it was read from. -/
inductive NameRead (cell : String) : Value → Prop where
  /-- It is the text of the cell. -/
  | text : NameRead cell (.text cell)
  /-- It is missing. -/
  | missing : Csv.isMissing cell = true → NameRead cell .null
  /-- It is a number or a truth value. -/
  | typed {v : Value} : v.isTyped = true → Filled cell.toList → NameRead cell v

theorem nameRead {cells : List String} {v : Value} (listed : cells[i]? = some cell)
    (here : (Csv.columnValues cells)[i]? = some v) : NameRead cell v := by
  rcases columnValues_cases listed here with ⟨-, rfl | ⟨missing, rfl⟩⟩ | ⟨typed, kind⟩
  · exact .text
  · exact .missing missing
  · cases missing : Csv.isMissing cell with
    | true =>
      rw [missing, if_pos rfl] at kind
      exact kind ▸ .missing missing
    | false =>
      rw [missing, if_neg Bool.false_ne_true] at kind
      refine .typed kind ?_
      by_contra blank
      exact typed (Csv.readAsTexts_of_blank (List.mem_of_getElem? listed) missing blank)

theorem hasName_of_ne_null (present : row.getOrNull "name" ≠ .null) :
    hasName row = !(strip (row.getOrNull "name").shownText).isEmpty := by
  rw [hasName]
  cases value : row.getOrNull "name" <;> first | rfl | exact absurd value present

/-- A row has a name if it is there and its cell is not blank. -/
theorem hasName_iff (name : NameRead cell (row.getOrNull "name")) :
    hasName row = true ↔ row.getOrNull "name" ≠ .null ∧ Filled cell.toList := by
  generalize value : row.getOrNull "name" = v at name
  cases name with
  | missing =>
    rw [hasName, value]
    exact iff_of_false Bool.false_ne_true fun present => present.1 rfl
  | text =>
    rw [hasName_of_ne_null (value ▸ nofun), value, Bool.not_eq_true', strip_isEmpty_eq_false_iff]
    exact (and_iff_right nofun).symm
  | typed typed filled =>
    have present : v ≠ .null := by
      rintro rfl
      cases typed
    rw [hasName_of_ne_null (value ▸ present), value, Bool.not_eq_true', strip_isEmpty_eq_false_iff]
    exact iff_of_true (filled_shownText typed) ⟨present, filled⟩

end Rows

section Statements

open Conversation

variable {row : Record} {s : Statement} {e : Events.NewEvent} {name : String}

/-- The name of a row is sent without the blanks at its ends. -/
theorem name_eventStatement (made : eventStatement row = .ok s) :
    s.params.getOrNull "name" = .text (strip (row.getOrNull "name").shownText) := by
  simp only [eventStatement, bind_ok_iff] at made
  obtain ⟨_, -, _, -, v, column, _, -, _, -, same⟩ := made
  cases same
  rw [Record.getOrNull_of_column column]
  rfl

/-- So is the name of a new event, unless the event is refused. -/
theorem exists_created (named : e.name = .text name) (filled : Filled name.toList)
    (placed : ¬ Misplaced e.location) (graph : Graph) (threshold : LogLevel) (count : Nat) :
    ∃ t, ((Events.create e).run graph threshold count).statements = [t] ∧
      t.params.getOrNull "name" = .text (strip name) := by
  have accepted : ¬ Refused (Events.createStatement e) := by
    rw [Events.refused_createStatement_iff e named]
    rintro (blank | misplaced)
    · obtain ⟨c, listed, dense⟩ := filled
      rw [blank c listed] at dense
      cases dense
    · exact placed misplaced
  obtain ⟨t, made⟩ := Refused.exists_ok accepted
  refine ⟨t, ((Events.create_isExchange e).sent made graph threshold count).1, ?_⟩
  obtain ⟨shown, location, stripped, -, -, rfl⟩ := Events.createStatement_ok made
  rw [named] at stripped
  cases stripped
  rfl

/-- A new event with a blank name is refused over its name. -/
theorem settles_create_blank (named : e.name = .text name) (blank : ¬ Filled name.toList) :
    Settles (Events.create e) (.error .emptyEventName) := by
  apply (Events.create_isExchange e).refused
  have empty : (strip name).isEmpty = true := by
    rw [← Bool.not_eq_false, strip_isEmpty_eq_false_iff]
    exact blank
  rw [Events.createStatement, named]
  simp only [strippedText, Bind.bind, Except.bind, empty, if_pos]

/-- The name of a row is treated as the name of a new event. -/
structure NamedAlike (cell : String) (row : Record) : Prop where
  /-- It is read from the cell. -/
  read : NameRead cell (row.getOrNull "name")
  /-- The row is kept if its name is there and its cell is not blank. -/
  kept_iff : hasName row = true ↔ row.getOrNull "name" ≠ .null ∧ Filled cell.toList
  /-- The name of a row that is kept is sent as a new event sends it. -/
  sent : hasName row = true → ∀ s, eventStatement row = .ok s →
    ∀ e : Events.NewEvent, e.name = .text (row.getOrNull "name").shownText →
      ¬ Misplaced e.location → ∀ graph threshold count, ∃ t,
        ((Events.create e).run graph threshold count).statements = [t] ∧
          t.params.getOrNull "name" = s.params.getOrNull "name"
  /-- If a row is not kept but its name is there, this is the text of its cell, and a new event of
  that name is refused before anything is sent. -/
  dropped : hasName row = false → row.getOrNull "name" ≠ .null →
    row.getOrNull "name" = .text cell ∧ ∀ e : Events.NewEvent, e.name = .text cell →
      Settles (Events.create e) (.error .emptyEventName)

theorem namedAlike {cell : String} (read : NameRead cell (row.getOrNull "name")) :
    NamedAlike cell row := by
  constructor
  case read => exact read
  case kept_iff => exact hasName_iff read
  case sent =>
    intro named s made e same placed graph threshold count
    have filled : Filled (row.getOrNull "name").shownText.toList := by
      have present := ((hasName_iff read).mp named).1
      rw [hasName_of_ne_null present, Bool.not_eq_true', strip_isEmpty_eq_false_iff] at named
      exact named
    obtain ⟨t, sent, name⟩ := exists_created same filled placed graph threshold count
    exact ⟨t, sent, name.trans (name_eventStatement made).symm⟩
  case dropped =>
    intro unnamed present
    have blank : ¬ Filled cell.toList := by
      intro filled
      rw [(hasName_iff read).mpr ⟨present, filled⟩] at unnamed
      cases unnamed
    refine ⟨?_, fun e same => settles_create_blank same blank⟩
    generalize row.getOrNull "name" = v at read present
    cases read with
    | text => rfl
    | missing => exact absurd rfl present
    | typed typed filled => exact absurd filled blank

end Statements

section Seeding

variable {files : Files} {text : String} {header : List String} {lines : List (List String)}

/-- Of a file of events with a column of names the rows with a name are kept, each line has a row
whose name is treated as that of a new event, and whatever else the files hold, what is kept is sent
in order, all of it if the seeding ends well. -/
theorem events_seeded (there : files "events.csv" = some text)
    (parsed : Csv.lines text = .ok (header, lines)) (column : "name" ∈ Table.columnNames header) :
    ∃ raw kept, Table.ofText eventTexts text = .ok raw ∧ loadEvents files = .ok (some kept) ∧
      kept.rows = raw.rows.filter hasName ∧
      List.Forall₂ NamedAlike (Table.cellsUnder header lines "name") raw.rows ∧
      ∀ settings graph threshold count, SendsPhase "host_id" (kept.rows.map eventStatement)
        ((run settings files).run graph threshold count) := by
  obtain ⟨raw, read⟩ := Table.exists_ofText parsed eventTexts
  have kept : loadEvents files = .ok (some (raw.filter hasName)) := by
    rw [← Table.ofText_columns parsed read] at column
    simp only [loadEvents, there, bind_ok_iff]
    exact ⟨raw, read, (), require_ok_iff.mpr column, rfl⟩
  refine ⟨raw, _, read, kept, rfl, ?_, fun settings graph threshold count => ?_⟩
  · have size := (Table.get?_row parsed read).1
    rw [List.forall₂_iff_get]
    refine ⟨(Table.length_cellsUnder "name").trans size.symm, fun i inside there => namedAlike ?_⟩
    have listed := List.getElem?_eq_getElem inside
    have here := columnValues_name parsed read (List.getElem?_eq_getElem there)
    exact nameRead listed here
  · cases result : load files with
    | error e => exact sendsPhase_of_unloaded settings result "host_id" _ graph threshold count
    | ok tables =>
      obtain ⟨-, -, -, same⟩ := load_ok result
      rw [kept, Except.ok.injEq] at same
      have sends := sendsEvents result settings graph threshold count
      rw [phases, ← same] at sends
      exact sends

end Seeding

section Samples

/-- An event, and one with a blank name. The first one has no latitude, but a word in its place. -/
private def northern : String := "id,host_id,name,latitude\ne,h,Jam,north\nf,h, ,\n"

/-- Files without users and follows, and with these events. -/
private def northernFiles : Files := fun name =>
  if name = "musicians.csv" then
    some "id,username,name,bio,genres,instruments,latitude,longitude,avatar_url\n"
  else if name = "follows.csv" then some "follower,followed\n"
  else if name = "events.csv" then some northern else none

private theorem lines_northern : Csv.lines northern = .ok (["id", "host_id", "name", "latitude"],
    [["e", "h", "Jam", "north"], ["f", "h", " ", ""]]) := by rfl

theorem events_seeded_northern :
    northernFiles "events.csv" = some northern ∧
      Csv.lines northern = .ok (["id", "host_id", "name", "latitude"],
        [["e", "h", "Jam", "north"], ["f", "h", " ", ""]]) ∧
      "name" ∈ Table.columnNames ["id", "host_id", "name", "latitude"] ∧
      ∃ raw kept, Table.ofText eventTexts northern = .ok raw ∧
        loadEvents northernFiles = .ok (some kept) ∧ kept.rows = raw.rows.filter hasName ∧
        List.Forall₂ NamedAlike (Table.cellsUnder ["id", "host_id", "name", "latitude"]
          [["e", "h", "Jam", "north"], ["f", "h", " ", ""]] "name") raw.rows ∧
        ∀ settings graph threshold count, SendsPhase "host_id" (kept.rows.map eventStatement)
          ((run settings northernFiles).run graph threshold count) := by
  have there : northernFiles "events.csv" = some northern := by rfl
  have column : "name" ∈ Table.columnNames ["id", "host_id", "name", "latitude"] := by decide
  exact ⟨there, lines_northern, column, events_seeded there lines_northern column⟩

/-- What is loaded of these files. -/
private def northernTables : Tables where
  musicians := ⟨["id", "username", "name", "bio", "genres", "instruments", "latitude", "longitude",
    "avatar_url"], []⟩
  follows := ⟨["follower", "followed"], []⟩
  posts := none
  events := some ⟨["id", "host_id", "name", "latitude"],
    [[("id", .text "e"), ("host_id", .text "h"), ("name", .text "Jam"),
      ("latitude", .text "north")]]⟩

/-- A row with a name is kept, but nothing is sent for it: its latitude is no number. -/
theorem exists_named_not_sent :
    (∃ kept row, loadEvents northernFiles = .ok (some kept) ∧ row ∈ kept.rows ∧
      row.getOrNull "name" = .text "Jam") ∧
    sentWith "host_id" ((run .standard northernFiles).run (fun _ _ => .rows []) .info 0) = [] := by
  have loaded : load northernFiles = .ok northernTables := by rfl
  constructor
  · exact ⟨_, _, (load_ok loaded).2.2.2, List.mem_singleton_self _, rfl⟩
  · rw [sentWith, statements_eq loaded]
    rfl

end Samples

end Seed

end MusicianGraph
