import MusicianGraph.Proofs.Value.Record
import MusicianGraph.Seed.Run

/-! # Musicians on their way into the graph

A row of the musicians' file is loaded with its tags taken apart, and then all of its cells become
parameters of one statement. -/

namespace MusicianGraph

namespace Seed

/-- A row with the tags of a cell in place of the cell. -/
def withTags (name : String) (row : Record) : Record :=
  row.put name (.ofTexts (Tag.ofCellValue (row.getOrNull name)))

theorem splitTags_ok {name : String} {t split : Table} (success : splitTags name t = .ok split) :
    split.rows = t.rows.map (withTags name) := by
  rw [splitTags, bind_ok_iff] at success
  obtain ⟨-, -, same⟩ := success
  cases same
  rfl

section Loading

variable {files : Files} {text : String} {raw t : Table}
  (given : files "musicians.csv" = some text) (parsed : Table.ofText (· == "id") text = .ok raw)

include given parsed

theorem loadMusicians_eq :
    loadMusicians files = splitTags "genres" raw >>= splitTags "instruments" := by
  rw [loadMusicians, required, given]
  change (Table.ofText (· == "id") text >>= fun t => splitTags "genres" t >>= _) = _
  rw [parsed]
  rfl

/-- The loaded rows are those of the file, with two of their cells taken apart. -/
theorem loadMusicians_ok (loaded : loadMusicians files = .ok t) :
    t.rows = raw.rows.map fun row => withTags "instruments" (withTags "genres" row) := by
  rw [loadMusicians_eq given parsed, bind_ok_iff] at loaded
  obtain ⟨split, first, second⟩ := loaded
  rw [splitTags_ok second, splitTags_ok first, List.map_map]
  rfl

end Loading

/-- What is loaded was read as a table before. -/
theorem ofText_of_loaded {files : Files} {text : String} {t : Table}
    (given : files "musicians.csv" = some text) (loaded : loadMusicians files = .ok t) :
    ∃ raw, Table.ofText (· == "id") text = .ok raw := by
  simp only [loadMusicians, bind_ok_iff, required, given] at loaded
  obtain ⟨_, same, raw, parsed, -⟩ := loaded
  cases same
  exact ⟨raw, parsed⟩

/-- What stands in a loaded row. -/
theorem getOrNull_loaded (row : Record) (name : String) :
    (withTags "instruments" (withTags "genres" row)).getOrNull name =
      if name = "genres" ∨ name = "instruments" then
        .ofTexts (Tag.ofCellValue (row.getOrNull name))
      else row.getOrNull name := by
  rw [withTags, withTags, Record.getOrNull_put, Record.getOrNull_put, Record.getOrNull_put]
  by_cases genres : name = "genres"
  · simp [genres]
  · by_cases instruments : name = "instruments" <;> simp [genres, instruments]

/-- The parameters of a user: the cells of the row, where the location has been read. -/
def userParams (row : Record) (id username latitude longitude : Value) : Record := [
  ("id", id), ("username", username), ("name", row.getOrNull "name"), ("bio", row.getOrNull "bio"),
  ("avatar_url", row.getOrNull "avatar_url"), ("genres", row.getOrNull "genres"),
  ("instruments", row.getOrNull "instruments"), ("latitude", latitude), ("longitude", longitude)]

theorem userStatement_ok {row : Record} {s : Statement} (success : userStatement row = .ok s) :
    ∃ id username latitude longitude,
      Seed.given row "id" = .ok id ∧ Seed.given row "username" = .ok username ∧
      coordinate row "latitude" = .ok latitude ∧ coordinate row "longitude" = .ok longitude ∧
      s.params = userParams row id username latitude longitude := by
  simp only [userStatement, bind_ok_iff] at success
  obtain ⟨id, first, username, second, genres, third, instruments, fourth, latitude, fifth,
    longitude, sixth, same⟩ := success
  cases same
  refine ⟨id, username, latitude, longitude, first, second, fifth, sixth, ?_⟩
  rw [userParams, Record.getOrNull_of_column third, Record.getOrNull_of_column fourth]
  rfl

/-- A row is written if its cells can be sent. -/
theorem exists_userStatement {row : Record} {id username latitude longitude : Value}
    (first : Seed.given row "id" = .ok id) (second : Seed.given row "username" = .ok username)
    (genres : (row.get? "genres").isSome) (instruments : (row.get? "instruments").isSome)
    (third : coordinate row "latitude" = .ok latitude)
    (fourth : coordinate row "longitude" = .ok longitude) :
    ∃ s, userStatement row = .ok s ∧
      s.params = userParams row id username latitude longitude := by
  obtain ⟨v, found⟩ := Option.isSome_iff_exists.mp genres
  obtain ⟨w, found'⟩ := Option.isSome_iff_exists.mp instruments
  have column : Record.column row "genres" = .ok v := by rw [Record.column, found]
  have column' : Record.column row "instruments" = .ok w := by rw [Record.column, found']
  refine ⟨_, by rw [userStatement, first, second, column, column', third, fourth]; rfl, ?_⟩
  rw [userParams, Record.getOrNull_of_column column, Record.getOrNull_of_column column']
  rfl

end Seed

end MusicianGraph
