import MusicianGraph.Proofs.Csv.Tables
import MusicianGraph.Proofs.Seed.Musicians

/-! # What the files need for a seeding

Each file is read as a table before anything else is done with it, and some columns have to be there
at once. Here it is said which; the others are asked for only row by row. -/

namespace MusicianGraph

namespace Seed

/-- The files of musicians and of follows, and no others. -/
def filesOf (musicians follows : String) : Files := fun name =>
  if name = "musicians.csv" then some musicians
  else if name = "follows.csv" then some follows else none

variable {files : Files}

theorem load_ok {tables : Tables} (success : load files = .ok tables) :
    loadMusicians files = .ok tables.musicians ∧ loadFollows files = .ok tables.follows ∧
      loadPosts files = .ok tables.posts ∧ loadEvents files = .ok tables.events := by
  simp only [load, bind_ok_iff] at success
  obtain ⟨musicians, first, follows, second, posts, third, events, fourth, same⟩ := success
  cases same
  exact ⟨first, second, third, fourth⟩

theorem required_ok_iff {name text : String} :
    required files name = .ok text ↔ files name = some text := by
  rw [required]
  cases files name <;> simp

theorem require_ok_iff {t : Table} {name : String} :
    t.require name = .ok () ↔ name ∈ t.columns := by
  rw [Table.require]
  split <;> simp_all

theorem splitTags_columns {name : String} {t split : Table} (success : splitTags name t = .ok split) :
    name ∈ t.columns ∧ split.columns = t.columns := by
  rw [splitTags, bind_ok_iff] at success
  obtain ⟨_, there, same⟩ := success
  cases same
  exact ⟨require_ok_iff.mp there, rfl⟩

/-- The file, if it is there and has a header, has the columns. -/
def HasColumns (files : Files) (name : String) (columns : List String) : Prop :=
  ∀ text header lines, files name = some text → Csv.lines text = .ok (header, lines) →
    ∀ column ∈ columns, column ∈ Table.columnNames header

theorem hasColumns_of_read {name text : String} {texts : String → Bool} {t : Table}
    {columns : List String} (given : files name = some text) (read : Table.ofText texts text = .ok t)
    (there : ∀ column ∈ columns, column ∈ t.columns) : HasColumns files name columns := by
  intro other header lines given' parsed column listed
  rw [given] at given'
  cases given'
  rw [← Table.ofText_columns parsed read]
  exact there column listed

theorem loadMusicians_needs {t : Table} (success : loadMusicians files = .ok t) :
    files "musicians.csv" ≠ none ∧ HasColumns files "musicians.csv" ["genres", "instruments"] := by
  simp only [loadMusicians, bind_ok_iff, required_ok_iff] at success
  obtain ⟨text, given, raw, read, split, first, second⟩ := success
  obtain ⟨genres, same⟩ := splitTags_columns first
  obtain ⟨instruments, -⟩ := splitTags_columns second
  rw [same] at instruments
  refine ⟨given ▸ Option.some_ne_none text, hasColumns_of_read given read ?_⟩
  exact List.forall_mem_cons.mpr ⟨genres, List.forall_mem_singleton.mpr instruments⟩

theorem loadFollows_needs {t : Table} (success : loadFollows files = .ok t) :
    files "follows.csv" ≠ none ∧ HasColumns files "follows.csv" ["follower", "followed"] := by
  simp only [loadFollows, bind_ok_iff, required_ok_iff] at success
  obtain ⟨text, given, raw, read, _, first, _, second, -⟩ := success
  refine ⟨given ▸ Option.some_ne_none text, hasColumns_of_read given read ?_⟩
  exact List.forall_mem_cons.mpr ⟨require_ok_iff.mp first,
    List.forall_mem_singleton.mpr (require_ok_iff.mp second)⟩

theorem loadPosts_needs {t : Option Table} (success : loadPosts files = .ok t) :
    HasColumns files "posts.csv" ["genre_filters"] := by
  intro text header lines given
  simp only [loadPosts, given, bind_ok_iff] at success
  obtain ⟨raw, read, split, first, -⟩ := success
  refine hasColumns_of_read given read ?_ text header lines given
  exact List.forall_mem_singleton.mpr (splitTags_columns first).1

theorem loadEvents_needs {t : Option Table} (success : loadEvents files = .ok t) :
    HasColumns files "events.csv" ["name"] := by
  intro text header lines given
  simp only [loadEvents, given, bind_ok_iff] at success
  obtain ⟨raw, read, _, first, -⟩ := success
  refine hasColumns_of_read given read ?_ text header lines given
  exact List.forall_mem_singleton.mpr (require_ok_iff.mp first)

def neededFiles : List String := ["musicians.csv", "follows.csv"]

/-- The columns that are read from each file while it is loaded. -/
def neededColumns : List (String × List String) := [
  ("musicians.csv", ["genres", "instruments"]), ("follows.csv", ["follower", "followed"]),
  ("posts.csv", ["genre_filters"]), ("events.csv", ["name"])]

/-- What can be loaded has all that is needed. -/
theorem needs_of_load {tables : Tables} (success : load files = .ok tables) :
    (∀ name ∈ neededFiles, files name ≠ none) ∧
      ∀ entry ∈ neededColumns, HasColumns files entry.1 entry.2 := by
  obtain ⟨musicians, follows, posts, events⟩ := load_ok success
  obtain ⟨musiciansFile, musiciansColumns⟩ := loadMusicians_needs musicians
  obtain ⟨followsFile, followsColumns⟩ := loadFollows_needs follows
  simp only [neededFiles, neededColumns, List.forall_mem_cons]
  exact ⟨⟨musiciansFile, followsFile, List.forall_mem_nil _⟩, musiciansColumns, followsColumns,
    loadPosts_needs posts, loadEvents_needs events, List.forall_mem_nil _⟩

end Seed

end MusicianGraph
