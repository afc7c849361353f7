import MusicianGraph.Csv.Table
import MusicianGraph.Proofs.Csv.Columns
import MusicianGraph.Proofs.Value.Record

/-! # What stands in the rows of a table

The row of a line has under each name what was read from the column of that name. Here it is said
which cells these are, and that only a column of that name decides how they are read. -/

namespace MusicianGraph

namespace Table

section Names

/-- A name that is given to a column, perhaps with a number behind it. -/
def DerivesFrom (given name : String) : Prop :=
  name = given ∨ ∃ k : Nat, name = given ++ "." ++ toString k

theorem freshName_derives (given taken : List String) (name : String) :
    DerivesFrom name (freshName given taken name) := by
  rw [freshName]
  cases found : List.find? (fun candidate => !(given ++ taken).contains candidate)
      ((List.range (given.length + taken.length + 1)).map fun i =>
        name ++ "." ++ toString (i + 1)) with
  | none => exact .inl rfl
  | some candidate =>
    obtain ⟨i, -, rfl⟩ := List.mem_map.mp (List.mem_of_find?_eq_some found)
    exact .inr ⟨i + 1, rfl⟩

/-- Distinct names are the names of the same places, perhaps with numbers. -/
theorem distinctNames_derive {given taken : List String} {places : List (Nat × String)} {i : Nat}
    {name : String} (listed : (i, name) ∈ distinctNames given taken places) :
    ∃ before, (i, before) ∈ places ∧ DerivesFrom before name := by
  induction places generalizing taken with
  | nil => exact absurd listed List.not_mem_nil
  | cons place rest ih =>
    obtain ⟨j, before⟩ := place
    rw [distinctNames] at listed
    rcases List.mem_cons.mp listed with here | later
    · refine ⟨before, ?_, ?_⟩
      · cases here
        exact List.mem_cons_self
      · cases here
        split
        · exact freshName_derives given taken before
        · exact .inl rfl
    · obtain ⟨other, member, derives⟩ := ih later
      exact ⟨other, List.mem_cons_of_mem _ member, derives⟩

/-- Columns have the names that the header gives them, perhaps with numbers. -/
theorem columnNames_derive {header : List String} {j : Nat} {given name : String}
    (before : (givenNames header)[j]? = some given) (after : (columnNames header)[j]? = some name) :
    DerivesFrom given name := by
  rw [columnNames] at after
  dsimp only at after
  rw [List.getElem?_mapIdx, before, Option.map_some] at after
  generalize found? : List.lookup j _ = found at after
  cases found with
  | none => exact .inl (Option.some.inj after).symm
  | some derived =>
    cases after
    obtain ⟨front, back, names, -⟩ := List.lookup_eq_some_iff.mp found?
    have listed : (j, derived) ∈ front ++ (j, derived) :: back :=
      List.mem_append_right front List.mem_cons_self
    rw [← names] at listed
    -- The places were sorted into unnamed and named ones, but each keeps its index.
    obtain ⟨original, place, derives⟩ := distinctNames_derive listed
    obtain ⟨⟨k, cellName, isUnnamed⟩, split, same⟩ := List.mem_map.mp place
    rw [List.partition_eq_filter_filter, List.mem_append, List.mem_filter, List.mem_filter,
      ← and_or_left] at split
    obtain ⟨l, inside, entry⟩ := List.mem_mapIdx.mp split.1
    simp only [Prod.mk.injEq] at same entry
    obtain ⟨rfl, rfl⟩ := same
    obtain ⟨rfl, rfl, -⟩ := entry
    have there : l < (givenNames header).length := by
      rw [List.length_zip] at inside
      omega
    rw [List.getElem_zip] at derives
    rw [List.getElem?_eq_getElem there] at before
    cases before
    exact derives

end Names

section Records

variable {count : Nat}

/-- There is a record for every row if no column is shorter, and each name has the value of its
first column. -/
theorem records_spec {columns : List (String × List Value)}
    (full : ∀ column ∈ columns, column.2.length = count) :
    (records count columns).length = count ∧
      ∀ (i : Nat) (row : Record), (records count columns)[i]? = some row → ∀ name,
        row.get? name = (columns.lookup name).bind fun values => values[i]? := by
  induction columns with
  | nil =>
    refine ⟨List.length_replicate, fun i row found name => ?_⟩
    have empty : row = [] := List.eq_of_mem_replicate (List.mem_of_getElem? found)
    rw [empty]
    rfl
  | cons column rest ih =>
    obtain ⟨name, values⟩ := column
    obtain ⟨size, fields⟩ := ih fun column listed => full column (List.mem_cons_of_mem _ listed)
    have whole : values.length = count := full (name, values) List.mem_cons_self
    have attached : records count ((name, values) :: rest) =
        List.zipWith (fun v row => (name, v) :: row) values (records count rest) := rfl
    rw [attached]
    refine ⟨by rw [List.length_zipWith, whole, size, Nat.min_self], fun i row found other => ?_⟩
    obtain ⟨v, tail, here, there, rfl⟩ := List.getElem?_zipWith_eq_some.mp found
    rw [Record.get?_cons, List.lookup_cons]
    by_cases same : other = name
    · rw [if_pos same, same, beq_self_eq_true]
      exact here.symm
    · rw [if_neg same, beq_false_of_ne same]
      exact fields i tail there other

/-- Every record has the names in order. -/
theorem names_records {columns : List (String × List Value)} {row : Record}
    (listed : row ∈ records count columns) : row.names = columns.map Prod.fst := by
  induction columns generalizing row with
  | nil =>
    rw [List.eq_of_mem_replicate listed]
    rfl
  | cons column rest ih =>
    obtain ⟨name, values⟩ := column
    obtain ⟨i, found⟩ := List.getElem?_of_mem listed
    obtain ⟨v, tail, -, there, rfl⟩ := List.getElem?_zipWith_eq_some.mp found
    rw [List.map_cons, ← ih (List.mem_of_getElem? there)]
    rfl

/-- What stands under a name in a list of places whose values depend on the place. -/
theorem lookup_mapIdx {α β : Type} (key : α → String) (value : Nat → α → β) (items : List α)
    (name : String) :
    (items.mapIdx fun i a => (key a, value i a)).lookup name =
      (items.findIdx? fun a => key a == name).bind fun i => items[i]?.map (value i) := by
  induction items generalizing value with
  | nil => rfl
  | cons a rest ih =>
    rw [List.mapIdx_cons, List.lookup_cons, List.findIdx?_cons]
    by_cases here : key a = name
    · rw [here, beq_self_eq_true]
      rfl
    · rw [beq_false_of_ne here, beq_false_of_ne (Ne.symm here), ih fun i => value (i + 1)]
      cases rest.findIdx? fun a => key a == name <;> rfl

end Records

section Cells

variable {header : List String} {lines : List (List String)}

/-- The lines without the surplus cells in front. -/
def trimmed (header : List String) (lines : List (List String)) : List (List String) :=
  lines.map fun line => line.drop ((lines.head?.map List.length).getD 0 - header.length)

/-- The cells of the first column with a name, line by line. A column that is not there has empty
cells. -/
def cellsUnder (header : List String) (lines : List (List String)) (name : String) : List String :=
  match (columnNames header).findIdx? (· == name) with
  | some j => cellsAt (trimmed header lines) j
  | none => lines.map fun _ => ""

theorem length_cellsUnder (name : String) : (cellsUnder header lines name).length = lines.length := by
  rw [cellsUnder]
  split <;> simp [cellsAt, trimmed]

def valuesOf (texts : String → Bool) (header : List String) (lines : List (List String)) (i : Nat) :
    String × String → List Value
  | (given, name) =>
      if isDeclared texts given name then Csv.textValues (cellsAt (trimmed header lines) i)
      else Csv.columnValues (cellsAt (trimmed header lines) i)

/-- What has been taken apart into lines is a table. -/
theorem exists_ofText {text : String} (parsed : Csv.lines text = .ok (header, lines))
    (texts : String → Bool) : ∃ t, ofText texts text = .ok t := by
  rw [ofText, parsed]
  exact ⟨_, rfl⟩

theorem ofText_ok {texts : String → Bool} {text : String} {t : Table}
    (parsed : Csv.lines text = .ok (header, lines)) (success : ofText texts text = .ok t) :
    t.rows = records lines.length (((givenNames header).zip (columnNames header)).mapIdx
      fun i column => (column.2, valuesOf texts header lines i column)) := by
  rw [ofText, parsed] at success
  cases success
  simp [valuesOf, trimmed]

theorem ofText_columns {texts : String → Bool} {text : String} {t : Table}
    (parsed : Csv.lines text = .ok (header, lines)) (success : ofText texts text = .ok t) :
    t.columns = columnNames header := by
  rw [ofText, parsed] at success
  cases success
  rfl

theorem map_snd_names (header : List String) :
    ((givenNames header).zip (columnNames header)).map Prod.snd = columnNames header := by
  refine List.map_snd_zip ?_
  simp [columnNames]

/-- Every row has all columns. -/
theorem names_row {texts : String → Bool} {text : String} {t : Table} {row : Record}
    (parsed : Csv.lines text = .ok (header, lines)) (success : ofText texts text = .ok t)
    (listed : row ∈ t.rows) : row.names = t.columns := by
  rw [ofText_ok parsed success] at listed
  rw [names_records listed, ofText_columns parsed success]
  refine Eq.trans (List.ext_getElem? fun i => ?_) (map_snd_names header)
  rw [List.getElem?_map, List.getElem?_mapIdx, List.getElem?_map, Option.map_map]
  rfl

/-- There is a row for every line, and under a name it has the value at the place of the line in
the first column of that name. -/
theorem get?_row {texts : String → Bool} {text : String} {t : Table}
    (parsed : Csv.lines text = .ok (header, lines)) (success : ofText texts text = .ok t) :
    t.rows.length = lines.length ∧
      ∀ (i : Nat) (row : Record), t.rows[i]? = some row → ∀ name, row.get? name =
        (((givenNames header).zip (columnNames header)).findIdx? fun column =>
          column.2 == name).bind fun j =>
            (((givenNames header).zip (columnNames header))[j]?.map
              (valuesOf texts header lines j)).bind fun values => values[i]? := by
  rw [ofText_ok parsed success]
  have full : ∀ column ∈ ((givenNames header).zip (columnNames header)).mapIdx
      fun i column => (column.2, valuesOf texts header lines i column),
      column.2.length = lines.length := by
    intro column listed
    obtain ⟨i, inside, rfl⟩ := List.mem_mapIdx.mp listed
    dsimp only [valuesOf]
    split
    · simp [Csv.textValues, cellsAt, trimmed]
    · rw [Csv.length_columnValues]
      simp [cellsAt, trimmed]
  obtain ⟨size, fields⟩ := records_spec full
  refine ⟨size, fun i row found name => ?_⟩
  rw [fields i row found name, lookup_mapIdx, Option.bind_assoc]

/-- Where a name is found, it is derived from the one that is given there. -/
theorem column_of_place {name : String} {j : Nat}
    (place : (((givenNames header).zip (columnNames header)).findIdx? fun column =>
      column.2 == name) = some j) :
    ∃ given, DerivesFrom given name ∧
      ((givenNames header).zip (columnNames header))[j]? = some (given, name) := by
  obtain ⟨there, same, -⟩ := List.findIdx?_eq_some_iff_getElem.mp place
  rw [beq_iff_eq, List.getElem_zip] at same
  have both := there
  rw [List.length_zip, Nat.lt_min] at both
  have before : (givenNames header)[j]? = some (givenNames header)[j] :=
    List.getElem?_eq_getElem both.1
  have after : (columnNames header)[j]? = some name := by
    rw [List.getElem?_eq_getElem both.2]
    exact congrArg some same
  exact ⟨_, columnNames_derive before after, List.getElem?_zip_eq_some.mpr ⟨before, after⟩⟩

/-- What is read from the cells under a name. -/
def valuesUnder (texts : String → Bool) (header : List String) (lines : List (List String))
    (name : String) : List Value :=
  if texts name then Csv.textValues (cellsUnder header lines name)
  else Csv.columnValues (cellsUnder header lines name)

/-- A row has under each name what is read from the cells under it. The name itself has to tell
whether they are texts. -/
theorem getOrNull_row {texts : String → Bool} {text name : String} {t : Table} {i : Nat}
    {row : Record} (parsed : Csv.lines text = .ok (header, lines))
    (success : ofText texts text = .ok t) (found : t.rows[i]? = some row)
    (own : ∀ given, DerivesFrom given name → isDeclared texts given name = texts name) :
    (valuesUnder texts header lines name)[i]? = some (row.getOrNull name) := by
  obtain ⟨size, fields⟩ := get?_row parsed success
  have inside : i < lines.length := by
    rw [← size]
    exact (List.getElem?_eq_some_iff.mp found).1
  -- The cells are found by the names alone, the values by pairs of names.
  have places : (columnNames header).findIdx? (· == name) =
      ((givenNames header).zip (columnNames header)).findIdx? fun column => column.2 == name := by
    rw [← map_snd_names header, List.findIdx?_map, map_snd_names header]
    rfl
  rw [Record.getOrNull, fields i row found name, valuesUnder, cellsUnder, places]
  cases place : ((givenNames header).zip (columnNames header)).findIdx? fun column =>
      column.2 == name with
  | none =>
    have empty : (lines.map fun _ => "")[i]? = some "" := by
      rw [List.getElem?_map, List.getElem?_eq_getElem inside]
      rfl
    have missing : ∀ cell ∈ lines.map fun _ => "", Csv.isMissing cell = true := by
      intro cell listed
      obtain ⟨_, -, rfl⟩ := List.mem_map.mp listed
      decide
    dsimp only [Option.bind_none, Option.getD_none]
    split
    · rw [Csv.textValues, List.getElem?_map, empty]
      rfl
    · exact Csv.columnValues_missing missing empty
  | some j =>
    obtain ⟨given, derives, column⟩ := column_of_place place
    dsimp only [Option.bind_some]
    rw [column]
    dsimp only [Option.map_some, Option.bind_some, valuesOf]
    rw [own given derives]
    have cells : (cellsAt (trimmed header lines) j).length = lines.length := by
      simp [cellsAt, trimmed]
    have read : i < (if texts name then Csv.textValues (cellsAt (trimmed header lines) j)
        else Csv.columnValues (cellsAt (trimmed header lines) j)).length := by
      split
      · rwa [Csv.textValues, List.length_map, cells]
      · rwa [Csv.length_columnValues, cells]
    rw [List.getElem?_eq_getElem read]
    rfl

end Cells

end Table

end MusicianGraph
