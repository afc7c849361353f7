import Mathlib.Data.List.Nodup
import MusicianGraph.Proofs.Seed.Phases

/-! # Which follows are seeded

Of the rows with the same two ends the first one is kept, if its ends differ. Two ends that are not
given are the same where repetitions are looked for, but they are taken to differ where follows of
oneself are left out: such a row is kept, and it is sent. All other rows that are kept link two
different users. -/

namespace MusicianGraph

namespace Seed

/-- The two ends of a follow, each of them a user's id if it is given. -/
abbrev Ends := Option String × Option String

section Firsts

variable {keep : Ends → Bool} {rows : List Record} {row : Record} {e : Ends}

/-- The rows whose ends satisfy a condition and are not those of an earlier row. -/
def firstRows (keep : Ends → Bool) (rows : List Record) : List Record :=
  (rows.zipIdx.filter fun place =>
    keep (ends place.1) && !((rows.take place.2).map ends).contains (ends place.1)).map Prod.fst

/-- A last row is one of them if it satisfies the condition and no other row has its ends. -/
theorem firstRows_concat (keep : Ends → Bool) (rows : List Record) (row : Record) :
    firstRows keep (rows ++ [row]) = firstRows keep rows ++
      if keep (ends row) && !(rows.map ends).contains (ends row) then [row] else [] := by
  rw [firstRows, List.zipIdx_append, List.filter_append, List.map_append]
  congr 1
  · rw [firstRows]
    congr 1
    apply List.filter_congr
    intro place listed
    obtain ⟨inside, -⟩ := List.getElem?_eq_some_iff.mp (List.mem_zipIdx_iff_getElem?.mp listed)
    rw [List.take_append_of_le_length inside.le]
  · rw [List.zipIdx_cons, List.zipIdx_nil, Nat.zero_add, List.filter_singleton, List.take_left]
    cases keep (ends row) && !(rows.map ends).contains (ends row) <;> rfl

/-- They have all the ends that satisfy the condition. -/
theorem mem_ends_firstRows_iff :
    e ∈ (firstRows keep rows).map ends ↔ keep e = true ∧ e ∈ rows.map ends := by
  induction rows using List.reverseRecOn with
  | nil => simp [firstRows]
  | append_singleton rows row ih =>
    rw [firstRows_concat, List.map_append, List.mem_append, ih, List.map_append, List.mem_append,
      List.map_singleton, List.mem_singleton]
    by_cases other : e = ends row
    · subst other
      cases kept : keep (ends row) <;> cases seen : (rows.map ends).contains (ends row) <;>
        simp_all
    · have absent : e ∉ (if keep (ends row) && !(rows.map ends).contains (ends row) then [row]
          else []).map ends := by
        split <;> simp [other]
      rw [or_iff_left absent, or_iff_left other]

/-- No two of them have the same ends. -/
theorem nodup_ends_firstRows (keep : Ends → Bool) (rows : List Record) :
    ((firstRows keep rows).map ends).Nodup := by
  induction rows using List.reverseRecOn with
  | nil => exact List.nodup_nil
  | append_singleton rows row ih =>
    rw [firstRows_concat]
    split
    case isTrue first =>
      rw [Bool.and_eq_true, Bool.not_eq_true', ← Bool.not_eq_true, List.contains_iff_mem] at first
      rw [List.map_append, List.map_singleton, List.nodup_append_comm, List.singleton_append,
        List.nodup_cons]
      refine ⟨fun before => ?_, ih⟩
      exact first.2 (mem_ends_firstRows_iff.mp before).2
    case isFalse => rwa [List.append_nil]

/-- Do the ends differ, where what is not given differs from everything? -/
def differ : Ends → Bool
  | (some a, some b) => a != b
  | _ => true

theorem hasTwoEnds_eq (row : Record) : hasTwoEnds row = differ (ends row) := by
  rw [hasTwoEnds]
  rcases ends row with ⟨_ | a, _ | b⟩ <;> rfl

theorem firstFollows_concat (seen : List Ends) (rows : List Record) (row : Record) :
    firstFollows seen (rows ++ [row]) = firstFollows seen rows ++
      if seen.contains (ends row) || (rows.map ends).contains (ends row) then [] else [row] := by
  induction rows generalizing seen with
  | nil => simp [firstFollows]
  | cons first rest ih =>
    rw [List.cons_append, firstFollows, firstFollows, List.map_cons, List.contains_cons]
    by_cases known : seen.contains (ends first) = true
    · rw [if_pos known, if_pos known, ih]
      by_cases same : ends row = ends first
      · rw [same, known, Bool.true_or, Bool.true_or]
      · rw [beq_false_of_ne same, Bool.false_or]
    · rw [if_neg known, if_neg known, ih, List.cons_append, List.contains_cons, Bool.or_assoc,
        Bool.or_left_comm]

/-- Rows of oneself are left out before repetitions are, but it makes no difference. -/
theorem firstFollows_eq (rows : List Record) :
    firstFollows [] (rows.filter hasTwoEnds) = firstRows differ rows := by
  induction rows using List.reverseRecOn with
  | nil => rfl
  | append_singleton rows row ih =>
    rw [List.filter_append, firstRows_concat, ← ih, List.filter_singleton, hasTwoEnds_eq]
    cases kept : differ (ends row) with
    | false => simp
    | true =>
      have seen : ((rows.filter hasTwoEnds).map ends).contains (ends row) =
          (rows.map ends).contains (ends row) := by
        rw [Bool.eq_iff_iff, List.contains_iff_mem, List.contains_iff_mem, List.mem_map,
          List.mem_map]
        constructor
        · rintro ⟨other, listed, same⟩
          exact ⟨other, (List.mem_filter.mp listed).1, same⟩
        · rintro ⟨other, listed, same⟩
          refine ⟨other, List.mem_filter.mpr ⟨listed, ?_⟩, same⟩
          rw [hasTwoEnds_eq, same, kept]
      rw [Bool.true_and, cond_true, firstFollows_concat, seen]
      cases (rows.map ends).contains (ends row) <;> rfl

/-- A row of two equal ends is kept only if they are both not given. -/
theorem differ_of_ne {e : Ends} (apart : e ≠ (none, none)) : differ e = (e.1 != e.2) := by
  rcases e with ⟨_ | a, _ | b⟩
  case none.none => exact absurd rfl apart
  case some.some => rw [differ, bne, bne, Option.some_beq_some]
  all_goals rfl

/-- What is kept are the first rows of two different ends, unless a row has two ends that are not
given. -/
theorem firstRows_differ_iff :
    firstRows differ rows = firstRows (fun e => e.1 != e.2) rows ↔ (none, none) ∉ rows.map ends := by
  constructor
  · intro same blank
    have kept : (none, none) ∈ (firstRows differ rows).map ends :=
      mem_ends_firstRows_iff.mpr ⟨rfl, blank⟩
    rw [same] at kept
    cases (mem_ends_firstRows_iff.mp kept).1
  · intro given
    rw [firstRows, firstRows]
    congr 1
    apply List.filter_congr
    intro place listed
    have row := List.fst_mem_of_mem_zipIdx listed
    rw [differ_of_ne fun blank => given (List.mem_map.mpr ⟨place.1, row, blank⟩)]

end Firsts

section Cells

variable {header : List String} {lines : List (List String)} {text : String} {raw : Table}

/-- What a cell of ids gives. -/
def cellEnd (cell : String) : Option String := if Csv.isMissing cell then none else some cell

def lineEnds (header : List String) (lines : List (List String)) : List Ends :=
  ((Table.cellsUnder header lines "follower").map cellEnd).zip
    ((Table.cellsUnder header lines "followed").map cellEnd)

theorem map_endpoint (parsed : Csv.lines text = .ok (header, lines))
    (read : Table.ofText (fun _ => true) text = .ok raw) (name : String) :
    (raw.rows.map fun row => endpoint row name) =
      (Table.cellsUnder header lines name).map cellEnd := by
  apply List.ext_getElem?
  intro i
  rw [List.getElem?_map, List.getElem?_map]
  cases found : raw.rows[i]? with
  | none =>
    have size := (Table.get?_row parsed read).1
    have outside : (Table.cellsUnder header lines name)[i]? = none := by
      rw [List.getElem?_eq_none_iff] at found ⊢
      rwa [Table.length_cellsUnder, ← size]
    rw [outside]
    rfl
  | some row =>
    have here := Table.getOrNull_row parsed read found
      fun given (_ : Table.DerivesFrom given name) => rfl
    rw [Table.valuesUnder, if_pos rfl, Csv.textValues, List.getElem?_map,
      Option.map_eq_some_iff] at here
    obtain ⟨cell, listed, value⟩ := here
    rw [listed, Option.map_some, Option.map_some, endpoint, ← value, cellEnd]
    cases Csv.isMissing cell <;> rfl

/-- The rows have the ends that the lines give. -/
theorem map_ends (parsed : Csv.lines text = .ok (header, lines))
    (read : Table.ofText (fun _ => true) text = .ok raw) :
    raw.rows.map ends = lineEnds header lines := by
  rw [lineEnds, ← map_endpoint parsed read, ← map_endpoint parsed read, List.zip_map']
  rfl

end Cells

section Statements

variable {row : Record} {s : Statement} {name : String} {v : Value}

/-- The ends that a statement links. -/
def sentEnds (s : Statement) : Ends := (endpoint s.params "src", endpoint s.params "dst")

/-- A missing end is sent as a number, which is no id either. -/
theorem endpoint_given (sent : given row name = .ok v) {params : Record} {other : String}
    (same : params.getOrNull other = v) : endpoint params other = endpoint row name := by
  rw [given, bind_ok_iff] at sent
  obtain ⟨w, found, value⟩ := sent
  rw [endpoint, endpoint, same, Record.getOrNull_of_column found]
  cases w <;> cases value <;> rfl

theorem sentEnds_eq (made : followStatement row = .ok s) : sentEnds s = ends row := by
  simp only [followStatement, bind_ok_iff] at made
  obtain ⟨src, first, dst, second, same⟩ := made
  cases same
  exact Prod.ext (endpoint_given first rfl) (endpoint_given second rfl)

/-- What has a column can be sent. -/
theorem exists_given (listed : name ∈ row.names) : ∃ v, given row name = .ok v := by
  obtain ⟨field, among, named⟩ := List.mem_map.mp listed
  rw [given, Record.column]
  cases found : row.get? name with
  | none =>
    have other := List.lookup_eq_none_iff.mp found field among
    rw [named, bne_self_eq_false] at other
    cases other
  | some v => cases v <;> exact ⟨_, rfl⟩

theorem exists_followStatement (follower : "follower" ∈ row.names)
    (followed : "followed" ∈ row.names) : ∃ s, followStatement row = .ok s := by
  obtain ⟨src, first⟩ := exists_given follower
  obtain ⟨dst, second⟩ := exists_given followed
  exact ⟨_, by rw [followStatement, first, second]; rfl⟩

theorem map_sentEnds_isPrefix {sent : List Statement} {rows : List Record}
    (planned : sent.map .ok <+: rows.map followStatement) :
    sent.map sentEnds <+: rows.map ends := by
  induction rows generalizing sent with
  | nil =>
    rw [List.map_nil, List.prefix_nil, List.map_eq_nil_iff] at planned
    rw [planned]
    exact List.nil_prefix
  | cons row rest ih =>
    cases sent with
    | nil => exact List.nil_prefix
    | cons s later =>
      rw [List.map_cons, List.map_cons, List.cons_prefix_cons] at planned
      rw [List.map_cons, List.map_cons, List.cons_prefix_cons]
      exact ⟨sentEnds_eq planned.1.symm, ih planned.2⟩

end Statements

section Seeding

/-- What is kept of the rows of follows. -/
structure KeepsFirsts (rows kept : List Record) : Prop where
  /-- The first row with its ends is kept, unless one id is given for both of them. -/
  firsts : kept = firstRows differ rows
  /-- This is the first row with its ends if they are not equal, unless a row has two ends that are
  not given. -/
  real_iff : kept = firstRows (fun e => e.1 != e.2) rows ↔ (none, none) ∉ rows.map ends
  /-- What is kept can be sent. -/
  made : ∀ row ∈ kept, ∃ s, followStatement row = .ok s

/-- What is sent of the follows that were kept, where `given` are the ends of all rows. -/
structure SendsFirsts (given : List Ends) (kept : List Record) (r : Run Unit) : Prop where
  /-- They are sent in order. -/
  isPrefix : (sentWith "src" r).map sentEnds <+: kept.map ends
  /-- All are sent if the seeding ends well. -/
  whole : r.outcome = .ok () → (sentWith "src" r).map sentEnds = kept.map ends
  /-- No two have the same ends. -/
  nodup : ((sentWith "src" r).map sentEnds).Nodup
  /-- Equal ends are sent only if they are both not given. -/
  equal : ∀ s ∈ sentWith "src" r, (sentEnds s).1 = (sentEnds s).2 →
    sentEnds s = (none, none) ∧ (none, none) ∈ given
  /-- If two ends are both not given and the seeding ends well, they are sent. -/
  blank : (none, none) ∈ given → r.outcome = .ok () →
    ∃ s ∈ sentWith "src" r, sentEnds s = (none, none)

theorem sendsFirsts {rows kept : List Record} (keeps : KeepsFirsts rows kept) {r : Run Unit}
    (sends : SendsPhase "src" (kept.map followStatement) r) :
    SendsFirsts (rows.map ends) kept r := by
  have isPrefix := map_sentEnds_isPrefix sends.isPrefix
  have whole : r.outcome = .ok () → (sentWith "src" r).map sentEnds = kept.map ends := by
    intro good
    have size := congrArg List.length (sends.whole good)
    rw [List.length_map, List.length_map] at size
    apply isPrefix.eq_of_length
    rw [List.length_map, List.length_map, size]
  rw [keeps.firsts] at isPrefix whole ⊢
  constructor
  case isPrefix => exact isPrefix
  case whole => exact whole
  case nodup => exact isPrefix.sublist.nodup (nodup_ends_firstRows differ rows)
  case equal =>
    intro s sent same
    have kept' := isPrefix.subset (List.mem_map_of_mem sent)
    obtain ⟨apart, given⟩ := mem_ends_firstRows_iff.mp kept'
    by_cases blank : sentEnds s = (none, none)
    · exact ⟨blank, blank ▸ given⟩
    · rw [differ_of_ne blank, same, bne_self_eq_false] at apart
      cases apart
  case blank =>
    intro given good
    rw [← List.mem_map, whole good]
    exact mem_ends_firstRows_iff.mpr ⟨rfl, given⟩

theorem keepsFirsts {text : String} {header : List String} {lines : List (List String)} {raw : Table}
    (parsed : Csv.lines text = .ok (header, lines))
    (read : Table.ofText (fun _ => true) text = .ok raw) (follower : "follower" ∈ raw.columns)
    (followed : "followed" ∈ raw.columns) :
    KeepsFirsts raw.rows (firstFollows [] (raw.rows.filter hasTwoEnds)) := by
  rw [firstFollows_eq]
  constructor
  case firsts => rfl
  case real_iff => exact firstRows_differ_iff
  case made =>
    intro row kept
    have listed : row ∈ raw.rows := by
      obtain ⟨place, first, rfl⟩ := List.mem_map.mp kept
      exact List.fst_mem_of_mem_zipIdx (List.mem_filter.mp first).1
    have names := Table.names_row parsed read listed
    exact exists_followStatement (names ▸ follower) (names ▸ followed)

variable {files : Files} {text : String} {header : List String} {lines : List (List String)}

/-- Of a file of follows with both columns the first row with its ends is kept, unless one id is
given for both of them, and whatever else the files hold, what is kept is sent in order. So a row
with two equal ends is kept and sent exactly if both are not given. -/
theorem follows_seeded (there : files "follows.csv" = some text)
    (parsed : Csv.lines text = .ok (header, lines))
    (follower : "follower" ∈ Table.columnNames header)
    (followed : "followed" ∈ Table.columnNames header) :
    ∃ raw kept, Table.ofText (fun _ => true) text = .ok raw ∧
      raw.rows.map ends = lineEnds header lines ∧ loadFollows files = .ok kept ∧
      kept.columns = raw.columns ∧ KeepsFirsts raw.rows kept.rows ∧
      ∀ settings graph threshold count, SendsFirsts (lineEnds header lines) kept.rows
        ((run settings files).run graph threshold count) := by
  obtain ⟨raw, read⟩ := Table.exists_ofText parsed (fun _ => true)
  have pairs := map_ends parsed read
  rw [← Table.ofText_columns parsed read] at follower followed
  have keeps := keepsFirsts parsed read follower followed
  have kept : loadFollows files =
      .ok { raw with rows := firstFollows [] (raw.rows.filter hasTwoEnds) } := by
    simp only [loadFollows, bind_ok_iff]
    exact ⟨text, required_ok_iff.mpr there, raw, read, (), require_ok_iff.mpr follower, (),
      require_ok_iff.mpr followed, rfl⟩
  refine ⟨raw, _, read, pairs, kept, rfl, keeps, fun settings graph threshold count => ?_⟩
  rw [← pairs]
  apply sendsFirsts keeps
  cases result : load files with
  | error e => exact sendsPhase_of_unloaded settings result "src" _ graph threshold count
  | ok tables =>
    obtain ⟨-, same, -, -⟩ := load_ok result
    rw [kept, Except.ok.injEq] at same
    have sends := sendsFollows result settings graph threshold count
    rwa [← same] at sends

end Seeding

section Samples

/-- Files without users, and with the given text of follows. -/
private def followFiles (text : String) : Files :=
  filesOf "id,username,name,bio,genres,instruments,latitude,longitude,avatar_url\n" text

/-- A file with a pair that is repeated, a user who follows that user, and empty cells in one column
or in both. -/
private def mixedRows : String := "follower,followed\na,b\n,\nb,b\na,b\na,\n,\n,a\n"

private def mixedLines : List (List String) :=
  [["a", "b"], ["", ""], ["b", "b"], ["a", "b"], ["a", ""], ["", ""], ["", "a"]]

theorem follows_seeded_mixed :
    followFiles mixedRows "follows.csv" = some mixedRows ∧
      Csv.lines mixedRows = .ok (["follower", "followed"], mixedLines) ∧
      "follower" ∈ Table.columnNames ["follower", "followed"] ∧
      "followed" ∈ Table.columnNames ["follower", "followed"] ∧
      ∃ raw kept, Table.ofText (fun _ => true) mixedRows = .ok raw ∧
        raw.rows.map ends = lineEnds ["follower", "followed"] mixedLines ∧
        loadFollows (followFiles mixedRows) = .ok kept ∧ kept.columns = raw.columns ∧
        KeepsFirsts raw.rows kept.rows ∧
        ∀ settings graph threshold count,
          SendsFirsts (lineEnds ["follower", "followed"] mixedLines) kept.rows
            ((run settings (followFiles mixedRows)).run graph threshold count) := by
  have there : followFiles mixedRows "follows.csv" = some mixedRows := by rfl
  have parsed : Csv.lines mixedRows = .ok (["follower", "followed"], mixedLines) := by rfl
  have columns : "follower" ∈ Table.columnNames ["follower", "followed"] ∧
      "followed" ∈ Table.columnNames ["follower", "followed"] := by decide
  exact ⟨there, parsed, columns.1, columns.2,
    follows_seeded there parsed columns.1 columns.2⟩

/-- Of these rows the first ones with their ends are kept, without the user who follows that user. -/
example : (loadFollows (followFiles mixedRows)).toOption.map (fun t => t.rows.map ends) =
    some [(some "a", some "b"), (none, none), (some "a", none), (none, some "a")] := by
  rfl

/-- A file of one row with two empty cells. -/
private def blankRow : String := "follower,followed\n,\n"

/-- What is loaded with this file. -/
private def blankTables : Tables where
  musicians := ⟨["id", "username", "name", "bio", "genres", "instruments", "latitude", "longitude",
    "avatar_url"], []⟩
  follows := ⟨["follower", "followed"], [[("follower", .null), ("followed", .null)]]⟩
  posts := none
  events := none

/-- The row with two empty cells is kept and sent. -/
theorem exists_blank_sent :
    (∃ raw kept, Table.ofText (fun _ => true) blankRow = .ok raw ∧
      loadFollows (followFiles blankRow) = .ok kept ∧
      kept.rows ≠ firstRows (fun e => e.1 != e.2) raw.rows) ∧
    ∃ s ∈ sentWith "src" ((run .standard (followFiles blankRow)).run (fun _ _ => .rows []) .info 0),
      (sentEnds s).1 = (sentEnds s).2 := by
  have loaded : load (followFiles blankRow) = .ok blankTables := by rfl
  constructor
  · refine ⟨blankTables.follows, blankTables.follows, rfl, (load_ok loaded).2.1, ?_⟩
    exact List.cons_ne_nil _ _
  · have fourth : (Plan.sent (fun _ _ => .rows []) 0 (phases blankTables).sequence)[4]? = some _ :=
      rfl
    rw [sentWith, statements_eq loaded]
    exact ⟨_, List.mem_filter.mpr ⟨List.mem_of_getElem? fourth, rfl⟩, rfl⟩

end Samples

end Seed

end MusicianGraph
