import MusicianGraph.Proofs.Csv.Degrees
import MusicianGraph.Proofs.Csv.Tables
import MusicianGraph.Proofs.Model.TagCells
import MusicianGraph.Proofs.Seed.Phases
import MusicianGraph.Proofs.Service.ReadBack

/-! # Which seeded users can be read

The musicians' file says which texts a user has, but a column of texts that all look like numbers,
or like truth values, is loaded as numbers or truth values. Such a user is written all the same,
and then the profile cannot be read. Here is exactly when a seeded user can be read. -/

namespace MusicianGraph

open Schema

section Columns

variable {cells : List String} {cell : String} {i : Nat} {v : Value}

/-- Numbers and truth values are no texts. -/
theorem not_text_of_isTyped (typed : v.isTyped = true) (s : String) :
    text v ≠ .accepted s ∧ optional text v ≠ .accepted (some s) ∧ optional text v ≠ .accepted none := by
  cases v with
  | bool | int | float => exact ⟨nofun, nofun, nofun⟩
  | _ => cases typed

/-- The value of a cell is its text or missing in a column that keeps texts, and a number, a truth
value or missing in any other. -/
theorem columnValues_cases (found : cells[i]? = some cell)
    (here : (Csv.columnValues cells)[i]? = some v) :
    (Csv.ReadAsTexts cells ∧ (v = .text cell ∨ Csv.isMissing cell = true ∧ v = .null)) ∨
      (¬ Csv.ReadAsTexts cells ∧
        if Csv.isMissing cell then v = .null else v.isTyped = true) := by
  by_cases texts : Csv.ReadAsTexts cells
  · obtain ⟨w, there, kind⟩ := Csv.columnValues_of_readAsTexts texts found
    cases here.symm.trans there
    exact .inl ⟨texts, kind⟩
  · obtain ⟨w, there, kind⟩ := Csv.columnValues_typed texts found
    cases here.symm.trans there
    exact .inr ⟨texts, kind⟩

/-- A given cell is read as its text exactly if its column keeps texts. -/
theorem text_columnValues_iff (given : Csv.isMissing cell = false) (found : cells[i]? = some cell)
    (here : (Csv.columnValues cells)[i]? = some v) :
    text v = .accepted cell ↔ Csv.ReadAsTexts cells := by
  rcases columnValues_cases found here with ⟨texts, rfl | ⟨missing, -⟩⟩ | ⟨typed, kind⟩
  · exact iff_of_true rfl texts
  · rw [given] at missing
    cases missing
  · rw [given] at kind
    exact iff_of_false (not_text_of_isTyped kind cell).1 typed

/-- A given cell has a value. -/
theorem columnValues_ne_null (given : Csv.isMissing cell = false) (found : cells[i]? = some cell)
    (here : (Csv.columnValues cells)[i]? = some v) : v ≠ .null := by
  rintro rfl
  rcases columnValues_cases found here with ⟨-, same | ⟨missing, -⟩⟩ | ⟨-, kind⟩
  · cases same
  · rw [given] at missing
    cases missing
  · rw [given] at kind
    cases kind

/-- A cell that may be missing can be read exactly if it is or its column keeps texts. -/
theorem optional_columnValues_iff (found : cells[i]? = some cell)
    (here : (Csv.columnValues cells)[i]? = some v) :
    (∃ a, optional text v = .accepted a) ↔ Csv.isMissing cell = true ∨ Csv.ReadAsTexts cells := by
  rcases columnValues_cases found here with ⟨texts, rfl | ⟨-, rfl⟩⟩ | ⟨typed, kind⟩
  · exact iff_of_true ⟨some cell, rfl⟩ (.inr texts)
  · exact iff_of_true ⟨none, rfl⟩ (.inr texts)
  · by_cases missing : Csv.isMissing cell = true
    · rw [if_pos missing] at kind
      rw [kind]
      exact iff_of_true ⟨none, rfl⟩ (.inl missing)
    · rw [if_neg missing] at kind
      refine iff_of_false ?_ (not_or.mpr ⟨missing, typed⟩)
      rintro ⟨a, accepted⟩
      cases a with
      | none => exact (not_text_of_isTyped kind cell).2.2 accepted
      | some s => exact (not_text_of_isTyped kind s).2.1 accepted

end Columns

def GeoPoint.stored (p : GeoPoint) : Value :=
  .point (.float p.longitude) (.float p.latitude) (.int 4326)

namespace Seed

/-- The row of a user as it is read after the parameters were written. -/
def storedUser (params : Record) : Record :=
  [("user_id", params.getOrNull "id"), ("location", storedLocation params),
    ("post_count", .int 0), ("followers_count", .int 0), ("following_count", .int 0),
    ("hour_rate", .null), ("solo_artist", .null)] ++ params

section Rows

variable {row : Record} {name : String}

theorem given_ok {v : Value} (here : row.getOrNull name = v) (given : v ≠ .null) :
    Seed.given row name = .ok v := by
  rw [Record.getOrNull] at here
  rw [Seed.given, Record.column]
  cases found : row.get? name with
  | none =>
    rw [found] at here
    exact absurd here.symm given
  | some w =>
    rw [found] at here
    cases here
    cases w <;> first | exact absurd rfl given | rfl

/-- A coordinate is sent if it is a number, and null if it is missing. -/
theorem coordinate_ok {cells : List String} {cell : String} {i : Nat} {valid : Float → Bool}
    (range : IsRange valid)
    (all : ∀ cell ∈ cells, Csv.isMissing cell = true ∨ Csv.IsNumberIn valid cell)
    (found : cells[i]? = some cell)
    (here : (Csv.columnValues cells)[i]? = some (row.getOrNull name)) :
    ∃ degrees : Option Float, coordinate row name = .ok (.ofOption .float degrees) ∧
      ∀ x ∈ degrees, valid x = true := by
  obtain ⟨v, there, kind⟩ := Csv.columnValues_numbers range all found
  have same : row.getOrNull name = v := Option.some.inj (here.symm.trans there)
  rw [coordinate, same]
  split at kind
  · rw [kind]
    exact ⟨none, rfl, nofun⟩
  · obtain ⟨x, number, inside⟩ := kind
    refine ⟨some x, ?_, fun y same => Option.some.inj same ▸ inside⟩
    cases v with
    | null => cases number
    | _ =>
      dsimp only
      rw [number]
      rfl

end Rows

/-- What two coordinates are stored as is a place, or nothing, and is read as that. -/
theorem place_of_degrees {params : Record} {latitude longitude : Option Float}
    (north : params.getOrNull "latitude" = .ofOption .float latitude)
    (east : params.getOrNull "longitude" = .ofOption .float longitude)
    (vertical : ∀ x ∈ latitude, isLatitude x = true)
    (horizontal : ∀ x ∈ longitude, isLongitude x = true) :
    ∃ location, storedLocation params = .ofOption GeoPoint.stored location ∧
      (Stored.place (storedLocation params)).outcome = .ok location := by
  rw [storedLocation, north, east]
  cases latitude with
  | none => exact ⟨none, rfl, rfl⟩
  | some x =>
    cases longitude with
    | none => exact ⟨none, rfl, rfl⟩
    | some y =>
      let p : GeoPoint := ⟨x, y, vertical x rfl, horizontal y rfl⟩
      exact ⟨some p, rfl, Stored.place_point p⟩

/-- The columns of a stored user, read one by one. -/
theorem profile_storedUser_ok_iff (row : Record) (id username latitude longitude : Value)
    (p : UserProfile) :
    (Stored.profile (storedUser (userParams row id username latitude longitude))).outcome = .ok p ↔
      (Stored.place (storedLocation (userParams row id username latitude longitude))).outcome =
        .ok p.location ∧
      text id = .accepted p.userId ∧ text username = .accepted p.username ∧
      optional text (row.getOrNull "name") = .accepted p.name ∧
      optional text (row.getOrNull "bio") = .accepted p.bio ∧
      optional text (row.getOrNull "avatar_url") = .accepted p.avatarUrl ∧
      tags (row.getOrNull "genres") = .accepted p.genres ∧
      tags (row.getOrNull "instruments") = .accepted p.instruments ∧
      0 = p.postCount ∧ 0 = p.followersCount ∧ 0 = p.followingCount ∧ none = p.hourRate ∧
      false = p.soloArtist := by
  -- What stands in front of the parameters has other names, so it hides none of these.
  have columns : ∀ name ∈ ["name", "bio", "avatar_url", "genres", "instruments"],
      (storedUser (userParams row id username latitude longitude)).getOrNull name =
        row.getOrNull name := by
    simp only [List.forall_mem_cons, List.not_mem_nil, IsEmpty.forall_iff, implies_true, and_true]
    exact ⟨rfl, rfl, rfl, rfl, rfl⟩
  rw [Stored.profile_ok_iff, columns "name" (by decide), columns "bio" (by decide),
    columns "avatar_url" (by decide), columns "genres" (by decide),
    columns "instruments" (by decide)]
  change _ ∧ text id = _ ∧ text username = _ ∧ _ ∧ _ ∧ _ ∧ _ ∧ _ ∧
    Reading.accepted (0 : Int) = _ ∧ Reading.accepted (0 : Int) = _ ∧
    Reading.accepted (0 : Int) = _ ∧ Reading.accepted (none : Option Float) = _ ∧
    Reading.accepted false = _ ↔ _
  simp only [Reading.accepted.injEq]
  exact Iff.rfl

section Users

variable {header : List String} {lines : List (List String)}

open Table Csv

/-- A file of musicians whose rows all have an id and a username, and whose coordinates are each
missing or a number in range. -/
structure Complete (header : List String) (lines : List (List String)) : Prop where
  id : ∀ cell ∈ cellsUnder header lines "id", isMissing cell = false
  username : ∀ cell ∈ cellsUnder header lines "username", isMissing cell = false
  latitude : ∀ cell ∈ cellsUnder header lines "latitude",
    isMissing cell = true ∨ IsNumberIn isLatitude cell
  longitude : ∀ cell ∈ cellsUnder header lines "longitude",
    isMissing cell = true ∨ IsNumberIn isLongitude cell

/-- The texts of a row are kept: its username, and what it has of the other texts. -/
structure KeepsTexts (header : List String) (lines : List (List String)) (i : Nat) : Prop where
  username : ReadAsTexts (cellsUnder header lines "username")
  others : ∀ name ∈ ["name", "bio", "avatar_url"], ∀ cell,
    (cellsUnder header lines name)[i]? = some cell →
      isMissing cell = true ∨ ReadAsTexts (cellsUnder header lines name)

/-- The profile of a user is read back from the parameters: the id, the username, both lists of tags
and the place. -/
def ReadBack (params : Record) (id username : String) : Prop :=
  ∃ p, (Stored.profile (storedUser params)).outcome = .ok p ∧ p.userId = id ∧
    p.username = username ∧ params.getOrNull "genres" = .ofTexts p.genres ∧
    params.getOrNull "instruments" = .ofTexts p.instruments ∧
    storedLocation params = .ofOption GeoPoint.stored p.location

/-- Only an id is declared as text. -/
theorem isDeclared_own {name : String} (apart : "id.".toList.isPrefixOf name.toList = false)
    {given : String} (derives : DerivesFrom given name) :
    isDeclared (· == "id") given name = (name == "id") := by
  rcases derives with rfl | ⟨k, rfl⟩
  · exact Bool.or_self _
  · have other : (given == "id") = false := by
      rw [beq_eq_false_iff_ne]
      rintro rfl
      simp [String.toList_append] at apart
    change (given == "id" || _) = _
    rw [other, Bool.false_or]

section Row

variable {text : String} {raw : Table} {i : Nat} {before : Record}
  (parsed : Csv.lines text = .ok (header, lines))
  (read : Table.ofText (· == "id") text = .ok raw) (found : raw.rows[i]? = some before)

include parsed read found

theorem exists_cell (name : String) : ∃ cell, (cellsUnder header lines name)[i]? = some cell := by
  have inside : i < (cellsUnder header lines name).length := by
    rw [length_cellsUnder, ← (get?_row parsed read).1]
    exact (List.getElem?_eq_some_iff.mp found).1
  exact ⟨_, List.getElem?_eq_getElem inside⟩

/-- What a column holds at a row, unless it is the column of ids. -/
theorem columnValues_row {name : String}
    (apart : "id.".toList.isPrefixOf name.toList = false) (other : (name == "id") = false) :
    (columnValues (cellsUnder header lines name))[i]? = some (before.getOrNull name) := by
  have here := getOrNull_row parsed read found fun given => isDeclared_own apart
  rwa [valuesUnder, other, if_neg Bool.false_ne_true] at here

/-- An id is loaded as it stands. -/
theorem getOrNull_id {cell : String} (listed : (cellsUnder header lines "id")[i]? = some cell)
    (given : isMissing cell = false) : before.getOrNull "id" = .text cell := by
  have own : ∀ given, DerivesFrom given "id" →
      isDeclared (· == "id") given "id" = ("id" == "id") := fun given => isDeclared_own (by decide)
  have here := getOrNull_row parsed read found own
  rw [valuesUnder, beq_self_eq_true, if_pos rfl, textValues, List.getElem?_map, listed,
    Option.map_some, given] at here
  exact (Option.some.inj here).symm

end Row

/-- What a loaded row holds: the id as it stands, the values of the other columns, and tags that are
all different. -/
structure Loaded (header : List String) (lines : List (List String)) (i : Nat) (row : Record) :
    Prop where
  cells : ∀ name, ∃ cell, (cellsUnder header lines name)[i]? = some cell
  id : ∀ cell, (cellsUnder header lines "id")[i]? = some cell → isMissing cell = false →
    row.getOrNull "id" = .text cell
  values : ∀ name ∈ ["username", "name", "bio", "avatar_url", "latitude", "longitude"],
    (columnValues (cellsUnder header lines name))[i]? = some (row.getOrNull name)
  tags : ∀ name ∈ ["genres", "instruments"], ∃ texts : List String, texts.Nodup ∧
    row.get? name = some (.ofTexts texts)

theorem loadMusicians_rows {files : Files} {text : String} {t : Table}
    (given : files "musicians.csv" = some text) (parsed : Csv.lines text = .ok (header, lines))
    (loaded : loadMusicians files = .ok t) :
    t.rows.length = lines.length ∧
      ∀ (i : Nat) (row : Record), t.rows[i]? = some row → Loaded header lines i row := by
  obtain ⟨raw, read⟩ := ofText_of_loaded given loaded
  have rows := loadMusicians_ok given read loaded
  refine ⟨by rw [rows, List.length_map, (get?_row parsed read).1], fun i row kept => ?_⟩
  rw [rows, List.getElem?_map, Option.map_eq_some_iff] at kept
  obtain ⟨before, found, rfl⟩ := kept
  constructor
  case cells => exact exists_cell parsed read found
  case id =>
    intro cell listed given
    rw [getOrNull_loaded, if_neg (by decide)]
    exact getOrNull_id parsed read found listed given
  case values =>
    intro name listed
    have apart : "id.".toList.isPrefixOf name.toList = false ∧ (name == "id") = false ∧
        ¬ (name = "genres" ∨ name = "instruments") := by
      revert name
      decide
    rw [getOrNull_loaded, if_neg apart.2.2]
    exact columnValues_row parsed read found apart.1 apart.2.1
  case tags =>
    intro name listed
    have either : name = "genres" ∨ name = "instruments" := by simpa using listed
    refine ⟨Tag.ofCellValue (before.getOrNull name), Tag.nodup_ofCellValue _, ?_⟩
    rcases either with rfl | rfl <;> simp [withTags, Record.get?_put, Record.getOrNull_put]

namespace Loaded

variable {i : Nat} {row : Record} (loaded : Loaded header lines i row)
  (complete : Complete header lines)

include loaded complete

/-- A loaded row is written, with its id as text and its place as numbers. -/
theorem exists_statement : ∃ s id username latitude longitude, userStatement row = .ok s ∧
    (cellsUnder header lines "id")[i]? = some id ∧
    (cellsUnder header lines "username")[i]? = some username ∧
    s.params = userParams row (.text id) (row.getOrNull "username")
      (.ofOption .float latitude) (.ofOption .float longitude) ∧
    (∀ x ∈ latitude, isLatitude x = true) ∧ ∀ x ∈ longitude, isLongitude x = true := by
  obtain ⟨id, idListed⟩ := loaded.cells "id"
  obtain ⟨username, nameListed⟩ := loaded.cells "username"
  obtain ⟨vertical, verticalListed⟩ := loaded.cells "latitude"
  obtain ⟨horizontal, horizontalListed⟩ := loaded.cells "longitude"
  have idGiven := complete.id id (List.mem_of_getElem? idListed)
  have first := given_ok (loaded.id id idListed idGiven) nofun
  have nameGiven := complete.username username (List.mem_of_getElem? nameListed)
  have nameValue := columnValues_ne_null nameGiven nameListed (loaded.values "username" (by decide))
  have second := given_ok rfl nameValue
  obtain ⟨latitude, third, north⟩ := coordinate_ok isRange_latitude complete.latitude
    verticalListed (loaded.values "latitude" (by decide))
  obtain ⟨longitude, fourth, east⟩ := coordinate_ok isRange_longitude complete.longitude
    horizontalListed (loaded.values "longitude" (by decide))
  obtain ⟨genres, -, genresFound⟩ := loaded.tags "genres" (by decide)
  obtain ⟨instruments, -, instrumentsFound⟩ := loaded.tags "instruments" (by decide)
  obtain ⟨s, success, params⟩ := exists_userStatement first second
    (Option.isSome_iff_exists.mpr ⟨_, genresFound⟩)
    (Option.isSome_iff_exists.mpr ⟨_, instrumentsFound⟩) third fourth
  exact ⟨s, id, username, latitude, longitude, success, idListed, nameListed, params, north, east⟩

omit complete in
/-- A text that may be missing can be read exactly if it is or its column keeps texts. -/
theorem optional_text_iff {name : String} (listed : name ∈ ["name", "bio", "avatar_url"]) :
    (∃ a, optional text (row.getOrNull name) = .accepted a) ↔
      ∀ cell, (cellsUnder header lines name)[i]? = some cell →
        isMissing cell = true ∨ ReadAsTexts (cellsUnder header lines name) := by
  have among : name ∈ ["username", "name", "bio", "avatar_url", "latitude", "longitude"] := by
    revert name
    decide
  obtain ⟨cell, found⟩ := loaded.cells name
  rw [optional_columnValues_iff found (loaded.values name among)]
  constructor
  · intro kept other found'
    cases found.symm.trans found'
    exact kept
  · exact fun kept => kept cell found

/-- The user is read back from its parameters exactly if its texts are kept. -/
theorem readBack_iff {id username : String} {latitude longitude : Option Float}
    (found : (cellsUnder header lines "username")[i]? = some username)
    (north : ∀ x ∈ latitude, isLatitude x = true) (east : ∀ x ∈ longitude, isLongitude x = true) :
    ReadBack (userParams row (.text id) (row.getOrNull "username") (.ofOption .float latitude)
      (.ofOption .float longitude)) id username ↔ KeepsTexts header lines i := by
  have kept := text_columnValues_iff (complete.username username (List.mem_of_getElem? found)) found
    (loaded.values "username" (by decide))
  obtain ⟨genres, different, genresFound⟩ := loaded.tags "genres" (by decide)
  obtain ⟨instruments, different', instrumentsFound⟩ := loaded.tags "instruments" (by decide)
  have genresValue : row.getOrNull "genres" = .ofTexts genres := by
    rw [Record.getOrNull, genresFound, Option.getD_some]
  have instrumentsValue : row.getOrNull "instruments" = .ofTexts instruments := by
    rw [Record.getOrNull, instrumentsFound, Option.getD_some]
  obtain ⟨location, stored, placed⟩ := @place_of_degrees
    (userParams row (.text id) (row.getOrNull "username") (.ofOption .float latitude)
      (.ofOption .float longitude)) latitude longitude rfl rfl north east
  constructor
  -- The other texts may be read as anything; that they can be read at all is what is used.
  · rintro ⟨p, read, -, named, -⟩
    rw [profile_storedUser_ok_iff] at read
    obtain ⟨-, -, usernameRead, nameRead, bioRead, avatarRead, -⟩ := read
    rw [named] at usernameRead
    refine ⟨kept.mp usernameRead, ?_⟩
    simp only [List.forall_mem_cons, List.not_mem_nil, IsEmpty.forall_iff, implies_true, and_true]
    exact ⟨(loaded.optional_text_iff (by decide)).mp ⟨_, nameRead⟩,
      (loaded.optional_text_iff (by decide)).mp ⟨_, bioRead⟩,
      (loaded.optional_text_iff (by decide)).mp ⟨_, avatarRead⟩⟩
  · rintro ⟨texts, others⟩
    obtain ⟨name, nameRead⟩ :=
      (loaded.optional_text_iff (by decide)).mpr (others "name" (by decide))
    obtain ⟨bio, bioRead⟩ := (loaded.optional_text_iff (by decide)).mpr (others "bio" (by decide))
    obtain ⟨avatar, avatarRead⟩ :=
      (loaded.optional_text_iff (by decide)).mpr (others "avatar_url" (by decide))
    refine ⟨⟨id, username, name, bio, avatar, genres, instruments, location, 0, 0, 0, none, false⟩,
      (profile_storedUser_ok_iff ..).mpr ⟨placed, rfl, kept.mpr texts, nameRead, bioRead,
        avatarRead, ?_, ?_, rfl, rfl, rfl, rfl, rfl⟩, rfl, rfl, genresValue, instrumentsValue,
      stored⟩
    · rw [genresValue]
      exact tags_ofTexts different
    · rw [instrumentsValue]
      exact tags_ofTexts different'

end Loaded

/-- A user of such a file can always be written, and a seeding that ends well has sent the
statements of all of them, in order; whatever the graph answers, it sends no others. A user is read
back from its statement exactly if its texts are kept. -/
theorem users_readBack_iff {files : Files} {text : String} {t : Table}
    (given : files "musicians.csv" = some text) (parsed : Csv.lines text = .ok (header, lines))
    (complete : Complete header lines) (loaded : loadMusicians files = .ok t) :
    t.rows.length = lines.length ∧
      (∀ settings graph threshold count, SendsPhase "username" (t.rows.map userStatement)
        ((run settings files).run graph threshold count)) ∧
      ∀ (i : Nat) (row : Record), t.rows[i]? = some row →
        ∃ s id username, userStatement row = .ok s ∧
          (cellsUnder header lines "id")[i]? = some id ∧
          (cellsUnder header lines "username")[i]? = some username ∧
          (ReadBack s.params id username ↔ KeepsTexts header lines i) := by
  obtain ⟨size, rows⟩ := loadMusicians_rows given parsed loaded
  refine ⟨size, fun settings graph threshold count =>
    sendsUsers_of_musicians settings graph threshold count loaded, fun i row kept => ?_⟩
  have held := rows i row kept
  obtain ⟨s, id, username, latitude, longitude, success, idListed, nameListed, params, vertical,
    horizontal⟩ := held.exists_statement complete
  refine ⟨s, id, username, success, idListed, nameListed, ?_⟩
  rw [params]
  exact held.readBack_iff complete nameListed vertical horizontal

def annFile : String := "id,username,genres,instruments,latitude\n1,ann,jazz,,52\n"

def annFiles : Files := filesOf annFile "follower,followed\n"

/-- The columns of the files of one musician. -/
def oneHeader : List String := ["id", "username", "genres", "instruments", "latitude"]

theorem users_readBack_iff_ann :
    Csv.lines annFile = .ok (oneHeader, [["1", "ann", "jazz", "", "52"]]) ∧
      Complete oneHeader [["1", "ann", "jazz", "", "52"]] ∧
      ∃ t, loadMusicians annFiles = .ok t ∧ t.rows.length = 1 ∧
        (∀ settings graph threshold count, SendsPhase "username" (t.rows.map userStatement)
          ((run settings annFiles).run graph threshold count)) ∧
        ∀ (i : Nat) (row : Record), t.rows[i]? = some row →
          ∃ s id username, userStatement row = .ok s ∧
            (cellsUnder oneHeader [["1", "ann", "jazz", "", "52"]] "id")[i]? = some id ∧
            (cellsUnder oneHeader [["1", "ann", "jazz", "", "52"]] "username")[i]? =
              some username ∧
            (ReadBack s.params id username ↔
              KeepsTexts oneHeader [["1", "ann", "jazz", "", "52"]] i) := by
  have given : annFiles "musicians.csv" = some annFile := rfl
  have parsed : Csv.lines annFile = .ok (oneHeader, [["1", "ann", "jazz", "", "52"]]) := by rfl
  have latitude : IsNumberIn isLatitude "52" := by
    have inside : isSigned false 52 = true ∧
        isLatitude (Float.ofInt (Binary64.signed false 52)) = true := by
      decide +kernel
    exact inside
  have complete : Complete oneHeader [["1", "ann", "jazz", "", "52"]] := by
    constructor
    case latitude =>
      have cells : cellsUnder oneHeader [["1", "ann", "jazz", "", "52"]] "latitude" = ["52"] := by
        decide +kernel
      rw [cells]
      exact List.forall_mem_singleton.mpr (.inr latitude)
    case longitude =>
      have cells : cellsUnder oneHeader [["1", "ann", "jazz", "", "52"]] "longitude" = [""] := by
        decide +kernel
      rw [cells]
      exact List.forall_mem_singleton.mpr (.inl rfl)
    all_goals decide +kernel
  have loaded : ∃ t, loadMusicians annFiles = .ok t := ⟨_, rfl⟩
  obtain ⟨t, success⟩ := loaded
  exact ⟨parsed, complete, t, success, users_readBack_iff given parsed complete success⟩

/-- A file of one musician whose username is a number. -/
def sevenFile : String := "id,username,genres,instruments,latitude\n1,7,,,\n"

/-- The user is written, but the profile cannot be read. -/
theorem users_unreadable_seven :
    Csv.lines sevenFile = .ok (oneHeader, [["1", "7", "", "", ""]]) ∧
      Complete oneHeader [["1", "7", "", "", ""]] ∧
      (loadMusicians fun _ => some sevenFile).toOption.map (fun t => t.rows.map fun row =>
        (userStatement row).toOption.map fun s =>
          (Stored.profile (storedUser s.params)).outcome.toOption.isSome) = some [some false] := by
  have missing : ∀ name ∈ ["latitude", "longitude"],
      cellsUnder oneHeader [["1", "7", "", "", ""]] name = [""] := by
    decide +kernel
  refine ⟨by rfl, ⟨by decide +kernel, by decide +kernel, ?_, ?_⟩, by decide +kernel⟩
  · rw [missing "latitude" (by decide)]
    exact List.forall_mem_singleton.mpr (.inl rfl)
  · rw [missing "longitude" (by decide)]
    exact List.forall_mem_singleton.mpr (.inl rfl)

end Users

end Seed

end MusicianGraph
