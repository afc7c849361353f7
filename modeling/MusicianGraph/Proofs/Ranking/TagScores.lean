import MusicianGraph.Proofs.Model.TagCells
import MusicianGraph.Proofs.Ranking.Strategies
import MusicianGraph.Proofs.Seed.Phases
import MusicianGraph.Proofs.Service.ReadBack

/-! # What the overlap of tags counts

Tags come from lists that users enter and from cells of the musicians' file, and each way has its
own code that cleans them. Both ways give the same: every normal form of an entry once, but no blank
one. So once they are stored and read back, the overlap of two users is the number of normal forms
that their entries share. -/

namespace MusicianGraph

/-- The column of a tag list. -/
def TagField.name : TagField → String
  | genres => "genres"
  | instruments => "instruments"

/-- Where a tag list comes from. -/
inductive TagSource where
  /-- A list that a user enters. -/
  | entered (values : List Value)
  /-- A cell with bars between its entries. -/
  | seeded (cell : Value)

namespace TagSource

/-- Is a cell null, or a number that is none? -/
def isMissing : Value → Bool
  | .null => true
  | .float x => !(x == x)
  | _ => false

def entries : TagSource → List String
  | entered values => values.map Value.shownText
  | seeded cell =>
      if isMissing cell then [] else (cell.shownText.toList.splitOn '|').map String.ofList

/-- The normal forms of the entries, of which blank ones do not count. -/
def normalized (source : TagSource) : Finset String :=
  (source.entries.map Tag.ofText).toFinset.erase ""

def cleaned : TagSource → List String
  | entered values => Tag.cleanTexts (values.map Value.shownText)
  | seeded cell => Tag.ofCellValue cell

theorem ofCellValue_eq (cell : Value) :
    Tag.ofCellValue cell = if isMissing cell then [] else Tag.ofCell cell.shownText := by
  cases cell with
  | float x =>
    change (if x == x then Tag.ofCell (numberText x) else []) =
      if (!(x == x)) = true then [] else Tag.ofCell (numberText x)
    cases x == x <;> rfl
  | _ => rfl

/-- Both ways of cleaning keep the same tags. -/
theorem toFinset_cleaned (source : TagSource) : source.cleaned.toFinset = source.normalized := by
  ext t
  rw [List.mem_toFinset, normalized, Finset.mem_erase, List.mem_toFinset]
  cases source with
  | entered values =>
    rw [cleaned, Tag.mem_cleanTexts, entries]
  | seeded cell =>
    rw [cleaned, ofCellValue_eq, entries]
    split
    · simp
    · rw [Tag.ofCell_eq_cleanTexts, Tag.mem_cleanTexts]
      rfl

theorem nodup_cleaned (source : TagSource) : source.cleaned.Nodup := by
  cases source with
  | entered values => exact Tag.nodup_cleanTexts _
  | seeded cell => exact Tag.nodup_ofCellValue cell

end TagSource

/-- The value that is sent for a tag list, given where the tags come from. -/
inductive SendsTags (field : TagField) : TagSource → Value → Prop
  /-- An update of a profile sends it among the properties. -/
  | entered {userId : Value} {changes props : Record} {values : List Value} {graph : Graph}
      {threshold : LogLevel} {count : Nat} {s : Statement}
      (sent : s ∈ ((Profiles.update userId changes).run graph threshold count).statements)
      (given : changes.get? field.name = some (.list values))
      (holds : s.params.getOrNull "props" = .object props) :
      SendsTags field (.entered values) (props.getOrNull field.name)
  /-- A seeding sends it with the user of a row of the musicians' file. -/
  | seeded {settings : Settings} {files : Seed.Files} {graph : Graph} {threshold : LogLevel}
      {count : Nat} {text : String} {raw : Table} {i : Nat} {row : Record} {s : Statement}
      (given : files "musicians.csv" = some text)
      (parsed : Table.ofText (· == "id") text = .ok raw) (found : raw.rows[i]? = some row)
      (sent : (Seed.sentWith "username"
        ((Seed.run settings files).run graph threshold count))[i]? = some s) :
      SendsTags field (.seeded (row.getOrNull field.name)) (s.params.getOrNull field.name)

namespace SendsTags

variable {field : TagField} {source : TagSource} {v : Value}

/-- Whatever the way, the clean tags are sent. -/
theorem eq_cleaned (sends : SendsTags field source v) : v = .ofTexts source.cleaned := by
  cases sends with
  | @entered userId changes props values graph threshold count s sent given holds =>
    have accepted := (Profiles.update_isExchange userId changes).statement_of_sent sent
    obtain ⟨props', location, success, -, rfl⟩ := Profiles.updateStatement_ok accepted
    -- The properties are sent as one object, which is what was written.
    obtain rfl : props' = props := Value.object.inj holds
    have listed : field.name ∈ Profiles.properties ∧ field.name ∈ Profiles.tagProperties := by
      cases field <;> decide
    rcases Profiles.get?_writtenProperties success listed.1 with ⟨none, -⟩ | ⟨w, u, here, made, wrote⟩
    · rw [none] at given
      cases given
    · cases here.symm.trans given
      rw [Profiles.property, if_pos (List.contains_iff_mem.mpr listed.2), map_ok_iff] at made
      obtain ⟨tags, cleaned, same⟩ := made
      cases same
      change Tag.clean values = .ok tags at cleaned
      rw [Tag.clean_eq] at cleaned
      split at cleaned <;> cases cleaned
      rw [Record.getOrNull, wrote]
      rfl
  | @seeded settings files graph threshold count text raw i row s given parsed found sent =>
    have accepted := Seed.userStatement_of_sent settings graph threshold count given parsed found
      sent
    obtain ⟨id, username, latitude, longitude, -, -, -, -, params⟩ := Seed.userStatement_ok accepted
    have passed : s.params.getOrNull field.name = Record.getOrNull
        (Seed.withTags "instruments" (Seed.withTags "genres" row)) field.name := by
      rw [params]
      cases field <;> rfl
    rw [passed, Seed.getOrNull_loaded, if_pos (by cases field <;> simp [TagField.name])]
    rfl

end SendsTags

def UserProfile.withTags (p : UserProfile) (tags : List String) : TagField → UserProfile
  | .genres => { p with genres := tags }
  | .instruments => { p with instruments := tags }

/-- Where a row can be read, it can be read with clean tags in it, and they are read as they are. -/
theorem Stored.profile_put_tags {row : Record} {p : UserProfile}
    (readable : (Stored.profile row).outcome = .ok p) (field : TagField) {tags : List String}
    (different : tags.Nodup) :
    (Stored.profile (row.put field.name (.ofTexts tags))).outcome = .ok (p.withTags tags field) := by
  have clean := Schema.tags_ofTexts different
  rw [Stored.profile_ok_iff] at readable ⊢
  cases field <;>
    simp only [TagField.name, UserProfile.withTags, Record.getOrNull_put, reduceIte,
      String.reduceEq, clean, readable, and_self]

namespace Ranking

theorem getElem?_scoreByTags {tags : List String} {field : TagField} {candidates : List UserProfile}
    {i : Nat} {c : UserProfile} (listed : candidates[i]? = some c) :
    (scoreByTags tags field candidates)[i]? =
      some ⟨c, some (Float.ofNat (tags.toFinset ∩ (c.tagsIn field).toFinset).card)⟩ := by
  rw [scoreByTags, List.getElem?_map, listed, Option.map_some, tagOverlap_eq_card]

/-- The score by a tag list whose tags came from anywhere, were stored, and were read back: the
number of normal forms that the entries on both sides share. Either user has this score for the
other. -/
theorem scoreByTags_of_sources (field : TagField) {xs ys : TagSource} {v w : Value}
    (mine : SendsTags field xs v) (yours : SendsTags field ys w) {row row' : Record}
    {p q : UserProfile} (readable : (Stored.profile row).outcome = .ok p)
    (readable' : (Stored.profile row').outcome = .ok q) :
    ∃ me you, (Stored.profile (row.put field.name v)).outcome = .ok me ∧
      (Stored.profile (row'.put field.name w)).outcome = .ok you ∧
      (∀ (candidates : List UserProfile) (i : Nat), candidates[i]? = some you →
        (scoreByTags (me.tagsIn field) field candidates)[i]? =
          some ⟨you, some (Float.ofNat (xs.normalized ∩ ys.normalized).card)⟩) ∧
      ∀ (candidates : List UserProfile) (i : Nat), candidates[i]? = some me →
        (scoreByTags (you.tagsIn field) field candidates)[i]? =
          some ⟨me, some (Float.ofNat (xs.normalized ∩ ys.normalized).card)⟩ := by
  rw [mine.eq_cleaned, yours.eq_cleaned]
  have read := Stored.profile_put_tags readable field xs.nodup_cleaned
  have read' := Stored.profile_put_tags readable' field ys.nodup_cleaned
  have tags : (p.withTags xs.cleaned field).tagsIn field = xs.cleaned := by cases field <;> rfl
  have tags' : (q.withTags ys.cleaned field).tagsIn field = ys.cleaned := by cases field <;> rfl
  refine ⟨_, _, read, read', ?_, ?_⟩
  · intro candidates i listed
    rw [getElem?_scoreByTags listed, tags, tags', xs.toFinset_cleaned, ys.toFinset_cleaned]
  · intro candidates i listed
    rw [getElem?_scoreByTags listed, tags, tags', xs.toFinset_cleaned, ys.toFinset_cleaned,
      Finset.inter_comm]

section Sample

def enteredGenres : List Value := [.text " Jazz", .text "jazz", .text "ROCK "]

def genresFile : String := "id,username,genres,instruments\n1,ann,rock| Jazz,\n"

def genresFiles : Seed.Files := Seed.filesOf genresFile "follower,followed\n"

/-- A row of a user without tags. -/
def userRow : Record := [("user_id", .text "me"), ("username", .text "me")]

theorem scoreByTags_of_sources_genres :
    SendsTags .genres (.entered enteredGenres) (.ofTexts ["jazz", "rock"]) ∧
      SendsTags .genres (.seeded (.text "rock| Jazz")) (.ofTexts ["rock", "jazz"]) ∧
      (Stored.profile userRow).outcome.toOption.isSome ∧
      ∃ me you,
        (Stored.profile (userRow.put "genres" (.ofTexts ["jazz", "rock"]))).outcome = .ok me ∧
        (Stored.profile (userRow.put "genres" (.ofTexts ["rock", "jazz"]))).outcome = .ok you ∧
        (scoreByTags me.genres .genres [you])[0]? = some ⟨you, some (Float.ofNat
          ((TagSource.entered enteredGenres).normalized ∩
            (TagSource.seeded (.text "rock| Jazz")).normalized).card)⟩ := by
  have known : Profiles.unknownFields [("genres", .list enteredGenres)] = [] := by decide +kernel
  have accepted : Profiles.updateStatement (.text "me") [("genres", .list enteredGenres)] =
      .ok ⟨Profiles.updateText false,
        [("user_id", .text "me"), ("props", .object [("genres", .ofTexts ["jazz", "rock"])])]⟩ := by
    rw [Profiles.updateStatement, known]
    rfl
  have updated := ((Profiles.update_isExchange _ _).sent accepted (fun _ _ => .rows []) .info 0).1
  have mine : SendsTags .genres (.entered enteredGenres) (.ofTexts ["jazz", "rock"]) :=
    .entered (updated ▸ List.mem_singleton_self _) rfl rfl
  have parsed : Table.ofText (· == "id") genresFile =
      .ok ⟨["id", "username", "genres", "instruments"], [[("id", .text "1"),
        ("username", .text "ann"), ("genres", .text "rock| Jazz"), ("instruments", .null)]]⟩ := by
    rfl
  have loaded : Seed.load genresFiles =
      .ok ⟨⟨["id", "username", "genres", "instruments"], [[("id", .text "1"),
        ("username", .text "ann"), ("genres", .ofTexts ["rock", "jazz"]),
        ("instruments", .ofTexts [])]]⟩, ⟨["follower", "followed"], []⟩, none, none⟩ := by
    rfl
  have seeded : ∃ s, (Seed.sentWith "username"
      ((Seed.run .standard genresFiles).run (fun _ _ => .rows []) .info 0))[0]? = some s ∧
        s.params.getOrNull "genres" = .ofTexts ["rock", "jazz"] := by
    rw [Seed.sentWith, Seed.statements_eq loaded]
    exact ⟨_, rfl, rfl⟩
  obtain ⟨s, sent, tags⟩ := seeded
  have yours : SendsTags .genres (.seeded (.text "rock| Jazz")) (.ofTexts ["rock", "jazz"]) := by
    rw [← tags]
    exact @SendsTags.seeded .genres .standard genresFiles _ _ _ _ _ 0 _ _ rfl parsed rfl sent
  have readable : (Stored.profile userRow).outcome =
      .ok ⟨"me", "me", none, none, none, [], [], none, 0, 0, 0, none, false⟩ := rfl
  obtain ⟨me, you, read, read', scores, -⟩ :=
    scoreByTags_of_sources .genres mine yours readable readable
  exact ⟨mine, yours, congrArg (fun e => e.toOption.isSome) readable, me, you, read, read',
    scores [you] 0 rfl⟩

end Sample

end Ranking

end MusicianGraph
