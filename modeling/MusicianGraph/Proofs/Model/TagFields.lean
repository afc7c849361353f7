import MusicianGraph.Proofs.Graph.StoredRows
import MusicianGraph.Proofs.Model.Tags
import MusicianGraph.Proofs.Schema.Verdicts
import MusicianGraph.Proofs.Value.Distinct

/-! # Fields of tags

Repetitions are dropped before the items are looked at, by sameness across all kinds of values. So
what is wrong with a list is told once for each class of items that are no texts, and placed by what
is left of the items before. -/

namespace MusicianGraph

open Schema

namespace Tag

/-- The texts that a value lists: none if it is null, the characters of a text, the names of an
object, and the items of a list or the coordinates of a point if all of them are texts. -/
inductive ListedIn : Value → List String → Prop
  | null : ListedIn .null []
  | text (s : String) : ListedIn (.text s) (s.toList.map fun c => String.ofList [c])
  | object (fields : Record) : ListedIn (.object fields) fields.names
  | list (texts : List String) : ListedIn (.list (texts.map .text)) texts
  | point (x y : String) (srid : Value) : ListedIn (.point (.text x) (.text y) srid) [x, y]

/-- What is wrong with an item at a place. -/
def problem (place : Nat) : Value → Option Problem
  | .text _ => none
  | v => some ⟨[.index place], .notText, v⟩

/-- What is wrong with a list of tags: one problem for the first of each class of items that are no
texts, at the place that is given by the number of classes before it. -/
def problems (items : List Value) : List Problem :=
  (Value.firstPlaces items).filterMap fun place =>
    problem (Value.firstPlaces (items.take place.2)).length place.1

theorem problem_of_not_text {v : Value} (other : ∀ s, v ≠ .text s) (place : Nat) :
    problem place v = some ⟨[.index place], .notText, v⟩ := by
  cases v with
  | text s => exact absurd rfl (other s)
  | _ => rfl

/-- Of a class of items that are no texts, one is told of. -/
theorem countP_problems {items : List Value} (json : ∀ v ∈ items, v.IsJson) {w : Value}
    (listed : w ∈ items) (other : ∀ s, w ≠ .text s) :
    (problems items).countP (fun p => p.input.same w) = 1 := by
  have firsts : items.eraseDups = (Value.firstPlaces items).map Prod.fst := by
    have places := congrArg (List.map Prod.fst) (Value.zipIdx_eraseDups json)
    rw [List.zipIdx_map_fst, List.map_map] at places
    exact places
  rw [← Value.countP_eraseDups json listed, firsts, List.countP_map, problems, List.countP_filterMap]
  refine List.countP_congr fun place _ => ?_
  by_cases text : ∃ s, place.1 = .text s
  · obtain ⟨s, text⟩ := text
    have apart : Value.same (.text s) w ≠ true := fun alike =>
      other s (Value.same_text_iff.mp alike)
    rw [Function.comp_apply, text]
    exact iff_of_false Bool.false_ne_true apart
  · rw [problem_of_not_text (not_exists.mp text)]
    rfl

theorem problems_ne_nil {items : List Value} (json : ∀ v ∈ items, v.IsJson)
    (other : ∃ w ∈ items, ∀ s, w ≠ .text s) : problems items ≠ [] := by
  obtain ⟨w, listed, other⟩ := other
  intro none
  have one := countP_problems json listed other
  rw [none] at one
  cases one

end Tag

section Items

variable {items : List Value} {found : List String}

/-- Items are judged one by one. -/
theorem verdict_ofItems (start : Nat) (items : List Value) :
    (Reading.ofItems text start items).verdict =
      .ok ((items.zipIdx start).filterMap fun item => Tag.problem item.2 item.1) := by
  induction items generalizing start with
  | nil => rfl
  | cons v rest ih =>
    rw [Reading.ofItems, Reading.verdict_seq, Reading.verdict_map, ih, Reading.verdict_within,
      List.zipIdx_cons]
    cases v <;> rfl

/-- Items are accepted without repetitions exactly if they are texts. -/
theorem ofItems_eraseDups_accepted_iff :
    Reading.ofItems text 0 items.eraseDups = .accepted found ↔
      ∃ texts : List String, items = texts.map .text ∧ found = texts.eraseDups := by
  rw [ofItems_text_accepted_iff]
  constructor
  · intro kept
    have all : ∀ v ∈ items, v ∈ Set.range Value.text := by
      intro v listed
      have textual : ∀ k ∈ items.eraseDups, k ∈ Set.range Value.text := by
        rw [kept]
        exact fun k member => (List.mem_map.mp member).imp fun _ => And.right
      rcases Value.mem_eraseDups_or_same listed with here | ⟨k, here, alike⟩
      · exact textual v here
      · obtain ⟨s, rfl⟩ := textual k here
        exact ⟨s, (Value.eq_text_of_same alike).symm⟩
    obtain ⟨texts, rfl⟩ : items ∈ Set.range (List.map Value.text) := by
      rw [Set.range_list_map]
      exact all
    refine ⟨texts, rfl, ?_⟩
    rw [Value.eraseDups_map_text] at kept
    exact (List.map_injective_iff.mpr (fun _ _ => Value.text.inj) kept).symm
  · rintro ⟨texts, rfl, rfl⟩
    exact Value.eraseDups_map_text texts

end Items

section Tags

variable {v : Value}

/-- A value lists texts if it is gone through by them. -/
theorem listedIn_iff (filled : v ≠ .null) {texts : List String} :
    Tag.ListedIn v texts ↔ v.items? = some (texts.map .text) := by
  have injective : Function.Injective (List.map Value.text) :=
    List.map_injective_iff.mpr fun _ _ => Value.text.inj
  constructor
  · rintro (_ | s | fields | texts | ⟨x, y, srid⟩)
    · exact absurd rfl filled
    · rw [Value.items?, List.map_map]
      rfl
    · rw [Value.items?, Record.names, List.map_map]
      rfl
    · rfl
    · rfl
  · intro listed
    cases v with
    | text s =>
      rw [Value.items?, Option.some.injEq] at listed
      obtain rfl : (s.toList.map fun c => String.ofList [c]) = texts :=
        injective (by rw [← listed, List.map_map]; rfl)
      exact .text s
    | object fields =>
      rw [Value.items?, Option.some.injEq] at listed
      obtain rfl : Record.names fields = texts :=
        injective (by rw [← listed, Record.names, List.map_map]; rfl)
      exact .object fields
    | list items =>
      cases listed
      exact .list texts
    | place p | coordinate name degrees =>
      rw [Value.items?, Option.some.injEq] at listed
      rcases texts with - | ⟨s, - | ⟨t, rest⟩⟩ <;> cases listed
    | point x y srid =>
      rw [Value.items?, Option.some.injEq] at listed
      rcases texts with - | ⟨s, - | ⟨t, - | ⟨u, rest⟩⟩⟩ <;> cases listed
      exact .point s t srid
    | _ => cases listed

/-- Tags are the first occurrences of the texts that a value lists. -/
theorem tags_accepted_iff {found : List String} :
    tags v = .accepted found ↔ ∃ texts, Tag.ListedIn v texts ∧ found = texts.eraseDups := by
  by_cases filled : v = .null
  · subst filled
    constructor
    · intro accepted
      cases accepted
      exact ⟨[], .null, rfl⟩
    · rintro ⟨_, ⟨⟩, rfl⟩
      rfl
  · rw [exists_congr fun texts => and_congr_left' (listedIn_iff filled), tags.eq_2 v filled]
    cases v.items? with
    | none =>
      refine iff_of_false nofun ?_
      rintro ⟨_, none, -⟩
      cases none
    | some items =>
      rw [ofItems_eraseDups_accepted_iff]
      simp only [Option.some.injEq]

theorem verdict_tags_list {items : List Value} (json : ∀ v ∈ items, v.IsJson) :
    (tags (.list items)).verdict = .ok (Tag.problems items) := by
  change (Reading.ofItems text 0 items.eraseDups).verdict = _
  rw [verdict_ofItems, Value.zipIdx_eraseDups json, List.filterMap_map]
  rfl

/-- Numbers cannot be gone through item by item. -/
theorem tags_of_number {a : Value.Quantity} (number : v.quantity? = some a) :
    tags v = .stopped v.kindName := by
  cases v with
  | bool b => rfl
  | int n => rfl
  | float x => rfl
  | _ => cases number

end Tags

/-- What is wrong with a value that can be gone through item by item. -/
def Tag.problemsOf : Value → List Problem
  | .list items => problems items
  | _ => []

theorem verdict_tags_ok {v : Value} (json : v.IsJson) {problems : List Problem}
    (judged : (tags v).verdict = .ok problems) : Tag.problemsOf v = problems := by
  have fine : ∀ {texts}, Tag.ListedIn v texts → problems = [] := by
    intro texts listed
    rw [tags_accepted_iff.mpr ⟨texts, listed, rfl⟩] at judged
    cases judged
    rfl
  cases json with
  | null => exact (fine .null).symm
  | text s => exact (fine (.text s)).symm
  | @object fields => exact (fine (.object fields)).symm
  | list each =>
    rw [verdict_tags_list each] at judged
    exact Except.ok.inj judged
  | _ => cases judged

/-- How a model reads a field of tags. If nothing is wrong with the other fields, the value decides
the outcome: texts that are listed are accepted without repetitions, a list with other items is
rejected for them, and a number is refused altogether. Whatever is wrong with the other fields, the
problems of this one are the same, and a number is still refused. -/
structure ReadsTags {α : Type} (schema : Schema α) (name : String) (field : α → List String) :
    Prop where
  accepted_iff : ∀ {r : Record} {whole : α},
    schema.validate (.object (r.put name .null)) = .ok whole → ∀ (v : Value) (found : List String),
      (∃ a, schema.validate (.object (r.put name v)) = .ok a ∧ field a = found) ↔
        ∃ texts, Tag.ListedIn v texts ∧ found = texts.eraseDups
  rejected : ∀ {r : Record} {whole : α},
    schema.validate (.object (r.put name .null)) = .ok whole → ∀ {items : List Value},
      (∀ v ∈ items, v.IsJson) → (∃ v ∈ items, ∀ s, v ≠ .text s) →
        schema.validate (.object (r.put name (.list items))) =
          .error (.invalid schema.title ((Tag.problems items).map (Problem.within (.field name))))
  refused : ∀ {r : Record} {whole : α},
    schema.validate (.object (r.put name .null)) = .ok whole → ∀ {v : Value},
      v.quantity?.isSome →
        schema.validate (.object (r.put name v)) = .error (.notIterable v.kindName)
  problems : ∀ {r : Record} {v : Value} {problems : List Problem},
    r.get? name = some v → v.IsJson →
      schema.validate (.object r) = .error (.invalid schema.title problems) →
        problems.filter (isIn name) = (Tag.problemsOf v).map (Problem.within (.field name))
  stops : ∀ {r : Record} {v : Value}, r.get? name = some v → v.quantity?.isSome →
    ∃ kind, schema.validate (.object r) = .error (.notIterable kind)

section Models

variable {α : Type}

theorem verdict_of_rejected {schema : Schema α} {v : Value} {title : String}
    {problems : List Problem} (rejected : schema.validate v = .error (.invalid title problems)) :
    (schema.read v).verdict = .ok problems := by
  rw [Schema.validate] at rejected
  cases read : schema.read v <;> rw [read] at rejected <;> cases rejected
  rfl

/-- A model that is read field by field, with tags in one of them. -/
theorem ReadsTags.of_fields {schema : Schema α} {fields : List Schema.Field} {name : String}
    {field : α → List String}
    (judged : ∀ r, (schema.read (.object r)).verdict = judgeAll fields r)
    (distinct : (fields.map Field.name).Nodup) (listed : .defaulted name tags ∈ fields)
    (held : ∀ {r : Record} {a : α}, schema.read (.object r) = .accepted a →
      tags (r.getOrNull name) = .accepted (field a))
    (replaced : ∀ {r : Record} {whole : α} {v : Value} {found : List String},
      schema.read (.object (r.put name .null)) = .accepted whole → tags v = .accepted found →
        ∃ a, schema.read (.object (r.put name v)) = .accepted a) :
    ReadsTags schema name field := by
  have own : ∀ {r : Record} {v : Value}, r.get? name = some v →
      (Field.defaulted name tags).verdict r = (tags v).verdict.within (.field name) :=
    fun given => Field.verdict_of_given given
  have put : ∀ (r : Record) (v : Value), (r.put name v).get? name = some v := fun r v => by
    rw [Record.get?_put, if_pos rfl]
  have alone : ∀ {r : Record} {whole : α},
      schema.validate (.object (r.put name .null)) = .ok whole → ∀ v,
        (schema.read (.object (r.put name v))).verdict =
          (tags v).verdict.within (.field name) := by
    intro r whole accepted v
    rw [Schema.validate, Reading.result_ok_iff] at accepted
    have fine : judgeAll fields (r.put name .null) = .ok [] := by
      rw [← judged, accepted]
      rfl
    rw [judged, judgeAll_alone distinct listed, own (put r v)]
    intro g member other
    have apart : g.name ≠ name := other
    refine Field.verdict_of_same ?_ (judgeAll_eq_nil_iff.mp fine g member)
    rw [Record.get?_put, Record.get?_put, if_neg apart, if_neg apart]
  constructor
  case accepted_iff =>
    intro r whole accepted v found
    rw [← tags_accepted_iff]
    constructor
    · rintro ⟨a, success, rfl⟩
      rw [Schema.validate, Reading.result_ok_iff] at success
      have read := held success
      rwa [Record.getOrNull, put] at read
    · intro read
      rw [Schema.validate, Reading.result_ok_iff] at accepted
      obtain ⟨a, success⟩ := replaced accepted read
      have read' := held success
      rw [Record.getOrNull, put, Option.getD_some, read] at read'
      cases read'
      exact ⟨a, by rw [Schema.validate, success]; rfl, rfl⟩
  case rejected =>
    intro r whole accepted items json other
    have verdict := alone accepted (.list items)
    rw [verdict_tags_list json] at verdict
    have wrong : (Tag.problems items).map (Problem.within (.field name)) ≠ [] := fun none =>
      Tag.problems_ne_nil json other (List.map_eq_nil_iff.mp none)
    rw [Schema.validate, Reading.rejected_of_verdict wrong verdict]
    rfl
  case refused =>
    intro r whole accepted v number
    obtain ⟨a, number⟩ := Option.isSome_iff_exists.mp number
    have verdict := alone accepted v
    rw [tags_of_number number] at verdict
    rw [Schema.validate, Reading.stopped_of_verdict verdict]
    rfl
  case problems =>
    intro r v problems given json rejected
    have verdict := verdict_of_rejected rejected
    rw [judged] at verdict
    have mine := filter_judgeAll distinct listed verdict
    rw [own given] at mine
    obtain ⟨inner, told, same⟩ := Verdict.within_eq_ok_iff.mp mine
    rw [verdict_tags_ok json told]
    exact same.symm
  case stops =>
    intro r v given number
    obtain ⟨a, number⟩ := Option.isSome_iff_exists.mp number
    have stop := own given
    rw [tags_of_number number] at stop
    obtain ⟨kind, stopped⟩ := judgeAll_of_stop listed stop
    rw [← judged] at stopped
    exact ⟨kind, by rw [Schema.validate, Reading.stopped_of_verdict stopped]; rfl⟩

namespace UserProfile

theorem readsTags_genres : ReadsTags schema "genres" genres := by
  refine .of_fields verdict_ofRecord (by decide) (by simp [fieldRules]) ?_ ?_
  · intro r p accepted
    exact ((ofRecord_accepted_iff r p).mp accepted).2.2.2.2.2.1
  · intro r p v found accepted read
    refine ⟨{ p with genres := found }, (ofRecord_accepted_iff _ _).mpr ?_⟩
    have others := (ofRecord_accepted_iff _ _).mp accepted
    simp only [Record.getOrNull_put] at others ⊢
    simp_all

theorem readsTags_instruments : ReadsTags schema "instruments" instruments := by
  refine .of_fields verdict_ofRecord (by decide) (by simp [fieldRules]) ?_ ?_
  · intro r p accepted
    exact ((ofRecord_accepted_iff r p).mp accepted).2.2.2.2.2.2.1
  · intro r p v found accepted read
    refine ⟨{ p with instruments := found }, (ofRecord_accepted_iff _ _).mpr ?_⟩
    have others := (ofRecord_accepted_iff _ _).mp accepted
    simp only [Record.getOrNull_put] at others ⊢
    simp_all

end UserProfile

theorem Post.readsTags_genreFilters : ReadsTags schema "genre_filters" genreFilters := by
  refine .of_fields verdict_ofRecord (by decide) (by simp [fieldRules]) ?_ ?_
  · intro r p accepted
    exact ((ofRecord_accepted_iff r p).mp accepted).2.2.2.2.2.2.1
  · intro r p v found accepted read
    refine ⟨{ p with genreFilters := found }, (ofRecord_accepted_iff _ _).mpr ?_⟩
    have others := (ofRecord_accepted_iff _ _).mp accepted
    simp only [Record.getOrNull_put] at others ⊢
    simp_all

end Models

/-- The genres and instruments of profiles and the genres of posts are all read as tags. Tags that
are accepted are all different; sameness is an equivalence on what JSON can hold, and a list is
rejected once for each class of items that are no texts. -/
theorem models_readTags :
    ReadsTags UserProfile.schema "genres" UserProfile.genres ∧
      ReadsTags UserProfile.schema "instruments" UserProfile.instruments ∧
      ReadsTags Post.schema "genre_filters" Post.genreFilters ∧
      (∀ texts : List String, texts.eraseDups.Nodup) ∧
      (Equivalence fun v w : { v : Value // v.IsJson } => v.val.same w.val = true) ∧
      ∀ items : List Value, (∀ v ∈ items, v.IsJson) → ∀ w ∈ items, (∀ s, w ≠ .text s) →
        (Tag.problems items).countP (fun p => p.input.same w) = 1 := by
  refine ⟨UserProfile.readsTags_genres, UserProfile.readsTags_instruments,
    Post.readsTags_genreFilters, nodup_eraseDups, ⟨?_, ?_, ?_⟩, ?_⟩
  · exact fun v => v.property.same_refl
  · exact fun {v w} alike => v.property.same_symm w.property alike
  · exact fun {v w u} first second =>
      v.property.same_trans w.property u.property first second
  · exact fun items json w listed other => Tag.countP_problems json listed other

/-- Items of which three are worth one. -/
def mixedItems : List Value :=
  [.text "jazz", .int 1, .bool true, .float 1.0, .text "jazz", .null]

theorem models_readTags_mixed :
    (∀ v ∈ mixedItems, v.IsJson) ∧ (∃ v ∈ mixedItems, ∀ s, v ≠ .text s) ∧
      UserProfile.schema.validate (.object (Record.put
        [("user_id", .text "me"), ("username", .text "me")] "genres" (.list mixedItems))) =
        .error (.invalid "UserProfile"
          ((Tag.problems mixedItems).map (Problem.within (.field "genres")))) ∧
      (Tag.problems mixedItems).map (fun p => (p.path, p.issue)) =
        [([.index 1], .notText), ([.index 2], .notText)] := by
  have json : ∀ v ∈ mixedItems, v.IsJson := by
    simp only [mixedItems, List.forall_mem_cons, List.not_mem_nil, IsEmpty.forall_iff,
      implies_true, and_true]
    exact ⟨.text _, .int _, .bool _, .float (by decide +kernel), .text _, .null⟩
  have other : ∃ v ∈ mixedItems, ∀ s, v ≠ .text s := ⟨.null, by simp [mixedItems], nofun⟩
  have others : UserProfile.schema.validate (.object (Record.put
      [("user_id", .text "me"), ("username", .text "me")] "genres" .null)) =
      .ok ⟨"me", "me", none, none, none, [], [], none, 0, 0, 0, none, false⟩ := rfl
  exact ⟨json, other, models_readTags.1.rejected others json other, by decide +kernel⟩

end MusicianGraph
