import MusicianGraph.Proofs.Model.Tags
import MusicianGraph.Proofs.Service.Writes

/-! # When a write is refused

A write is refused over its arguments alone: all checks are made while the statement is put
together, so a refused write has sent nothing. For each write the arguments that are refused are
described here exactly, by what is wrong with them. -/

namespace MusicianGraph

variable {α β : Type}

/-- There is a failure in place of a result. -/
def Refused (outcome : Except Failure α) : Prop := ∃ f, outcome = .error f

namespace Refused

theorem error (f : Failure) : Refused (.error f : Except Failure α) := ⟨f, rfl⟩

@[simp] theorem not_ok (a : α) : ¬ Refused (.ok a : Except Failure α) := by
  rintro ⟨f, absurd⟩
  cases absurd

/-- What is not refused has a result. -/
theorem exists_ok {outcome : Except Failure α} (accepted : ¬ Refused outcome) :
    ∃ a, outcome = .ok a := by
  cases outcome with
  | ok a => exact ⟨a, rfl⟩
  | error f => exact absurd (error f) accepted

theorem map_iff (f : α → β) (outcome : Except Failure α) :
    Refused (outcome.map f) ↔ Refused outcome := by
  cases outcome with
  | ok a => exact iff_of_false (not_ok _) (not_ok _)
  | error e => exact iff_of_true (error e) (error e)

/-- Two steps are refused if the first one is, or the second one in all cases. -/
theorem bind_iff {condition : Prop} (outcome : Except Failure α) {next : α → Except Failure β}
    (second : ∀ a, Refused (next a) ↔ condition) :
    Refused (outcome >>= next) ↔ Refused outcome ∨ condition := by
  cases outcome with
  | ok a => exact (second a).trans (or_iff_right (not_ok a)).symm
  | error e => exact iff_of_true (error e) (.inl (error e))

/-- A last step that always has a result refuses nothing. -/
theorem bind_total_iff (outcome : Except Failure α) {next : α → Except Failure β}
    (total : ∀ a, ¬ Refused (next a)) : Refused (outcome >>= next) ↔ Refused outcome := by
  have last := bind_iff outcome fun a => iff_of_false (total a) not_false
  rw [or_false] at last
  exact last

/-- A list is refused over one of its items. -/
theorem mapM_iff (f : α → Except Failure β) (items : List α) :
    Refused (items.mapM f) ↔ ∃ a ∈ items, Refused (f a) := by
  induction items with
  | nil => exact iff_of_false (not_ok _) (by simp)
  | cons a rest ih =>
    have others : ∀ b, Refused (do let bs ← rest.mapM f; pure (b :: bs)) ↔
        ∃ c ∈ rest, Refused (f c) := by
      intro b
      exact (bind_total_iff (rest.mapM f) fun bs => not_ok (b :: bs)).trans ih
    rw [List.mapM_cons]
    refine (bind_iff (f a) others).trans ?_
    simp only [List.mem_cons, exists_eq_or_imp]

end Refused

section Arguments

/-- Neither null nor something that can be gone through item by item, or one of its items is too
long to be shown. -/
def Untaggable (v : Value) : Prop :=
  v ≠ .null ∧ v.items? = none ∨ ∃ items, v.items? = some items ∧ ∃ item ∈ items, item.IsTooLong

/-- Neither null nor readable as a place. -/
def Misplaced (v : Value) : Prop := v ≠ .null ∧ ∀ p, GeoPoint.read v ≠ .accepted p

/-- Neither null nor the name of a media type. -/
def Unplayable (v : Value) : Prop := v ≠ .null ∧ ∀ m : MediaType, v ≠ .text m.name

/-- Null, or empty, or false, or a zero. -/
inductive IsVoid : Value → Prop
  | null : IsVoid .null
  | text : IsVoid (.text "")
  | list : IsVoid (.list [])
  | object : IsVoid (.object [])
  | false : IsVoid (.bool false)
  | int : IsVoid (.int 0)
  | float {x : Float} (zero : (x == 0.0) = true) : IsVoid (.float x)

theorem isTruthy_eq_false_iff (v : Value) : v.isTruthy = false ↔ IsVoid v := by
  constructor
  · intro untrue
    cases v with
    | null => exact .null
    | bool b => cases b with
      | false => exact .false
      | true => cases untrue
    | int n =>
      rw [Value.isTruthy, bne_eq_false_iff_eq] at untrue
      exact untrue ▸ .int
    | float x =>
      rw [Value.isTruthy, Bool.not_eq_false'] at untrue
      exact .float untrue
    | text s =>
      rw [Value.isTruthy, Bool.not_eq_false', String.isEmpty_iff] at untrue
      exact untrue ▸ .text
    | list items =>
      rw [Value.isTruthy, Bool.not_eq_false', List.isEmpty_iff] at untrue
      exact untrue ▸ .list
    | object fields =>
      rw [Value.isTruthy, Bool.not_eq_false', List.isEmpty_iff] at untrue
      exact untrue ▸ .object
    | _ => cases untrue
  · intro void
    cases void with
    | float zero =>
      rw [Value.isTruthy, zero]
      rfl
    | _ => rfl

/-- An optional text is void if there is none or it is empty. -/
theorem isVoid_ofOption_text_iff (s : Option String) :
    IsVoid (.ofOption .text s) ↔ s.getD "" = "" := by
  cases s with
  | none => exact iff_of_true .null rfl
  | some s =>
    constructor
    · intro void
      cases void
      rfl
    · rintro (rfl : s = "")
      exact .text

theorem Tag.refused_clean_iff (values : List Value) :
    Refused (clean values) ↔ ∃ v ∈ values, v.IsTooLong := by
  have showable : ¬ Value.areShowable values = true ↔ ∃ v ∈ values, v.IsTooLong := by
    rw [Value.areShowable_iff_short]
    push Not
    rfl
  rw [clean_eq, ← showable]
  split
  next all => exact iff_of_false (Refused.not_ok _) (not_not_intro all)
  next hidden => exact iff_of_true (.error _) hidden

theorem Tag.refused_cleanValue_iff (v : Value) : Refused (cleanValue v) ↔ Untaggable v := by
  by_cases null : v = .null
  · subst null
    refine iff_of_false (Refused.not_ok _) ?_
    rintro (⟨other, -⟩ | ⟨items, absurd, -⟩)
    · exact other rfl
    · cases absurd
  · rw [cleanValue.eq_2 v null, Untaggable]
    cases listed : v.items? with
    | none => exact iff_of_true (.error _) (.inl ⟨null, rfl⟩)
    | some items =>
      rw [or_iff_right fun bad => nomatch bad.2]
      simp only [Option.some.injEq, exists_eq_left']
      exact refused_clean_iff items

theorem Reading.refused_result_iff (title : String) (r : Reading α) :
    Refused (r.result title) ↔ ∀ a, r ≠ .accepted a := by
  cases r with
  | accepted a => exact iff_of_false (Refused.not_ok a) fun none => none a rfl
  | rejected problems => exact iff_of_true (.error _) fun a => nofun
  | stopped kind => exact iff_of_true (.error _) fun a => nofun

theorem refused_locationParams_iff (v : Value) : Refused (locationParams v) ↔ Misplaced v := by
  by_cases null : v = .null
  · subst null
    exact iff_of_false (Refused.not_ok _) fun bad => bad.1 rfl
  · rw [locationParams.eq_2 v null, Refused.map_iff, Schema.validate, Reading.refused_result_iff]
    exact (and_iff_right null).symm

/-- The names of the media types are all that is read as one. -/
theorem MediaType.read_accepted_iff (v : Value) (m : MediaType) :
    read v = .accepted m ↔ v = .text m.name := by
  constructor
  · intro accepted
    cases v with
    | text s =>
      rw [read] at accepted
      cases found : ofName? s with
      | none => rw [found] at accepted; cases accepted
      | some n =>
        rw [found] at accepted
        cases accepted
        have named := List.find?_some found
        rw [beq_iff_eq] at named
        rw [named]
    | _ => cases accepted
  · rintro rfl
    cases m <;> rfl

theorem Posts.refused_writtenMediaType_iff (v : Value) :
    Refused (writtenMediaType v) ↔ Unplayable v := by
  have readable : (∀ m : MediaType, v ≠ .text m.name) ↔ ∀ m, MediaType.read v ≠ .accepted m := by
    simp only [ne_eq, MediaType.read_accepted_iff]
  by_cases null : v = .null
  · subst null
    exact iff_of_false (Refused.not_ok _) fun bad => bad.1 rfl
  · rw [writtenMediaType.eq_2 v null, Unplayable, readable, and_iff_right null]
    cases MediaType.read v with
    | accepted m => exact iff_of_false (Refused.not_ok _) fun none => none m rfl
    | rejected problems => exact iff_of_true (.error _) fun m => nofun
    | stopped kind => exact iff_of_true (.error _) fun m => nofun

end Arguments

section Statements

namespace Profiles

theorem unknownFields_isEmpty_iff (changes : Record) :
    (unknownFields changes).isEmpty = true ↔
      ¬ ∃ name ∈ Record.names changes, name ∉ properties ∧ name ≠ "location" := by
  rw [List.isEmpty_iff, List.eq_nil_iff_forall_not_mem, not_exists]
  refine forall_congr' fun name => not_congr ?_
  rw [unknownFields, List.mem_mergeSort, List.mem_filter, List.mem_eraseDups]
  simp

theorem refused_property_iff (name : String) (v : Value) :
    Refused (property name v) ↔ name ∈ tagProperties ∧ Untaggable v := by
  rw [property, List.contains_eq_mem]
  by_cases tags : name ∈ tagProperties
  · rw [if_pos (decide_eq_true tags), Refused.map_iff, Tag.refused_cleanValue_iff,
      and_iff_right tags]
  · rw [if_neg (mt of_decide_eq_true tags)]
    exact iff_of_false (Refused.not_ok _) fun bad => tags bad.1

/-- All tag properties are written, so none of them escapes the check. -/
theorem refused_writtenProperties_iff (changes : Record) :
    Refused (writtenProperties changes) ↔
      ∃ name ∈ tagProperties, ∃ v, Record.get? changes name = some v ∧ Untaggable v := by
  have written : ∀ name ∈ tagProperties, name ∈ properties := by decide
  rw [writtenProperties, Refused.mapM_iff]
  constructor
  · rintro ⟨⟨name, v⟩, member, refused⟩
    obtain ⟨listed, -, paired⟩ := List.mem_filterMap.mp member
    obtain ⟨w, found, same⟩ := Option.map_eq_some_iff.mp paired
    cases same
    obtain ⟨tags, bad⟩ := (refused_property_iff name v).mp refused
    exact ⟨name, tags, v, found, bad⟩
  · rintro ⟨name, tags, v, found, bad⟩
    refine ⟨(name, v), List.mem_filterMap.mpr ⟨name, written name tags, ?_⟩, ?_⟩
    · rw [found, Option.map_some]
    · exact (refused_property_iff name v).mpr ⟨tags, bad⟩

theorem refused_writtenLocation_iff (changes : Record) :
    Refused (writtenLocation changes) ↔
      ∃ v, Record.get? changes "location" = some v ∧ Misplaced v := by
  rw [writtenLocation]
  cases Record.get? changes "location" with
  | none => simp
  | some v => simp [Refused.map_iff, refused_locationParams_iff]

/-- An update is refused over an unknown field, for having no field, over tags that are none or over
a location that is no place. -/
theorem refused_updateStatement_iff (userId : Value) (changes : Record) :
    Refused (updateStatement userId changes) ↔
      (∃ name ∈ Record.names changes, name ∉ properties ∧ name ≠ "location") ∨
      changes = [] ∨
      (∃ name ∈ tagProperties, ∃ v, Record.get? changes name = some v ∧ Untaggable v) ∨
      ∃ v, Record.get? changes "location" = some v ∧ Misplaced v := by
  have known := unknownFields_isEmpty_iff changes
  rw [updateStatement]
  cases empty : (unknownFields changes).isEmpty with
  | false =>
    rw [empty] at known
    have stranger := not_not.mp fun none => Bool.false_ne_true (known.mpr none)
    exact iff_of_true (.error _) (.inl stranger)
  | true =>
    rw [or_iff_right (known.mp empty)]
    cases changes with
    | nil => exact iff_of_true (.error _) (.inl rfl)
    | cons change rest =>
      rw [or_iff_right (List.cons_ne_nil _ _), ← refused_writtenProperties_iff,
        ← refused_writtenLocation_iff]
      refine Refused.bind_iff _ fun props => ?_
      exact Refused.bind_total_iff _ fun location => Refused.not_ok _

end Profiles

/-- A post is refused for being empty, over its media type, over tags that are none or over a
location that is no place. -/
theorem Posts.refused_createStatement_iff (p : NewPost) :
    Refused (createStatement p) ↔
      (IsVoid p.title ∧ IsVoid p.caption ∧ IsVoid p.mediaUrl) ∨
      Unplayable p.mediaType ∨ Untaggable p.genreFilters ∨ Misplaced p.location := by
  rw [createStatement, ← refused_writtenMediaType_iff, ← Tag.refused_cleanValue_iff,
    ← refused_locationParams_iff, ← isTruthy_eq_false_iff, ← isTruthy_eq_false_iff,
    ← isTruthy_eq_false_iff]
  by_cases empty : p.title.isTruthy = false ∧ p.caption.isTruthy = false ∧
      p.mediaUrl.isTruthy = false
  · rw [empty.1, empty.2.1, empty.2.2]
    exact iff_of_true (.error _) (.inl ⟨rfl, rfl, rfl⟩)
  · have filled : (!(p.title.isTruthy || p.caption.isTruthy || p.mediaUrl.isTruthy)) = false := by
      revert empty
      cases p.title.isTruthy <;> cases p.caption.isTruthy <;> cases p.mediaUrl.isTruthy <;> decide
    rw [filled, or_iff_right empty]
    refine Refused.bind_iff _ fun mediaType => Refused.bind_iff _ fun tags => ?_
    exact Refused.bind_total_iff _ fun location => Refused.not_ok _

/-- An event with a name that is a text is refused over a blank name or over a location that is no
place. -/
theorem Events.refused_createStatement_iff (e : NewEvent) {name : String}
    (named : e.name = .text name) :
    Refused (createStatement e) ↔ (∀ c ∈ name.toList, isBlank c = true) ∨ Misplaced e.location := by
  rw [createStatement, named, ← strip_isEmpty_iff, ← refused_locationParams_iff]
  simp only [strippedText, bind, Except.bind]
  cases blank : (strip name).isEmpty with
  | true => exact iff_of_true (.error _) (.inl rfl)
  | false =>
    rw [or_iff_right Bool.false_ne_true]
    exact Refused.bind_total_iff _ fun location => Refused.not_ok _

/-- A message is refused over a blank text. -/
theorem Messages.refused_sendStatement_iff (senderId receiverId : Value) (text : String) :
    Refused (sendStatement senderId receiverId (.text text)) ↔
      ∀ c ∈ text.toList, isBlank c = true := by
  rw [sendStatement, ← strip_isEmpty_iff]
  simp only [strippedText, bind, Except.bind]
  cases blank : (strip text).isEmpty with
  | true => exact iff_of_true (.error _) rfl
  | false => exact iff_of_false (Refused.not_ok _) Bool.false_ne_true

/-- A user is refused as one to follow if it is the follower. -/
theorem Follows.refused_edgeStatement_iff (followerId followedId : Value) :
    Refused (edgeStatement followerId followedId) ↔ followerId.same followedId = true := by
  rw [edgeStatement]
  cases followerId.same followedId with
  | true => exact iff_of_true (.error _) rfl
  | false => exact iff_of_false (Refused.not_ok _) Bool.false_ne_true

end Statements

namespace Conversation

/-- Under the condition the conversation fails without sending anything, and otherwise it sends one
statement, whatever the graph answers. -/
def RefusedExactlyWhen (c : Conversation α) (condition : Prop) : Prop :=
  (condition → ∃ f, Settles c (.error f)) ∧
    (¬ condition → ∃ s, ∀ graph threshold count,
      (c.run graph threshold count).statements = [s])

/-- An exchange is refused exactly when its statement is. -/
theorem IsExchange.refusedExactlyWhen {c : Conversation (Option α)}
    {statement : Except Failure Statement} {read : Record → Except Failure α} {condition : Prop}
    (exchange : IsExchange c statement read) (refused : Refused statement ↔ condition) :
    RefusedExactlyWhen c condition := by
  constructor
  · intro holds
    obtain ⟨f, failure⟩ := refused.mpr holds
    exact ⟨f, exchange.refused failure⟩
  · intro fails
    obtain ⟨s, accepted⟩ := Refused.exists_ok (mt refused.mp fails)
    exact ⟨s, fun graph threshold count => (exchange.sent accepted graph threshold count).1⟩

end Conversation

open Conversation in
/-- A write either fails before anything is sent or sends exactly one statement, and it fails so
exactly over the arguments that are described here; the graph has no say in it. -/
theorem writes_refusedExactlyWhen :
    (∀ userId changes, RefusedExactlyWhen (Profiles.update userId changes)
      ((∃ name ∈ Record.names changes, name ∉ Profiles.properties ∧ name ≠ "location") ∨
        changes = [] ∨
        (∃ name ∈ ["genres", "instruments"], ∃ v,
          Record.get? changes name = some v ∧ Untaggable v) ∨
        ∃ v, Record.get? changes "location" = some v ∧ Misplaced v)) ∧
    (∀ followerId followedId, RefusedExactlyWhen (Follows.follow followerId followedId)
      (followerId.same followedId = true)) ∧
    (∀ userId (title caption : Option String) mediaUrl mediaType genreFilters isNotice location,
      RefusedExactlyWhen
        (Posts.create {
          userId
          title := .ofOption .text title
          caption := .ofOption .text caption
          mediaUrl, mediaType, genreFilters, isNotice, location })
        ((title.getD "" = "" ∧ caption.getD "" = "" ∧ IsVoid mediaUrl) ∨
          Unplayable mediaType ∨ Untaggable genreFilters ∨ Misplaced location)) ∧
    (∀ hostId (name : String) description imageUrl date location,
      RefusedExactlyWhen
        (Events.create { hostId, name := .text name, description, imageUrl, date, location })
        ((∀ c ∈ name.toList, isBlank c = true) ∨ Misplaced location)) ∧
    ∀ senderId receiverId (text : String),
      RefusedExactlyWhen (Messages.send senderId receiverId (.text text))
        (∀ c ∈ text.toList, isBlank c = true) := by
  refine ⟨?_, ?_, ?_, ?_, ?_⟩
  · intro userId changes
    exact (Profiles.update_isExchange userId changes).refusedExactlyWhen
      (Profiles.refused_updateStatement_iff userId changes)
  · intro followerId followedId
    exact (Follows.follow_isExchange followerId followedId).refusedExactlyWhen
      (Follows.refused_edgeStatement_iff followerId followedId)
  · intro userId title caption mediaUrl mediaType genreFilters isNotice location
    refine (Posts.create_isExchange _).refusedExactlyWhen ?_
    rw [Posts.refused_createStatement_iff, isVoid_ofOption_text_iff, isVoid_ofOption_text_iff]
  · intro hostId name description imageUrl date location
    exact (Events.create_isExchange _).refusedExactlyWhen
      (Events.refused_createStatement_iff _ rfl)
  · intro senderId receiverId text
    exact (Messages.send_isExchange _ _ _).refusedExactlyWhen
      (Messages.refused_sendStatement_iff senderId receiverId text)

/-- A filter of 4301 digits is refused although the post has a title. -/
theorem Posts.createStatement_overlong :
    createStatement {
      userId := .text "me"
      title := .text "t"
      genreFilters := .list [.int (10 ^ 4300)] } = .error (.unwritableInt 4300) := by
  have refused {filters : List Value} {f : Failure}
      (unclean : Tag.cleanValue (.list filters) = .error f) :
      createStatement {
        userId := .text "me"
        title := .text "t"
        genreFilters := .list filters } = .error f := by
    rw [createStatement, unclean]
    rfl
  exact refused Tag.clean_overlong

open Conversation in
/-- A post with nothing but `false` for the address of its media is not published, although that is
neither null nor empty, and neither is one with a title and a filter of 4301 digits, although its
filters can be gone through. -/
theorem Posts.create_voidOrOverlong :
    Settles (create { userId := .text "me", mediaUrl := .bool false }) (.error .emptyPost) ∧
      (Value.list [.int (10 ^ 4300)]).items? = some [.int (10 ^ 4300)] ∧
      Settles (create {
        userId := .text "me"
        title := .text "t"
        genreFilters := .list [.int (10 ^ 4300)] }) (.error (.unwritableInt 4300)) :=
  ⟨(create_isExchange _).refused rfl, rfl, (create_isExchange _).refused createStatement_overlong⟩

end MusicianGraph
