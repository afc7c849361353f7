import MusicianGraph.Proofs.Schema.Rereading

/-! # Validating what was validated

A model that has been validated is shown as data, and the data is validated again. All models accept
it, and what comes out is equal to what was there before, unless a moment has an offset with seconds.
Such a moment was passed on as one in the data: there is no place for the seconds in the written
form, and what is read is another instant. -/

namespace MusicianGraph

open Schema

variable {α : Type}

section Models

private theorem text_filled (s : String) : Value.text s ≠ .null := nofun

private theorem texts_filled (texts : List String) : Value.ofTexts texts ≠ .null := nofun

private theorem float_filled (x : Float) : Value.float x ≠ .null := nofun

private theorem bool_filled (b : Bool) : Value.bool b ≠ .null := nofun

private theorem moment_filled (t : DateTime) : Value.text (IsoText.render t) ≠ .null := nofun

private theorem place_filled (p : GeoPoint) : p.dump ≠ .null := nofun

private theorem mediaType_filled (m : MediaType) : m.dump ≠ .null := nofun

theorem UserProfile.rereads : Rereads read dump id := by
  constructor
  intro v p accepted
  obtain ⟨r, rfl, accepted⟩ := fields_accepted_iff.mp accepted
  obtain ⟨-, -, name, bio, avatar, genres, instruments, location, -, -, -, rate, -⟩ :=
    (ofRecord_accepted_iff r p).mp accepted
  refine (ofRecord_accepted_iff _ p).mpr
    ⟨rfl, rfl, ?_, ?_, ?_, ?_, ?_, ?_, rfl, rfl, rfl, ?_, rfl⟩
  · exact (Rereads.text.optional_same text_filled).reread name
  · exact (Rereads.text.optional_same text_filled).reread bio
  · exact (Rereads.text.optional_same text_filled).reread avatar
  · exact Rereads.tags.reread genres
  · exact Rereads.tags.reread instruments
  · exact (Rereads.place.optional_same place_filled).reread location
  · exact (Rereads.float.optional_same float_filled).reread rate

/-- A post without the seconds of its moment's offset. -/
def Post.inMinutes (p : Post) : Post := { p with createdAt := p.createdAt.map DateTime.inMinutes }

theorem Post.rereads : Rereads read dump inMinutes := by
  constructor
  intro v p accepted
  obtain ⟨r, rfl, accepted⟩ := fields_accepted_iff.mp accepted
  obtain ⟨-, -, title, caption, url, media, genres, -, -, created, location⟩ :=
    (ofRecord_accepted_iff r p).mp accepted
  refine (ofRecord_accepted_iff _ p.inMinutes).mpr
    ⟨rfl, rfl, ?_, ?_, ?_, ?_, ?_, rfl, rfl, ?_, ?_⟩
  · exact (Rereads.text.optional_same text_filled).reread title
  · exact (Rereads.text.optional_same text_filled).reread caption
  · exact (Rereads.text.optional_same text_filled).reread url
  · exact (Rereads.mediaType.optional_same mediaType_filled).reread media
  · exact Rereads.tags.reread genres
  · exact (Rereads.moment.optional moment_filled).reread created
  · exact (Rereads.place.optional_same place_filled).reread location

/-- An event without the seconds of its moment's offset. -/
def Event.inMinutes (e : Event) : Event := { e with date := e.date.map DateTime.inMinutes }

theorem Event.rereads : Rereads read dump inMinutes := by
  constructor
  intro v e accepted
  obtain ⟨r, rfl, accepted⟩ := fields_accepted_iff.mp accepted
  obtain ⟨-, -, -, description, image, date, location⟩ := (ofRecord_accepted_iff r e).mp accepted
  refine (ofRecord_accepted_iff _ e.inMinutes).mpr ⟨rfl, rfl, rfl, ?_, ?_, ?_, ?_⟩
  · exact (Rereads.text.optional_same text_filled).reread description
  · exact (Rereads.text.optional_same text_filled).reread image
  · exact (Rereads.moment.optional moment_filled).reread date
  · exact (Rereads.place.optional_same place_filled).reread location

/-- A message without the seconds of its moment's offset. -/
def Message.inMinutes (m : Message) : Message :=
  { m with createdAt := m.createdAt.map DateTime.inMinutes }

theorem Message.rereads : Rereads read dump inMinutes := by
  constructor
  intro v m accepted
  obtain ⟨r, rfl, accepted⟩ := fields_accepted_iff.mp accepted
  obtain ⟨-, -, -, -, created⟩ := (ofRecord_accepted_iff r m).mp accepted
  exact (ofRecord_accepted_iff _ m.inMinutes).mpr
    ⟨rfl, rfl, rfl, rfl, (Rereads.moment.optional moment_filled).reread created⟩

theorem MessageDraft.rereads : Rereads read dump id := by
  constructor
  intro v d accepted
  obtain ⟨r, rfl, accepted⟩ := fields_accepted_iff.mp accepted
  obtain ⟨sender, receiver, text⟩ := (ofRecord_accepted_iff r d).mp accepted
  refine (ofRecord_accepted_iff _ d).mpr ⟨?_, ?_, ?_⟩
  · exact Rereads.text.required sender rfl
  · exact Rereads.text.required receiver rfl
  · exact (Rereads.boundedText 1 longestText).required text rfl

theorem PostDraft.rereads : Rereads read dump id := by
  constructor
  intro v d accepted
  obtain ⟨r, rfl, accepted⟩ := fields_accepted_iff.mp accepted
  obtain ⟨user, title, caption, url, media, genres, notice, location⟩ :=
    (ofRecord_accepted_iff r d).mp accepted
  refine (ofRecord_accepted_iff _ d).mpr ⟨?_, ?_, ?_, ?_, ?_, ?_, ?_, ?_⟩
  · exact Rereads.text.required user rfl
  · exact (Rereads.text.optional_same text_filled).defaulted rfl title rfl
  · exact (Rereads.text.optional_same text_filled).defaulted rfl caption rfl
  · exact (Rereads.text.optional_same text_filled).defaulted rfl url rfl
  · exact (Rereads.mediaType.optional_same mediaType_filled).defaulted rfl media rfl
  · exact Rereads.texts.defaulted rfl genres rfl
  · exact Rereads.bool.defaulted rfl notice rfl
  · exact (Rereads.place.optional_same place_filled).defaulted rfl location rfl

/-- A draft without the seconds of its moment's offset. -/
def EventDraft.inMinutes (d : EventDraft) : EventDraft :=
  { d with date := d.date.map DateTime.inMinutes }

theorem EventDraft.rereads : Rereads read dump inMinutes := by
  constructor
  intro v d accepted
  obtain ⟨r, rfl, accepted⟩ := fields_accepted_iff.mp accepted
  obtain ⟨host, name, description, image, date, location⟩ :=
    (ofRecord_accepted_iff r d).mp accepted
  refine (ofRecord_accepted_iff _ d.inMinutes).mpr ⟨?_, ?_, ?_, ?_, ?_, ?_⟩
  · exact Rereads.text.required host rfl
  · exact (Rereads.boundedText 1 longestName).required name rfl
  · exact (Rereads.text.optional_same text_filled).defaulted rfl description rfl
  · exact (Rereads.text.optional_same text_filled).defaulted rfl image rfl
  · exact (Rereads.moment.optional moment_filled).defaulted rfl date rfl
  · exact (Rereads.place.optional_same place_filled).defaulted rfl location rfl

/-- An update as it is read off what it is shown as. -/
def ProfileUpdate.shown (u : ProfileUpdate) : ProfileUpdate where
  name := u.name.shown
  bio := u.bio.shown
  avatarUrl := u.avatarUrl.shown
  genres := u.genres.shown
  instruments := u.instruments.shown
  location := u.location.shown
  hourRate := u.hourRate.shown
  soloArtist := u.soloArtist.shown

theorem ProfileUpdate.rereads : Rereads read dump shown := by
  constructor
  intro v u accepted
  obtain ⟨r, rfl, accepted⟩ := fields_accepted_iff.mp accepted
  obtain ⟨name, bio, avatar, genres, instruments, location, rate, solo⟩ :=
    (ofRecord_accepted_iff r u).mp accepted
  refine (ofRecord_accepted_iff _ u.shown).mpr ⟨?_, ?_, ?_, ?_, ?_, ?_, ?_, ?_⟩
  · exact Rereads.text.edit text_filled name rfl
  · exact Rereads.text.edit text_filled bio rfl
  · exact Rereads.text.edit text_filled avatar rfl
  · exact Rereads.texts.edit texts_filled genres rfl
  · exact Rereads.texts.edit texts_filled instruments rfl
  · exact Rereads.place.edit place_filled location rfl
  · exact (Rereads.floatBetween (some 0) none).edit float_filled rate rfl
  · exact Rereads.bool.edit bool_filled solo rfl

theorem FollowEdge.rereads : Rereads schema.read dump id := by
  constructor
  intro v e accepted
  obtain ⟨r, rfl, accepted⟩ := fields_accepted_iff.mp accepted
  obtain ⟨follower, followed⟩ := (ofRecord_accepted_iff r e).mp accepted
  exact (ofRecord_accepted_iff _ e).mpr
    ⟨Rereads.text.required follower rfl, Rereads.text.required followed rfl⟩

theorem FollowState.rereads : Rereads schema.read dump id := by
  constructor
  intro v s accepted
  obtain ⟨r, rfl, accepted⟩ := fields_accepted_iff.mp accepted
  obtain ⟨follower, followed, following, followers, followings⟩ :=
    (ofRecord_accepted_iff r s).mp accepted
  refine (ofRecord_accepted_iff _ s).mpr ⟨?_, ?_, ?_, ?_, ?_⟩
  · exact Rereads.text.required follower rfl
  · exact Rereads.text.required followed rfl
  · exact Rereads.bool.required following rfl
  · exact Rereads.int.required followers rfl
  · exact Rereads.int.required followings rfl

theorem LikeState.rereads : Rereads schema.read dump id := by
  constructor
  intro v s accepted
  obtain ⟨r, rfl, accepted⟩ := fields_accepted_iff.mp accepted
  obtain ⟨post, user, likes⟩ := (ofRecord_accepted_iff r s).mp accepted
  refine (ofRecord_accepted_iff _ s).mpr ⟨?_, ?_, ?_⟩
  · exact Rereads.text.required post rfl
  · exact Rereads.text.required user rfl
  · exact Rereads.int.required likes rfl

/-- A profile can stand under any name but that of the score. -/
theorem CandidateScore.rereads {title profileName : String} (other : profileName ≠ "score") :
    Rereads (fields title (ofRecord profileName)) (dumpAs profileName) id := by
  constructor
  intro v c accepted
  obtain ⟨r, rfl, accepted⟩ := fields_accepted_iff.mp accepted
  obtain ⟨profile, score⟩ := (ofRecord_accepted_iff r profileName c).mp accepted
  refine (ofRecord_accepted_iff _ profileName c).mpr ⟨?_, ?_⟩
  · exact UserProfile.rereads.required profile List.lookup_cons_self
  · refine (Rereads.float.optional_same float_filled).defaulted rfl score ?_
    rw [Record.get?_cons, if_neg other.symm]
    rfl

theorem Suggestions.rereads : Rereads schema.read dump id := by
  constructor
  intro v s accepted
  obtain ⟨r, rfl, accepted⟩ := fields_accepted_iff.mp accepted
  obtain ⟨user, strategy, suggestions⟩ := (ofRecord_accepted_iff r s).mp accepted
  have scored : Rereads CandidateScore.suggestionSchema.read
      CandidateScore.suggestionSchema.dump id := CandidateScore.rereads (by decide)
  have list : Rereads readList
      (fun all => .list (all.map CandidateScore.suggestionSchema.dump)) id := by
    constructor
    intro v all accepted
    unfold readList at accepted
    split at accepted
    · have again := scored.ofItems accepted
      rwa [List.map_id] at again
    · cases accepted
  refine (ofRecord_accepted_iff _ s).mpr ⟨?_, ?_, ?_⟩
  · exact UserProfile.rereads.required user rfl
  · exact Rereads.text.required strategy rfl
  · exact list.required suggestions rfl

namespace SearchResult

/-- A result without the seconds of its moments' offsets. -/
def inMinutes : SearchResult → SearchResult
  | user p => user p
  | event e => event e.inMinutes
  | post p => post p.inMinutes

/-- A result of a kind is read again off what stands under the kind's name. -/
theorem readKind_rereads {title kind : String} {read : Value → Reading α} {dump : α → Value}
    {again : α → α} (rereads : Rereads read dump again) (other : kind ≠ "kind") :
    Rereads (readKind title kind read)
      (fun a => .object [("kind", .text kind), (kind, dump a)]) again := by
  constructor
  intro v a accepted
  obtain ⟨r, rfl, -, content⟩ := (readKind_accepted_iff title kind read v a).mp accepted
  refine (readKind_accepted_iff title kind read _ (again a)).mpr ⟨_, rfl, ?_, ?_⟩
  · change Reading.within _ (literal kind (.text kind)) = _
    rw [Reading.within_accepted_iff, literal, if_pos rfl]
  · refine rereads.required content ?_
    rw [Record.get?_cons, if_neg other]
    exact List.lookup_cons_self

theorem readUser_rereads : Rereads readUser dump inMinutes :=
  (readKind_rereads UserProfile.rereads (by decide)).map (fun _ => rfl) fun _ => rfl

theorem readEvent_rereads : Rereads readEvent dump inMinutes :=
  (readKind_rereads Event.rereads (by decide)).map (fun _ => rfl) fun _ => rfl

theorem readPost_rereads : Rereads readPost dump inMinutes :=
  (readKind_rereads Post.rereads (by decide)).map (fun _ => rfl) fun _ => rfl

end SearchResult

end Models

/-- Data that is a part of other data, at any depth. -/
inductive Value.Within (part : Value) : Value → Prop where
  | whole : Within part part
  | item {items : List Value} {v : Value} (among : v ∈ items) (deep : Within part v) :
      Within part (.list items)
  | field {fields : Record} {name : String} {v : Value} (among : (name, v) ∈ fields)
      (deep : Within part v) : Within part (.object fields)

section Moments

def Post.moments (p : Post) : List DateTime := p.createdAt.toList

def Event.moments (e : Event) : List DateTime := e.date.toList

def EventDraft.moments (d : EventDraft) : List DateTime := d.date.toList

def Message.moments (m : Message) : List DateTime := m.createdAt.toList

def SearchResult.moments : SearchResult → List DateTime
  | user _ => []
  | event e => e.moments
  | post p => p.moments

theorem map_inMinutes_eq_self_iff (moment? : Option DateTime) :
    moment?.map DateTime.inMinutes = moment? ↔ ∀ t ∈ moment?.toList, t.HasWholeMinutes := by
  cases moment? with
  | none => simp
  | some t => simp [DateTime.inMinutes_eq_self_iff]

theorem Post.inMinutes_eq_self_iff (p : Post) :
    p.inMinutes = p ↔ ∀ t ∈ p.moments, t.HasWholeMinutes := by
  rw [moments, ← map_inMinutes_eq_self_iff]
  cases p
  simp [inMinutes]

theorem Event.inMinutes_eq_self_iff (e : Event) :
    e.inMinutes = e ↔ ∀ t ∈ e.moments, t.HasWholeMinutes := by
  rw [moments, ← map_inMinutes_eq_self_iff]
  cases e
  simp [inMinutes]

theorem EventDraft.inMinutes_eq_self_iff (d : EventDraft) :
    d.inMinutes = d ↔ ∀ t ∈ d.moments, t.HasWholeMinutes := by
  rw [moments, ← map_inMinutes_eq_self_iff]
  cases d
  simp [inMinutes]

theorem Message.inMinutes_eq_self_iff (m : Message) :
    m.inMinutes = m ↔ ∀ t ∈ m.moments, t.HasWholeMinutes := by
  rw [moments, ← map_inMinutes_eq_self_iff]
  cases m
  simp [inMinutes]

theorem SearchResult.inMinutes_eq_self_iff (s : SearchResult) :
    s.inMinutes = s ↔ ∀ t ∈ s.moments, t.HasWholeMinutes := by
  cases s with
  | user p =>
    refine iff_of_true rfl fun t listed => ?_
    cases listed
  | event e =>
    rw [inMinutes, event.injEq]
    exact e.inMinutes_eq_self_iff
  | post p =>
    rw [inMinutes, post.injEq]
    exact p.inMinutes_eq_self_iff

/-- What is found in an object is a part of it. -/
theorem Record.within_of_get? {r : Record} {name : String} {v part : Value}
    (found : r.get? name = some v) (deep : part.Within v) : part.Within (.object r) :=
  .field (mem_of_get? found) deep

end Moments

section Natives

/-- Every moment that is read has whole minutes or is passed on from the data. -/
def Passes (read : Value → Reading α) (moments : α → List DateTime) : Prop :=
  ∀ {v a}, read v = .accepted a →
    ∀ t ∈ moments a, t.HasWholeMinutes ∨ (Value.moment t).Within v

theorem passes_field {r : Record} {name : String} {found : Option DateTime}
    (read : optional moment (r.getOrNull name) = .accepted found) :
    ∀ t ∈ found.toList, t.HasWholeMinutes ∨ (Value.moment t).Within (.object r) := by
  intro t listed
  rw [Option.mem_toList] at listed
  subst listed
  unfold Schema.optional at read
  split at read
  · cases read
  · next filled =>
    obtain ⟨_, read, ⟨⟩⟩ := Reading.map_accepted_iff.mp read
    apply (moment_accepted read).imp id
    intro native
    rw [Record.getOrNull] at native
    cases found : r.get? name with
    | none =>
      rw [found] at native
      cases native
    | some v =>
      rw [found] at native
      cases native
      exact Record.within_of_get? found .whole

theorem Post.passes : Passes read moments := by
  intro v p accepted
  obtain ⟨r, rfl, accepted⟩ := fields_accepted_iff.mp accepted
  obtain ⟨-, -, -, -, -, -, -, -, -, created, -⟩ := (ofRecord_accepted_iff r p).mp accepted
  exact passes_field created

theorem Event.passes : Passes read moments := by
  intro v e accepted
  obtain ⟨r, rfl, accepted⟩ := fields_accepted_iff.mp accepted
  obtain ⟨-, -, -, -, -, date, -⟩ := (ofRecord_accepted_iff r e).mp accepted
  exact passes_field date

theorem EventDraft.passes : Passes read moments := by
  intro v d accepted
  obtain ⟨r, rfl, accepted⟩ := fields_accepted_iff.mp accepted
  obtain ⟨-, -, -, -, date, -⟩ := (ofRecord_accepted_iff r d).mp accepted
  exact passes_field (defaulted_optional_iff.mp date)

theorem Message.passes : Passes read moments := by
  intro v m accepted
  obtain ⟨r, rfl, accepted⟩ := fields_accepted_iff.mp accepted
  obtain ⟨-, -, -, -, created⟩ := (ofRecord_accepted_iff r m).mp accepted
  exact passes_field created

namespace SearchResult

theorem passes_readKind {title kind : String} {read : Value → Reading α}
    {moments : α → List DateTime} (passes : Passes read moments) :
    Passes (readKind title kind read) moments := by
  intro v a accepted t listed
  obtain ⟨r, rfl, -, content⟩ := (readKind_accepted_iff title kind read v a).mp accepted
  rw [Schema.required] at content
  split at content
  · next found =>
    exact (passes (Reading.within_accepted_iff.mp content) t listed).imp id
      (Record.within_of_get? found)
  · cases content

theorem passes_readUser : Passes readUser moments := by
  intro v s accepted
  obtain ⟨p, -, rfl⟩ := Reading.map_accepted_iff.mp accepted
  intro t listed
  cases listed

theorem passes_readEvent : Passes readEvent moments := by
  intro v s accepted
  obtain ⟨e, first, rfl⟩ := Reading.map_accepted_iff.mp accepted
  exact passes_readKind Event.passes first

theorem passes_readPost : Passes readPost moments := by
  intro v s accepted
  obtain ⟨p, first, rfl⟩ := Reading.map_accepted_iff.mp accepted
  exact passes_readKind Post.passes first

/-- A result is read by the reader of its own kind. -/
theorem read_accepted {v : Value} {s : SearchResult} (accepted : read v = .accepted s) :
    readUser v = .accepted s ∨ readEvent v = .accepted s ∨ readPost v = .accepted s := by
  unfold read at accepted
  split at accepted
  · split at accepted
    · cases accepted
    · split at accepted
      · next kind reader known =>
        rw [Reading.within_accepted_iff] at accepted
        unfold readerFor? at known
        split at known <;> cases known
        · exact .inl accepted
        · exact .inr (.inl accepted)
        · exact .inr (.inr accepted)
      · cases accepted
  all_goals cases accepted

theorem passes_read : Passes read moments := by
  intro v s accepted
  rcases read_accepted accepted with user | event | post
  · exact passes_readUser user
  · exact passes_readEvent event
  · exact passes_readPost post

theorem read_rereads : Rereads read dump inMinutes := by
  constructor
  intro v s accepted
  rcases read_accepted accepted with first | first | first
  · obtain ⟨p, -, rfl⟩ := Reading.map_accepted_iff.mp first
    exact Reading.within_accepted_iff.mpr (readUser_rereads.reread first)
  · obtain ⟨e, -, rfl⟩ := Reading.map_accepted_iff.mp first
    exact Reading.within_accepted_iff.mpr (readEvent_rereads.reread first)
  · obtain ⟨p, -, rfl⟩ := Reading.map_accepted_iff.mp first
    exact Reading.within_accepted_iff.mpr (readPost_rereads.reread first)

end SearchResult

end Natives

section Updates

/-- What a field is set to; nothing if it is kept or cleared. -/
def Edit.value? : Edit α → Option α
  | keep => none
  | clear => none
  | set a => some a

theorem Edit.value?_shown (e : Edit α) : e.shown.value? = e.value? := by
  cases e <;> rfl

theorem Edit.written?_shown (e : Edit α) (dump : α → Value) :
    (e.shown.written? dump).getD .null = (e.written? dump).getD .null := by
  cases e <;> rfl

/-- Two updates have equal values in all fields. A field that is kept has no value, and neither has
one that is cleared. -/
structure ProfileUpdate.HasSameValues (u w : ProfileUpdate) : Prop where
  name : u.name.value? = w.name.value?
  bio : u.bio.value? = w.bio.value?
  avatarUrl : u.avatarUrl.value? = w.avatarUrl.value?
  genres : u.genres.value? = w.genres.value?
  instruments : u.instruments.value? = w.instruments.value?
  location : u.location.value? = w.location.value?
  hourRate : u.hourRate.value? = w.hourRate.value?
  soloArtist : u.soloArtist.value? = w.soloArtist.value?

theorem ProfileUpdate.hasSameValues_shown (u : ProfileUpdate) : u.shown.HasSameValues u := by
  constructor <;> exact Edit.value?_shown _

theorem ProfileUpdate.dump_shown (u : ProfileUpdate) : u.shown.dump = u.dump := by
  simp only [dump, edits, shown, List.map_cons, List.map_nil, Edit.written?_shown]

end Updates

namespace Schema

/-- Whatever is accepted is accepted again off what it is shown as, and `again` tells what it is
then. This is the same as before exactly if all moments have whole minutes, and then it is shown as
before. A moment that has not was passed on from the data. -/
def IsStable (s : Schema α) (again : α → α) (moments : α → List DateTime) (Same : α → α → Prop) :
    Prop :=
  ∀ v a, s.validate v = .ok a → s.validate (s.dump a) = .ok (again a) ∧
    (Same (again a) a ↔ ∀ t ∈ moments a, t.HasWholeMinutes) ∧
    ((∀ t ∈ moments a, t.HasWholeMinutes) → s.dump (again a) = s.dump a) ∧
    ∀ t ∈ moments a, t.HasWholeMinutes ∨ (Value.moment t).Within v

variable {s : Schema α} {moments : α → List DateTime} {Same : α → α → Prop} {again : α → α}

theorem isStable_of_rereads (rereads : Rereads s.read s.dump again)
    (passes : Passes s.read moments)
    (same : ∀ a, Same (again a) a ↔ ∀ t ∈ moments a, t.HasWholeMinutes)
    (shown : ∀ a, (∀ t ∈ moments a, t.HasWholeMinutes) → s.dump (again a) = s.dump a) :
    s.IsStable again moments Same := by
  intro v a accepted
  rw [validate, Reading.result_ok_iff] at accepted
  refine ⟨?_, same a, shown a, passes accepted⟩
  rw [validate, Reading.result_ok_iff]
  exact rereads.reread accepted

/-- Where the result is read equal, it is shown equal. -/
theorem isStable_of_eq (rereads : Rereads s.read s.dump again) (passes : Passes s.read moments)
    (same : ∀ a, again a = a ↔ ∀ t ∈ moments a, t.HasWholeMinutes) :
    s.IsStable again moments Eq :=
  isStable_of_rereads rereads passes same fun a whole => by rw [(same a).mpr whole]

/-- A model without moments is read equal in any case. -/
theorem isStable_of_id (rereads : Rereads s.read s.dump id) : s.IsStable id (fun _ => []) Eq := by
  refine isStable_of_eq rereads ?_ fun a => iff_of_true rfl ?_
  · intro v a accepted t listed
    cases listed
  · intro t listed
    cases listed

end Schema

theorem SearchResult.kind_inMinutes (s : SearchResult) : s.inMinutes.kind = s.kind := by
  cases s <;> rfl

/-- Validating any model again gives what it was but for its moments, of which each comes back as the
one that its written form names, without the seconds of its offset; and a search result stays one of
its kind. An update has all of its fields then, those that it had not as null ones. -/
theorem Schema.models_isStable :
    (∀ t : DateTime, moment (.text (IsoText.render t)) = .accepted t.inMinutes) ∧
    GeoPoint.schema.IsStable id (fun _ => []) Eq ∧
    UserProfile.schema.IsStable id (fun _ => []) Eq ∧
    FollowEdge.schema.IsStable id (fun _ => []) Eq ∧
    CandidateScore.schema.IsStable id (fun _ => []) Eq ∧
    Post.schema.IsStable Post.inMinutes Post.moments Eq ∧
    Event.schema.IsStable Event.inMinutes Event.moments Eq ∧
    Message.schema.IsStable Message.inMinutes Message.moments Eq ∧
    MessageDraft.schema.IsStable id (fun _ => []) Eq ∧
    PostDraft.schema.IsStable id (fun _ => []) Eq ∧
    EventDraft.schema.IsStable EventDraft.inMinutes EventDraft.moments Eq ∧
    ProfileUpdate.schema.IsStable ProfileUpdate.shown (fun _ => []) ProfileUpdate.HasSameValues ∧
    SearchResult.userSchema.IsStable SearchResult.inMinutes SearchResult.moments Eq ∧
    SearchResult.eventSchema.IsStable SearchResult.inMinutes SearchResult.moments Eq ∧
    SearchResult.postSchema.IsStable SearchResult.inMinutes SearchResult.moments Eq ∧
    SearchResult.schema.IsStable SearchResult.inMinutes SearchResult.moments Eq ∧
    CandidateScore.suggestionSchema.IsStable id (fun _ => []) Eq ∧
    Suggestions.schema.IsStable id (fun _ => []) Eq ∧
    FollowState.schema.IsStable id (fun _ => []) Eq ∧
    LikeState.schema.IsStable id (fun _ => []) Eq ∧
    ∀ v s t, SearchResult.schema.validate v = .ok s →
      SearchResult.schema.validate (SearchResult.schema.dump s) = .ok t → t.kind = s.kind := by
  refine ⟨moment_render, ?_, ?_, ?_, ?_, ?_, ?_, ?_, ?_, ?_, ?_, ?_, ?_, ?_, ?_, ?_, ?_, ?_, ?_, ?_,
    ?_⟩
  · exact isStable_of_id Rereads.place
  · exact isStable_of_id UserProfile.rereads
  · exact isStable_of_id FollowEdge.rereads
  · exact isStable_of_id (CandidateScore.rereads (by decide))
  · exact isStable_of_eq Post.rereads Post.passes Post.inMinutes_eq_self_iff
  · exact isStable_of_eq Event.rereads Event.passes Event.inMinutes_eq_self_iff
  · exact isStable_of_eq Message.rereads Message.passes Message.inMinutes_eq_self_iff
  · exact isStable_of_id MessageDraft.rereads
  · exact isStable_of_id PostDraft.rereads
  · exact isStable_of_eq EventDraft.rereads EventDraft.passes EventDraft.inMinutes_eq_self_iff
  · refine isStable_of_rereads ProfileUpdate.rereads ?_ ?_ fun u _ => u.dump_shown
    · intro v u accepted t listed
      cases listed
    · intro u
      refine iff_of_true u.hasSameValues_shown fun t listed => ?_
      cases listed
  · exact isStable_of_eq SearchResult.readUser_rereads SearchResult.passes_readUser
      SearchResult.inMinutes_eq_self_iff
  · exact isStable_of_eq SearchResult.readEvent_rereads SearchResult.passes_readEvent
      SearchResult.inMinutes_eq_self_iff
  · exact isStable_of_eq SearchResult.readPost_rereads SearchResult.passes_readPost
      SearchResult.inMinutes_eq_self_iff
  · exact isStable_of_eq SearchResult.read_rereads SearchResult.passes_read
      SearchResult.inMinutes_eq_self_iff
  · exact isStable_of_id (CandidateScore.rereads (by decide))
  · exact isStable_of_id Suggestions.rereads
  · exact isStable_of_id FollowState.rereads
  · exact isStable_of_id LikeState.rereads
  · intro v s t accepted again
    rw [validate, Reading.result_ok_iff] at accepted again
    cases (SearchResult.read_rereads.reread accepted).symm.trans again
    exact s.kind_inMinutes

section Samples

/-- Midnight on a clock that is five hours, thirty minutes and fifteen seconds ahead. -/
private def mayDay : DateTime where
  date := { year := 2024, month := 5, day := 1 }
  time := .midnight
  offset := some { seconds := 19815 }

/-- A message whose moment is passed on with the seconds of its offset is another instant when it is
validated again. -/
theorem Message.validate_dump_other :
    ∃ m b : Message,
      schema.validate (.object [("message_id", .text "m"), ("sender_id", .text "a"),
        ("receiver_id", .text "b"), ("text", .text "t"), ("created_at", .moment mayDay)]) = .ok m ∧
      schema.validate (schema.dump m) = .ok b ∧ b ≠ m ∧
      ∃ s t, m.createdAt = some s ∧ b.createdAt = some t ∧ t.sameInstant s = false := by
  have accepted : read (.object [("message_id", .text "m"), ("sender_id", .text "a"),
      ("receiver_id", .text "b"), ("text", .text "t"), ("created_at", .moment mayDay)]) =
        .accepted ⟨"m", "a", "b", "t", some mayDay⟩ := rfl
  have again := Message.rereads.reread accepted
  refine ⟨_, _, congrArg (Reading.result _) accepted, congrArg (Reading.result _) again, ?_,
    mayDay, mayDay.inMinutes, rfl, rfl, by decide⟩
  intro same
  have moments := congrArg Message.createdAt same
  exact absurd moments (by decide)

end Samples

end MusicianGraph
