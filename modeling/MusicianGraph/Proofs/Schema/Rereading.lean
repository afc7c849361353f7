import MusicianGraph.Proofs.Calendar.WrittenMoments
import MusicianGraph.Proofs.Graph.StoredRows
import MusicianGraph.Proofs.Model.Tags

/-! # Reading what has been read

What is accepted is shown as data, and the data is read again. For each kind of value the second
reading accepts what the first one has made of its input; only moments may change on the way. The
fields of an object are read again one by one. -/

namespace MusicianGraph

variable {α : Type}

/-- An edit as it is read off what it is shown as: a field that is kept is shown as null, which
clears it. -/
def Edit.shown : Edit α → Edit α
  | keep => clear
  | clear => clear
  | set a => set a

/-- What is accepted is accepted again off what it is shown as, with the given change. -/
structure Rereads (read : Value → Reading α) (dump : α → Value) (again : α → α) : Prop where
  reread : ∀ {v a}, read v = .accepted a → read (dump a) = .accepted (again a)

namespace Rereads

open Schema

section Kinds

theorem text : Rereads text .text id := ⟨fun _ => rfl⟩

theorem int : Rereads int .int id := ⟨fun _ => rfl⟩

theorem bool : Rereads bool .bool id := ⟨fun _ => rfl⟩

theorem float : Rereads float .float id := ⟨fun _ => rfl⟩

theorem mediaType : Rereads MediaType.read MediaType.dump id := by
  constructor
  intro v m _
  cases m <;> rfl

theorem place : Rereads GeoPoint.read GeoPoint.dump id := ⟨fun {_ p} _ => p.read_dump⟩

theorem texts : Rereads texts .ofTexts id := ⟨fun _ => ofItems_texts 0 _⟩

theorem tags : Rereads tags .ofTexts id :=
  ⟨fun accepted => tags_ofTexts (nodup_of_tags accepted)⟩

theorem moment : Rereads moment (fun t => .text (IsoText.render t)) DateTime.inMinutes :=
  ⟨fun _ => moment_render _⟩

theorem boundedText (least most : Nat) : Rereads (boundedText least most) .text id := by
  constructor
  intro v s accepted
  obtain ⟨t, -, bounded⟩ := Reading.andThen_accepted_iff.mp accepted
  rw [Schema.boundedText, Schema.text, Reading.andThen]
  split at bounded
  · cases bounded
  · next enough =>
    split at bounded
    · cases bounded
    · next short =>
      cases bounded
      rw [if_neg enough, if_neg short, id]

theorem floatBetween (least most : Option Int) :
    Rereads (floatBetween least most) .float id := by
  constructor
  intro v x accepted
  obtain ⟨y, -, bounded⟩ := Reading.andThen_accepted_iff.mp accepted
  rw [Schema.floatBetween, Schema.float, Reading.andThen]
  split at bounded
  · cases bounded
  · next below =>
    split at bounded
    · cases bounded
    · next above =>
      cases bounded
      rw [if_neg below, if_neg above, id]

end Kinds

variable {read : Value → Reading α} {dump : α → Value} {again : α → α}

/-- Values that may be missing. -/
theorem optional (rereads : Rereads read dump again) (filled : ∀ a, dump a ≠ .null) :
    Rereads (optional read) (.ofOption dump) (Option.map again) := by
  constructor
  intro v found accepted
  cases found with
  | none => rfl
  | some a =>
    have given : ∃ a', read v = .accepted a' ∧ some a' = some a := by
      unfold Schema.optional at accepted
      split at accepted
      · cases accepted
      · exact Reading.map_accepted_iff.mp accepted
    obtain ⟨_, first, ⟨⟩⟩ := given
    change Schema.optional read (dump a) = .accepted (some (again a))
    rw [Schema.optional.eq_2 read (dump a) (filled a), rereads.reread first]
    rfl

/-- Values that may be missing and do not change. -/
theorem optional_same (rereads : Rereads read dump id) (filled : ∀ a, dump a ≠ .null) :
    Rereads (Schema.optional read) (.ofOption dump) id := by
  constructor
  intro v found accepted
  have second := (rereads.optional filled).reread accepted
  rwa [Option.map_id] at second

/-- What is put into another type after it has been read. -/
theorem map {β : Type} {inject : α → β} {dump' : β → Value} {again' : β → β}
    (rereads : Rereads read dump again) (shown : ∀ a, dump' (inject a) = dump a)
    (changed : ∀ a, again' (inject a) = inject (again a)) :
    Rereads (fun v => (read v).map inject) dump' again' := by
  constructor
  intro v b accepted
  obtain ⟨a, first, rfl⟩ := Reading.map_accepted_iff.mp accepted
  rw [shown, changed]
  exact Reading.map_accepted_iff.mpr ⟨again a, rereads.reread first, rfl⟩

/-- Lists are read again item by item. -/
theorem ofItems (rereads : Rereads read dump again) {start : Nat} {items : List Value}
    {all : List α} (accepted : Reading.ofItems read start items = .accepted all) :
    Reading.ofItems read start (all.map dump) = .accepted (all.map again) := by
  induction items generalizing start all with
  | nil =>
    cases accepted
    rfl
  | cons v rest ih =>
    obtain ⟨a, others, first, later, rfl⟩ := Reading.ofItems_cons_accepted_iff.mp accepted
    exact Reading.ofItems_cons_accepted_iff.mpr ⟨again a, _, rereads.reread first, ih later, rfl⟩

section Fields

variable {r shown : Record} {name : String} {a : α}

/-- A field that has to be there is there again. -/
theorem required (rereads : Rereads read dump again)
    (accepted : required r name read = .accepted a) (there : shown.get? name = some (dump a)) :
    Schema.required shown name read = .accepted (again a) := by
  rw [Schema.required] at *
  split at accepted
  · rw [there]
    exact Reading.within_accepted_iff.mpr
      (rereads.reread (Reading.within_accepted_iff.mp accepted))
  · cases accepted

/-- A field with a default is shown in any case. -/
theorem defaulted (rereads : Rereads read dump again) {default : α}
    (stands : read (dump default) = .accepted (again default))
    (accepted : defaulted r name default read = .accepted a)
    (there : shown.get? name = some (dump a)) :
    Schema.defaulted shown name default read = .accepted (again a) := by
  rw [Schema.defaulted, there]
  refine Reading.within_accepted_iff.mpr ?_
  rw [Schema.defaulted] at accepted
  split at accepted
  · exact rereads.reread (Reading.within_accepted_iff.mp accepted)
  · cases accepted
    exact stands

/-- A field of an update is shown as null unless it is given a value. -/
theorem edit (rereads : Rereads read dump id) (filled : ∀ a, dump a ≠ .null) {e : Edit α}
    (accepted : Edit.ofField r name read = .accepted e)
    (there : shown.get? name = some ((e.written? dump).getD .null)) :
    Edit.ofField shown name read = .accepted e.shown := by
  rw [Edit.ofField, Schema.defaulted, there]
  refine Reading.within_accepted_iff.mpr ?_
  rcases Edit.cases_of_ofField accepted with ⟨-, rfl⟩ | ⟨-, rfl⟩ | ⟨v, a, -, -, first, rfl⟩
  · rfl
  · rfl
  · have second : read (dump a) = .accepted a := rereads.reread first
    dsimp only [Edit.written?, Option.getD_some]
    split
    · next null => exact absurd null (filled a)
    · rw [second]
      rfl

end Fields

end Rereads

end MusicianGraph
