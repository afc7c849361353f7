import MusicianGraph.Failure
import Mathlib.Algebra.Group.Nat.Defs
import Mathlib.Data.List.Basic

/-! # Which values can be shown

A whole number of more than 4300 digits is not written out. So a value can be shown exactly if no
such number comes up in its text, at any depth, and values are shown one by one if all of them can
be. -/

namespace MusicianGraph

namespace Value

variable {v : Value} {n : Int}

/-- A whole number comes up in the text of a value. -/
inductive Shows (n : Int) : Value → Prop
  | int : Shows n (int n)
  | item {items : List Value} {v : Value} (listed : v ∈ items) (inside : Shows n v) :
      Shows n (list items)
  | field {fields : Record} {field : String × Value} (listed : field ∈ fields)
      (inside : Shows n field.2) : Shows n (object fields)
  | east {x y srid : Value} (inside : Shows n x) : Shows n (point x y srid)
  | north {x y srid : Value} (inside : Shows n y) : Shows n (point x y srid)

/-- A whole number of more than 4300 digits comes up in the text of a value. -/
def IsTooLong (v : Value) : Prop := ∃ n, Shows n v ∧ 10 ^ 4300 ≤ n.natAbs

theorem isShowable_int_iff : (int n).isShowable = true ↔ n.natAbs < 10 ^ 4300 := by
  have power (digits : Nat) : Nat.pow 10 digits = 10 ^ digits := rfl
  rw [isShowable, decide_eq_true_iff, power, mostDigits]

theorem areShowable_iff {items : List Value} :
    areShowable items = true ↔ ∀ v ∈ items, v.isShowable = true := by
  induction items with
  | nil => simp [areShowable]
  | cons v rest ih => simp [areShowable, ih]

theorem haveShowable_iff {fields : Record} :
    haveShowable fields = true ↔ ∀ field ∈ fields, field.2.isShowable = true := by
  induction fields with
  | nil => simp [haveShowable]
  | cons field rest ih => simp [haveShowable, ih]

theorem Shows.lt (shows : Shows n v) (showable : v.isShowable = true) : n.natAbs < 10 ^ 4300 := by
  induction shows with
  | int => exact isShowable_int_iff.mp showable
  | item listed _ ih =>
    rw [isShowable, areShowable_iff] at showable
    exact ih (showable _ listed)
  | field listed _ ih =>
    rw [isShowable, haveShowable_iff] at showable
    exact ih (showable _ listed)
  | east _ ih =>
    rw [isShowable, Bool.and_eq_true] at showable
    exact ih showable.1
  | north _ ih =>
    rw [isShowable, Bool.and_eq_true] at showable
    exact ih showable.2

mutual

theorem isTooLong_of_not_showable (v : Value) (hidden : v.isShowable = false) : v.IsTooLong := by
  cases v with
  | int n =>
    refine ⟨n, .int, Nat.le_of_not_lt fun short => ?_⟩
    exact Bool.false_ne_true (hidden.symm.trans (isShowable_int_iff.mpr short))
  | list items =>
    obtain ⟨v, listed, n, shows, long⟩ := exists_item_of_not_showable items hidden
    exact ⟨n, .item listed shows, long⟩
  | object fields =>
    obtain ⟨field, listed, n, shows, long⟩ := exists_field_of_not_showable fields hidden
    exact ⟨n, .field listed shows, long⟩
  | point x y srid =>
    rw [isShowable, Bool.and_eq_false_iff] at hidden
    rcases hidden with first | second
    · obtain ⟨n, shows, long⟩ := isTooLong_of_not_showable x first
      exact ⟨n, .east shows, long⟩
    · obtain ⟨n, shows, long⟩ := isTooLong_of_not_showable y second
      exact ⟨n, .north shows, long⟩
  | _ => cases hidden

theorem exists_item_of_not_showable (items : List Value) (hidden : areShowable items = false) :
    ∃ v ∈ items, v.IsTooLong := by
  cases items with
  | nil => cases hidden
  | cons v rest =>
    rw [areShowable, Bool.and_eq_false_iff] at hidden
    rcases hidden with first | later
    · exact ⟨v, List.mem_cons_self, isTooLong_of_not_showable v first⟩
    · obtain ⟨w, listed, long⟩ := exists_item_of_not_showable rest later
      exact ⟨w, List.mem_cons_of_mem v listed, long⟩

theorem exists_field_of_not_showable (fields : List (String × Value))
    (hidden : haveShowable fields = false) : ∃ field ∈ fields, field.2.IsTooLong := by
  cases fields with
  | nil => cases hidden
  | cons field rest =>
    obtain ⟨name, v⟩ := field
    rw [haveShowable, Bool.and_eq_false_iff] at hidden
    rcases hidden with first | later
    · exact ⟨(name, v), List.mem_cons_self, isTooLong_of_not_showable v first⟩
    · obtain ⟨other, listed, long⟩ := exists_field_of_not_showable rest later
      exact ⟨other, List.mem_cons_of_mem (name, v) listed, long⟩

end

/-- A value can be shown exactly if no number in it is too long. -/
theorem isShowable_iff : v.isShowable = true ↔ ¬ v.IsTooLong := by
  constructor
  · rintro showable ⟨n, shows, long⟩
    exact Nat.not_lt_of_le long (shows.lt showable)
  · intro short
    by_contra hidden
    exact short (isTooLong_of_not_showable v (Bool.eq_false_iff.mpr hidden))

theorem areShowable_iff_short {items : List Value} :
    areShowable items = true ↔ ∀ v ∈ items, ¬ v.IsTooLong := by
  rw [areShowable_iff]
  exact forall₂_congr fun _ _ => isShowable_iff

theorem areShowable_texts (texts : List String) : areShowable (texts.map text) = true := by
  rw [areShowable_iff]
  intro v listed
  obtain ⟨s, -, rfl⟩ := List.mem_map.mp listed
  rfl

/-- Values are shown one by one, if all of them can be. -/
theorem mapM_shown (items : List Value) :
    items.mapM shown =
      if areShowable items then .ok (items.map shownText) else .error (.unwritableInt 4300) := by
  induction items with
  | nil => rfl
  | cons v rest ih =>
    rw [List.mapM_cons, ih, shown, areShowable]
    cases v.isShowable with
    | false => rfl
    | true => cases areShowable rest <;> rfl

end Value

end MusicianGraph
