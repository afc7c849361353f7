import MusicianGraph.Proofs.Value.Sameness

/-! # The first of each class

Repetitions are dropped by comparing each item with the ones that were kept. What is left are the
items that no earlier item is the same as: sameness is an equivalence on the values of JSON, so an
item that is the same as a dropped one is the same as a kept one too. -/

namespace MusicianGraph

section Repetitions

variable {α : Type} [BEq α] {items : List α} {a : α}

theorem eraseDups_loop_concat (kept items : List α) (a : α) :
    List.eraseDupsBy.loop (· == ·) (items ++ [a]) kept =
      List.eraseDupsBy.loop (· == ·) items kept ++
        if (List.eraseDupsBy.loop (· == ·) items kept).any (a == ·) then [] else [a] := by
  induction items generalizing kept with
  | nil =>
    simp only [List.nil_append, List.eraseDupsBy.loop, List.any_reverse]
    cases kept.any (a == ·) with
    | true => simp
    | false => simp
  | cons b rest ih =>
    rw [List.cons_append, List.eraseDupsBy.loop, List.eraseDupsBy.loop]
    cases kept.any (b == ·) with
    | true => exact ih kept
    | false => exact ih (b :: kept)

/-- A last item is kept if it is the same as none that was kept. -/
theorem eraseDups_concat (items : List α) (a : α) :
    (items ++ [a]).eraseDups =
      items.eraseDups ++ if items.eraseDups.any (a == ·) then [] else [a] :=
  eraseDups_loop_concat [] items a

theorem mem_of_mem_eraseDups (kept : a ∈ items.eraseDups) : a ∈ items := by
  induction items using List.reverseRecOn with
  | nil => exact kept
  | append_singleton items b ih =>
    rw [eraseDups_concat] at kept
    rcases List.mem_append.mp kept with before | last
    · exact List.mem_append_left _ (ih before)
    · split at last
      · cases last
      · exact List.mem_append_right _ last

/-- No item that is kept is the same as one before it. -/
theorem pairwise_eraseDups (items : List α) :
    items.eraseDups.Pairwise fun a b => (b == a) = false := by
  induction items using List.reverseRecOn with
  | nil => exact List.Pairwise.nil
  | append_singleton items b ih =>
    rw [eraseDups_concat, List.pairwise_append]
    refine ⟨ih, ?_, ?_⟩
    · split <;> simp
    · intro a kept c last
      split at last
      · cases last
      · next unseen =>
        rw [List.mem_singleton.mp last]
        exact Bool.eq_false_iff.mpr fun alike =>
          unseen (List.any_eq_true.mpr ⟨a, kept, alike⟩)

section Lawful

variable [LawfulBEq α]

theorem nodup_eraseDups (items : List α) : items.eraseDups.Nodup :=
  (pairwise_eraseDups items).imp fun apart => (ne_of_beq_false apart).symm

theorem any_beq_eraseDups [DecidableEq α] (items : List α) (a : α) :
    items.eraseDups.any (a == ·) = decide (a ∈ items) := by
  rw [Bool.eq_iff_iff, List.any_eq_true, decide_eq_true_iff, ← List.mem_eraseDups]
  simp only [beq_iff_eq, exists_eq_right']

/-- Where nothing is repeated, all is kept. -/
theorem eraseDups_of_nodup (different : items.Nodup) : items.eraseDups = items := by
  classical
  induction items using List.reverseRecOn with
  | nil => rfl
  | append_singleton items a ih =>
    obtain ⟨before, -, apart⟩ := List.nodup_append.mp different
    have new : a ∉ items := fun listed => apart a listed a (List.mem_singleton.mpr rfl) rfl
    rw [eraseDups_concat, any_beq_eraseDups, ih before, decide_eq_false new]
    rfl

/-- Items that come later add those that were not there before. -/
theorem eraseDups_append_filter [DecidableEq α] (items more : List α) :
    (items ++ more).eraseDups =
      items.eraseDups ++ more.eraseDups.filter (· ∉ items.eraseDups) := by
  induction more using List.reverseRecOn with
  | nil => simp
  | append_singleton more a ih =>
    rw [← List.append_assoc, eraseDups_concat, eraseDups_concat, any_beq_eraseDups,
      any_beq_eraseDups, ih, List.filter_append, List.append_assoc]
    congr 2
    by_cases before : a ∈ items <;> by_cases seen : a ∈ more <;>
      simp [before, seen, List.mem_eraseDups]

end Lawful

end Repetitions

namespace Value

variable {items : List Value} {v w : Value}

/-- The items that no item before is the same as, each with its place in the list. -/
def firstPlaces (items : List Value) : List (Value × Nat) :=
  items.zipIdx.filter fun place => !(items.take place.2).any (same place.1)

theorem place_le {place : Value × Nat} (listed : place ∈ items.zipIdx) :
    place.2 ≤ items.length := by
  obtain ⟨inside, -⟩ := List.getElem?_eq_some_iff.mp (List.mem_zipIdx_iff_getElem?.mp listed)
  exact inside.le

/-- A last item is one of them if it is the same as none before. -/
theorem firstPlaces_concat (items : List Value) (v : Value) :
    firstPlaces (items ++ [v]) =
      firstPlaces items ++ if items.any (same v) then [] else [(v, items.length)] := by
  rw [firstPlaces, List.zipIdx_append, List.filter_append]
  congr 1
  · refine List.filter_congr fun place listed => ?_
    rw [List.take_append_of_le_length (place_le listed)]
  · rw [List.zipIdx_cons, List.zipIdx_nil, List.filter_cons, Nat.zero_add, List.take_left]
    cases items.any (same v) <;> rfl

theorem eraseDups_concat (items : List Value) (v : Value) :
    (items ++ [v]).eraseDups =
      items.eraseDups ++ if items.eraseDups.any (same v) then [] else [v] :=
  MusicianGraph.eraseDups_concat items v

/-- An item that is not kept is the same as one that is. -/
theorem mem_eraseDups_or_same (listed : v ∈ items) :
    v ∈ items.eraseDups ∨ ∃ k ∈ items.eraseDups, same v k = true := by
  induction items using List.reverseRecOn with
  | nil => cases listed
  | append_singleton items u ih =>
    rw [eraseDups_concat]
    rcases List.mem_append.mp listed with before | last
    · rcases ih before with kept | ⟨k, kept, alike⟩
      · exact .inl (List.mem_append_left _ kept)
      · exact .inr ⟨k, List.mem_append_left _ kept, alike⟩
    · rw [List.mem_singleton] at last
      subst last
      cases seen : items.eraseDups.any (same v) with
      | true =>
        obtain ⟨k, kept, alike⟩ := List.any_eq_true.mp seen
        exact .inr ⟨k, List.mem_append_left _ kept, alike⟩
      | false => exact .inl (List.mem_append_right _ (List.mem_singleton.mpr rfl))

section Json

variable (json : ∀ v ∈ items, IsJson v)
include json

theorem exists_same_in_eraseDups (listed : v ∈ items) : ∃ k ∈ items.eraseDups, same v k = true := by
  rcases mem_eraseDups_or_same listed with kept | alike
  · exact ⟨v, kept, (json v listed).same_refl⟩
  · exact alike

/-- It makes no difference whether an item is compared with those that were kept or with all. -/
theorem any_same_eraseDups (json' : IsJson v) :
    items.eraseDups.any (same v) = items.any (same v) := by
  rw [Bool.eq_iff_iff, List.any_eq_true, List.any_eq_true]
  constructor
  · rintro ⟨k, kept, alike⟩
    exact ⟨k, mem_of_mem_eraseDups kept, alike⟩
  · rintro ⟨w, listed, alike⟩
    obtain ⟨k, kept, alike'⟩ := exists_same_in_eraseDups json listed
    have json'' := json k (mem_of_mem_eraseDups kept)
    exact ⟨k, kept, json'.same_trans (json w listed) json'' alike alike'⟩

/-- What is kept is the first of each class. Each stands behind as many others as there are classes
before its place. -/
theorem zipIdx_eraseDups :
    items.eraseDups.zipIdx =
      (firstPlaces items).map fun place => (place.1, (firstPlaces (items.take place.2)).length) := by
  induction items using List.reverseRecOn with
  | nil => rfl
  | append_singleton items u ih =>
    have before : ∀ v ∈ items, IsJson v := fun v listed => json v (List.mem_append_left _ listed)
    have sizes := congrArg List.length (ih before)
    rw [List.length_zipIdx, List.length_map] at sizes
    rw [eraseDups_concat, firstPlaces_concat, any_same_eraseDups before (json u (by simp)),
      List.zipIdx_append, ih before, List.map_append]
    congr 1
    · refine List.map_congr_left fun place first => ?_
      rw [List.take_append_of_le_length (place_le (List.mem_filter.mp first).1)]
    · cases items.any (same u) with
      | true => rfl
      | false => simp [sizes]

/-- Of each class exactly one item is kept. -/
theorem countP_eraseDups (listed : w ∈ items) :
    items.eraseDups.countP (fun k => same k w) = 1 := by
  induction items using List.reverseRecOn generalizing w with
  | nil => cases listed
  | append_singleton items u ih =>
    have before : ∀ v ∈ items, IsJson v := fun v listed => json v (List.mem_append_left _ listed)
    have last : IsJson u := json u (by simp)
    rw [eraseDups_concat, any_same_eraseDups before last, List.countP_append]
    cases seen : items.any (same u) with
    | true =>
      rw [if_pos rfl, List.countP_nil, Nat.add_zero]
      rcases List.mem_append.mp listed with earlier | here
      · exact ih before earlier
      · obtain ⟨v, earlier, alike⟩ := List.any_eq_true.mp seen
        rw [List.mem_singleton] at here
        subst here
        rw [← ih before earlier]
        refine List.countP_congr fun k kept => ?_
        have there := before k (mem_of_mem_eraseDups kept)
        have other := before v earlier
        exact ⟨fun first => there.same_trans last other first alike,
          fun first => there.same_trans other last first (last.same_symm other alike)⟩
    | false =>
      rw [if_neg Bool.false_ne_true, List.countP_singleton]
      rcases List.mem_append.mp listed with earlier | here
      · rw [ih before earlier, if_neg (List.any_eq_false.mp seen w earlier)]
      · rw [List.mem_singleton] at here
        subst here
        have new : items.eraseDups.countP (fun k => same k w) = 0 := by
          refine List.countP_eq_zero.mpr fun k kept alike => ?_
          have earlier := mem_of_mem_eraseDups kept
          exact List.any_eq_false.mp seen k earlier ((before k earlier).same_symm last alike)
        rw [new, last.same_refl]
        rfl

end Json

end Value

end MusicianGraph
