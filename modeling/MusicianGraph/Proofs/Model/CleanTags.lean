import MusicianGraph.Proofs.Model.Tags

/-! # What cleaning makes of a list

Cleaning takes the values one by one to their normal forms, leaves out the blank ones and keeps the
first of those that are equal. What is kept is told here by where it comes up first, and so is what
values that come later can add: the tags they have that were not there before. A value that cannot
be shown has no normal form, and a list with such a value is not cleaned at all. -/

namespace MusicianGraph

namespace Tag

/-- The tags are the items without repetitions, in the order in which they come up first. -/
structure ListsFirsts (tags items : List String) : Prop where
  once : tags.Nodup
  same : ∀ t, t ∈ tags ↔ t ∈ items
  inOrder : tags.Pairwise fun s t => items.idxOf s < items.idxOf t

theorem listsFirsts_eraseDups (items : List String) : ListsFirsts items.eraseDups items where
  once := nodup_eraseDups items
  same _ := List.mem_eraseDups
  inOrder := by
    induction items using List.reverseRecOn with
    | nil => exact List.Pairwise.nil
    | append_singleton items s ih =>
      -- A new last item stands behind all others, whose places stay.
      have place : ∀ t ∈ items.eraseDups, (items ++ [s]).idxOf t = items.idxOf t :=
        fun t kept => List.idxOf_append_of_mem (List.mem_eraseDups.mp kept)
      rw [eraseDups_concat, any_beq_eraseDups]
      by_cases before : s ∈ items
      · rw [decide_eq_true before, if_pos rfl, List.append_nil]
        refine ih.imp_of_mem fun {t u} keptT keptU earlier => ?_
        rw [place t keptT, place u keptU]
        exact earlier
      · rw [decide_eq_false before, if_neg Bool.false_ne_true]
        refine List.pairwise_append.mpr ⟨?_, List.pairwise_singleton _ s, ?_⟩
        · refine ih.imp_of_mem fun {t u} keptT keptU earlier => ?_
          rw [place t keptT, place u keptU]
          exact earlier
        · intro t kept u last
          rw [List.mem_singleton.mp last, place t kept, List.idxOf_append_of_notMem before]
          exact Nat.lt_add_right _ (List.idxOf_lt_length_of_mem (List.mem_eraseDups.mp kept))

/-- Texts that come later add the tags that were not there before. -/
theorem cleanTexts_append (texts more : List String) :
    cleanTexts (texts ++ more) =
      cleanTexts texts ++ (cleanTexts more).filter (· ∉ cleanTexts texts) := by
  rw [cleanTexts, List.map_append, List.filter_append, eraseDups_append_filter]
  rfl

theorem clean_append {values : List Value} (showable : Value.areShowable values = true)
    (more : List Value) :
    clean (values ++ more) = (clean more).map fun others =>
      cleanTexts (values.map Value.shownText) ++
        others.filter (· ∉ cleanTexts (values.map Value.shownText)) := by
  have all : Value.areShowable (values ++ more) = Value.areShowable more := by
    rw [Bool.eq_iff_iff, Value.areShowable_iff, Value.areShowable_iff, List.forall_mem_append]
    exact and_iff_right (Value.areShowable_iff.mp showable)
  rw [clean_eq, clean_eq, all]
  split
  · rw [List.map_append, cleanTexts_append]
    rfl
  · rfl

end Tag

end MusicianGraph
