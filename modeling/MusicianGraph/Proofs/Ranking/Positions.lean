import Mathlib.Data.List.Nodup

/-! # The positions that a stable sort puts in front

What a stable sort followed by a cut keeps is said in terms of positions of the input: which
positions are kept, in which order, and why no other one is. An item stands before another one if
it is better, or if neither is better and it comes first. -/

namespace MusicianGraph

open List (zipIdxLE zipIdxLE_trans zipIdxLE_total)

variable {α : Type}

/-- Position `i` comes before position `j`: its item is better, or neither item is better and `i`
is the earlier one. -/
def ComesBefore (better : α → α → Prop) (items : List α) (i j : Nat) : Prop :=
  ∃ a b, items[i]? = some a ∧ items[j]? = some b ∧ (better a b ∨ ¬ better b a ∧ i < j)

/-- The positions of the best `count` items, the best one first. -/
structure BestPositions (better : α → α → Prop) (items : List α) (count : Nat)
    (positions : List Nat) : Prop where
  length_eq : positions.length = min count items.length
  inside : ∀ i ∈ positions, i < items.length
  distinct : positions.Nodup
  ordered : positions.Pairwise (ComesBefore better items)
  /-- Whatever is left out comes after all that is kept. -/
  others : ∀ i ∈ positions, ∀ j < items.length, j ∉ positions → ComesBefore better items i j

section Congruence

variable {better preferred : α → α → Prop} {items : List α}
  (same : ∀ a ∈ items, ∀ b ∈ items, (better a b ↔ preferred a b))

include same

/-- Only the comparisons of listed items count. -/
theorem ComesBefore.congr {i j : Nat} (before : ComesBefore better items i j) :
    ComesBefore preferred items i j := by
  obtain ⟨a, b, ha, hb, ahead⟩ := before
  have listedA := List.mem_of_getElem? ha
  have listedB := List.mem_of_getElem? hb
  rw [same a listedA b listedB, same b listedB a listedA] at ahead
  exact ⟨a, b, ha, hb, ahead⟩

theorem BestPositions.congr {count : Nat} {positions : List Nat}
    (best : BestPositions better items count positions) :
    BestPositions preferred items count positions where
  length_eq := best.length_eq
  inside := best.inside
  distinct := best.distinct
  ordered := best.ordered.imp (ComesBefore.congr same)
  others i kept j bound absent := (best.others i kept j bound absent).congr same

end Congruence

/-- The items of a list with their positions, in the order of a stable sort. -/
def sortedPositions (le : α → α → Bool) (items : List α) : List (α × Nat) :=
  items.zipIdx.mergeSort (zipIdxLE le)

section Sorted

variable (le : α → α → Bool) (items : List α)

theorem sortedPositions_perm : (sortedPositions le items).Perm items.zipIdx :=
  List.mergeSort_perm _ _

theorem map_fst_sortedPositions : (sortedPositions le items).map Prod.fst = items.mergeSort le :=
  List.mergeSort_zipIdx

theorem mem_sortedPositions {entry : α × Nat} :
    entry ∈ sortedPositions le items ↔ items[entry.2]? = some entry.1 := by
  rw [(sortedPositions_perm le items).mem_iff, List.mem_zipIdx_iff_getElem?]

theorem sortedPositions_nodup : ((sortedPositions le items).map Prod.snd).Nodup := by
  have same := (sortedPositions_perm le items).map Prod.snd
  rw [List.zipIdx_map_snd] at same
  exact same.nodup_iff.mpr List.nodup_range'

end Sorted

/-- Two entries in sorted order, at different positions, come one before the other. -/
private theorem comesBefore_of_zipIdxLE {le : α → α → Bool} {items : List α} {x y : α × Nat}
    (hx : items[x.2]? = some x.1) (hy : items[y.2]? = some y.1) (different : x.2 ≠ y.2)
    (sorted : zipIdxLE le x y = true) :
    ComesBefore (fun a b => le b a = false) items x.2 y.2 := by
  refine ⟨x.1, y.1, hx, hy, ?_⟩
  cases back : le y.1 x.1 with
  | false => exact .inl back
  | true =>
    right
    simp only [zipIdxLE, back, if_true] at sorted
    split at sorted
    · rename_i forth
      have : x.2 ≤ y.2 := by simpa using sorted
      exact ⟨by simp [forth], by omega⟩
    · exact absurd sorted (by simp)

/-- A stable sort followed by a cut keeps the best positions. -/
theorem exists_bestPositions {le : α → α → Bool}
    (trans : ∀ a b c, le a b = true → le b c = true → le a c = true)
    (total : ∀ a b, (le a b || le b a) = true) (items : List α) (count : Nat) :
    ∃ positions, ((items.mergeSort le).take count).map some = positions.map (items[·]?) ∧
      BestPositions (fun a b => le b a = false) items count positions := by
  have entries : ∀ entry ∈ sortedPositions le items, items[entry.2]? = some entry.1 :=
    fun entry member => (mem_sortedPositions le items).mp member
  have apart : (sortedPositions le items).Pairwise fun x y => x.2 ≠ y.2 :=
    List.pairwise_map.mp (sortedPositions_nodup le items)
  have sorted : (sortedPositions le items).Pairwise fun x y => zipIdxLE le x y = true :=
    List.pairwise_mergeSort (zipIdxLE_trans trans) (zipIdxLE_total total) _
  have before : (sortedPositions le items).Pairwise fun x y =>
      ComesBefore (fun a b => le b a = false) items x.2 y.2 := by
    refine (apart.and sorted).imp_of_mem ?_
    intro x y hx hy both
    exact comesBefore_of_zipIdxLE (entries x hx) (entries y hy) both.1 both.2
  have split : (sortedPositions le items).take count ++ (sortedPositions le items).drop count =
      sortedPositions le items := List.take_append_drop _ _
  refine ⟨((sortedPositions le items).take count).map Prod.snd, ?_, ?_, ?_, ?_, ?_, ?_⟩
  · rw [← map_fst_sortedPositions, ← List.map_take, List.map_map, List.map_map]
    refine List.map_congr_left fun entry member => ?_
    exact (entries entry (List.mem_of_mem_take member)).symm
  · rw [List.length_map, List.length_take, (sortedPositions_perm le items).length_eq,
      List.length_zipIdx]
  · intro i member
    obtain ⟨entry, kept, rfl⟩ := List.mem_map.mp member
    exact (List.getElem?_eq_some_iff.mp (entries entry (List.mem_of_mem_take kept))).1
  · exact (sortedPositions_nodup le items).sublist ((List.take_sublist _ _).map _)
  · exact List.pairwise_map.mpr (before.sublist (List.take_sublist _ _))
  · intro i member j bound absent
    obtain ⟨entry, kept, rfl⟩ := List.mem_map.mp member
    have listed : (items[j], j) ∈ sortedPositions le items :=
      (mem_sortedPositions le items).mpr (List.getElem?_eq_getElem bound)
    rw [← split] at listed before
    rcases List.mem_append.mp listed with early | late
    · exact absurd (List.mem_map.mpr ⟨_, early, rfl⟩) absent
    · exact (List.pairwise_append.mp before).2.2 entry kept _ late

end MusicianGraph
