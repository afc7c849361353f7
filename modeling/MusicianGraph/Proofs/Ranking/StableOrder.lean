import Mathlib.Data.List.Basic
import Mathlib.Data.List.Perm.Basic

/-! # Stable orders by a whole number

Items are put in the order of a measure, the greatest first, and those that measure the same keep
their order. A stable order is determined by that: there is only one. So it can be said exactly when
the first items in the order of a coarse measure are the first ones in the order of a finer one. -/

namespace MusicianGraph

variable {α : Type}

/-- The items from the greatest measure to the least; those of one measure keep their order. -/
def greatestFirst (measure : α → Int) (items : List α) : List α :=
  items.mergeSort fun a b => decide (measure b ≤ measure a)

section GreatestFirst

variable (measure : α → Int) (items : List α)

private theorem measure_trans (a b c : α) (ab : decide (measure b ≤ measure a) = true)
    (bc : decide (measure c ≤ measure b) = true) : decide (measure c ≤ measure a) = true :=
  decide_eq_true (Int.le_trans (of_decide_eq_true bc) (of_decide_eq_true ab))

private theorem measure_total (a b : α) :
    (decide (measure b ≤ measure a) || decide (measure a ≤ measure b)) = true := by
  simp only [Bool.or_eq_true, decide_eq_true_eq]
  omega

theorem greatestFirst_perm : (greatestFirst measure items).Perm items := List.mergeSort_perm _ _

theorem greatestFirst_pairwise :
    (greatestFirst measure items).Pairwise fun a b => measure b ≤ measure a := by
  have sorted := List.pairwise_mergeSort (measure_trans measure) (measure_total measure) items
  exact sorted.imp of_decide_eq_true

/-- Items that measure the same stay as they are. -/
theorem greatestFirst_filter {p : α → Bool}
    (alike : ∀ a b, p a = true → p b = true → measure a = measure b) :
    (greatestFirst measure items).filter p = items.filter p := by
  have equal : (items.filter p).Pairwise fun a b => decide (measure b ≤ measure a) = true := by
    refine List.pairwise_of_forall_mem_list fun a ha b hb => ?_
    have same := alike a b (List.mem_filter.mp ha).2 (List.mem_filter.mp hb).2
    exact decide_eq_true (by omega)
  have kept : (items.filter p).Sublist (greatestFirst measure items) :=
    List.sublist_mergeSort (measure_trans measure) (measure_total measure) equal
      List.filter_sublist
  have among := kept.filter p
  rw [List.filter_filter] at among
  simp only [Bool.and_self] at among
  exact (among.eq_of_length ((greatestFirst_perm measure items).filter p).length_eq.symm).symm

theorem greatestFirst_filter_measure (value : Int) :
    (greatestFirst measure items).filter (measure · = value) = items.filter (measure · = value) :=
  greatestFirst_filter measure items fun _ _ ha hb =>
    (of_decide_eq_true ha).trans (of_decide_eq_true hb).symm

end GreatestFirst

theorem le_head_of_mem {measure : α → Int} {rest : List α} {a b : α}
    (sorted : (a :: rest).Pairwise fun a b => measure b ≤ measure a) (listed : b ∈ a :: rest) :
    measure b ≤ measure a := by
  rcases List.mem_cons.mp listed with rfl | later
  · exact Int.le_refl _
  · exact (List.pairwise_cons.mp sorted).1 b later

/-- A stable order is determined by the items of each measure. -/
theorem eq_of_filter_eq (measure : α → Int) {items others : List α}
    (sorted : items.Pairwise fun a b => measure b ≤ measure a)
    (sorted' : others.Pairwise fun a b => measure b ≤ measure a)
    (same : ∀ value, items.filter (measure · = value) = others.filter (measure · = value)) :
    items = others := by
  have members : ∀ a, a ∈ items ↔ a ∈ others := by
    intro a
    have kept := congrArg (a ∈ ·) (same (measure a))
    simpa using kept
  induction items generalizing others with
  | nil =>
    cases others with
    | nil => rfl
    | cons b more => exact absurd ((members b).mpr List.mem_cons_self) List.not_mem_nil
  | cons a rest ih =>
    cases others with
    | nil => exact absurd ((members a).mp List.mem_cons_self) List.not_mem_nil
    | cons b more =>
      -- Each of the two heads is somewhere in the other list, so they measure the same.
      have upper : measure b ≤ measure a :=
        le_head_of_mem sorted ((members b).mpr List.mem_cons_self)
      have lower : measure a ≤ measure b :=
        le_head_of_mem sorted' ((members a).mp List.mem_cons_self)
      have equal : measure a = measure b := Int.le_antisymm lower upper
      have heads := same (measure a)
      simp only [List.filter_cons, equal, decide_true, if_true, List.cons.injEq] at heads
      obtain ⟨rfl, -⟩ := heads
      have rests : ∀ value, rest.filter (measure · = value) = more.filter (measure · = value) := by
        intro value
        have here := same value
        rw [List.filter_cons, List.filter_cons] at here
        split_ifs at here
        · exact (List.cons.inj here).2
        · exact here
      refine congrArg (a :: ·) (ih sorted.of_cons sorted'.of_cons rests fun c => ?_)
      have kept := congrArg (c ∈ ·) (rests (measure c))
      simpa using kept

/-- Some of the items of a list are in another list in the same order. So if one of them splits the
first list, it splits the other one. -/
theorem exists_split_of_filter_eq {p : α → Bool} {items others before after : List α} {a : α}
    (same : items.filter p = others.filter p) (split : items = before ++ a :: after)
    (picked : p a = true) :
    ∃ before' after', others = before' ++ a :: after' ∧ before'.filter p = before.filter p ∧
      after'.filter p = after.filter p := by
  rw [split, List.filter_append, List.filter_cons_of_pos picked] at same
  obtain ⟨left, right, rfl, lefts, rights⟩ := List.filter_eq_append_iff.mp same.symm
  obtain ⟨skipped, after', rfl, none, -, rests⟩ := List.filter_eq_cons_iff.mp rights
  refine ⟨left ++ skipped, after', by rw [List.append_assoc], ?_, rests⟩
  have empty : skipped.filter p = [] := List.filter_eq_nil_iff.mpr none
  rw [List.filter_append, lefts, empty, List.append_nil]

/-- The first `k` items and all that come later are related. -/
theorem take_related_iff {r : α → α → Prop} {items : List α} {k : Nat} :
    ((items.take k).Pairwise r ∧ ∀ a ∈ items.take k, ∀ b ∈ items.drop k, r a b) ↔
      ∀ before a after, items = before ++ a :: after → before.length < k → ∀ b ∈ after, r a b := by
  constructor
  · rintro ⟨within, across⟩ before a after rfl early b later
    have cut : k = before.length + (k - before.length - 1 + 1) := by omega
    rw [cut, List.take_length_add_append, List.take_succ_cons] at within across
    rw [List.drop_length_add_append, List.drop_succ_cons] at across
    rw [← List.take_append_drop (k - before.length - 1) after, List.mem_append] at later
    rcases later with kept | left
    · exact (List.pairwise_cons.mp (List.pairwise_append.mp within).2.1).1 b kept
    · exact across a (List.mem_append_right _ List.mem_cons_self) b left
  · intro related
    induction items generalizing k with
    | nil => simp
    | cons a rest ih =>
      cases k with
      | zero => simp
      | succ k =>
        have head : ∀ b ∈ rest, r a b := related [] a rest rfl (Nat.succ_pos k)
        obtain ⟨within, across⟩ := ih (k := k) fun before c after split early =>
          related (a :: before) c after (congrArg (a :: ·) split) (Nat.succ_lt_succ early)
        rw [List.take_succ_cons, List.drop_succ_cons]
        refine ⟨within.cons fun b kept => head b (List.mem_of_mem_take kept), ?_⟩
        intro c kept b left
        rcases List.mem_cons.mp kept with rfl | kept
        · exact head b (List.mem_of_mem_drop left)
        · exact across c kept b left

/-- An item stands behind those that measure more, and behind those of the same measure that come
before it. -/
theorem length_before_greatestFirst {measure : α → Int} {items before after : List α} {a : α}
    (split : greatestFirst measure items = before ++ a :: after) :
    before.length = items.countP (measure a < measure ·) +
      before.countP (measure · = measure a) := by
  have sorted := greatestFirst_pairwise measure items
  rw [split] at sorted
  obtain ⟨-, rest, across⟩ := List.pairwise_append.mp sorted
  have more : before.countP (measure a < measure ·) = items.countP (measure a < measure ·) := by
    rw [← (greatestFirst_perm measure items).countP_eq, split, List.countP_append]
    refine (Nat.add_eq_left.mpr (List.countP_eq_zero.mpr ?_)).symm
    intro b later
    have := le_head_of_mem rest later
    simp only [decide_eq_true_eq]
    omega
  have equal : before.countP (fun b => decide ¬ decide (measure a < measure b) = true) =
      before.countP (measure · = measure a) := by
    refine List.countP_congr fun b listed => ?_
    have := across b listed a List.mem_cons_self
    simp only [decide_eq_true_eq]
    omega
  rw [← more, ← equal]
  exact List.length_eq_countP_add_countP _

section Finer

variable {coarse fine : α → Int} (finer : ∀ a b, fine a ≤ fine b → coarse a ≤ coarse b)
  (items : List α) (k : Nat)

include finer

/-- Items that measure the same finely do so coarsely, so the coarse order leaves them as they
are. -/
theorem greatestFirst_filter_finer (value : Int) :
    (greatestFirst coarse items).filter (fine · = value) = items.filter (fine · = value) := by
  refine greatestFirst_filter coarse items fun a b ha hb => ?_
  have equal : fine a = fine b := (of_decide_eq_true ha).trans (of_decide_eq_true hb).symm
  exact Int.le_antisymm (finer a b (Int.le_of_eq equal)) (finer b a (Int.le_of_eq equal.symm))

/-- If the first items in the coarse order are in the fine order already, and all others belong
behind them, it is enough to put those others in the fine order. -/
theorem take_append_greatestFirst_drop
    (within : ((greatestFirst coarse items).take k).Pairwise fun a b => fine b ≤ fine a)
    (across : ∀ a ∈ (greatestFirst coarse items).take k,
      ∀ b ∈ (greatestFirst coarse items).drop k, fine b ≤ fine a) :
    (greatestFirst coarse items).take k ++
      greatestFirst fine ((greatestFirst coarse items).drop k) = greatestFirst fine items := by
  refine eq_of_filter_eq fine ?_ (greatestFirst_pairwise fine items) fun value => ?_
  · refine List.pairwise_append.mpr ⟨within, greatestFirst_pairwise fine _, ?_⟩
    intro a kept b left
    exact across a kept b ((greatestFirst_perm fine _).mem_iff.mp left)
  · rw [List.filter_append, greatestFirst_filter_measure, ← List.filter_append,
      List.take_append_drop, greatestFirst_filter_finer finer, greatestFirst_filter_measure]

/-- The first items in the coarse order are the first ones in the fine order if they, and all that
come later, are in the fine order already. -/
theorem take_greatestFirst_eq_iff_related :
    (greatestFirst coarse items).take k = (greatestFirst fine items).take k ↔
      ((greatestFirst coarse items).take k).Pairwise (fun a b => fine b ≤ fine a) ∧
        ∀ a ∈ (greatestFirst coarse items).take k, ∀ b ∈ (greatestFirst coarse items).drop k,
          fine b ≤ fine a := by
  constructor
  · intro same
    have perm : (greatestFirst coarse items).Perm (greatestFirst fine items) :=
      (greatestFirst_perm coarse items).trans (greatestFirst_perm fine items).symm
    rw [← List.take_append_drop k (greatestFirst coarse items),
      ← List.take_append_drop k (greatestFirst fine items), same, List.perm_append_left_iff] at perm
    have sorted := greatestFirst_pairwise fine items
    rw [← List.take_append_drop k (greatestFirst fine items)] at sorted
    obtain ⟨within, -, across⟩ := List.pairwise_append.mp sorted
    rw [same]
    exact ⟨within, fun a kept b left => across a kept b (perm.mem_iff.mp left)⟩
  · rintro ⟨within, across⟩
    rw [← take_append_greatestFirst_drop finer items k within across]
    rcases Nat.le_total k (greatestFirst coarse items).length with enough | few
    · exact (List.take_left' (List.length_take_of_le enough)).symm
    · have none : greatestFirst fine [] = [] := List.mergeSort_nil
      rw [List.drop_eq_nil_of_le few, none, List.append_nil, List.take_take, Nat.min_self]

/-- Cutting the coarse order gives what cutting the fine order gives, unless an item is kept and one
that comes later, measures the same coarsely and more finely is put behind it. -/
theorem take_greatestFirst_eq_iff :
    (greatestFirst coarse items).take k = (greatestFirst fine items).take k ↔
      ∀ before a after, items = before ++ a :: after →
        ∀ b ∈ after, coarse a = coarse b → fine a < fine b →
          k ≤ items.countP (coarse a < coarse ·) + before.countP (coarse · = coarse a) := by
  rw [take_greatestFirst_eq_iff_related finer, take_related_iff]
  have same : ∀ a, (greatestFirst coarse items).filter (coarse · = coarse a) =
      items.filter (coarse · = coarse a) := fun a =>
    greatestFirst_filter_measure coarse items (coarse a)
  constructor
  · intro related before a after split b later equal less
    obtain ⟨before', after', split', befores, afters⟩ :=
      exists_split_of_filter_eq (same a).symm split (decide_eq_true rfl)
    have place := length_before_greatestFirst split'
    rw [List.countP_eq_length_filter (l := before'), befores,
      ← List.countP_eq_length_filter] at place
    have listed : b ∈ after'.filter (coarse · = coarse a) := by
      rw [afters]
      exact List.mem_filter.mpr ⟨later, decide_eq_true equal.symm⟩
    rw [← place]
    by_contra early
    have := related before' a after' split' (by omega) b (List.mem_of_mem_filter listed)
    omega
  · intro apart before a after split early b later
    by_contra less
    obtain ⟨before', after', split', befores, afters⟩ :=
      exists_split_of_filter_eq (same a) split (decide_eq_true rfl)
    have place := length_before_greatestFirst split
    rw [List.countP_eq_length_filter (l := before), ← befores,
      ← List.countP_eq_length_filter] at place
    have sorted := greatestFirst_pairwise coarse items
    rw [split] at sorted
    have upper := (List.pairwise_cons.mp (List.pairwise_append.mp sorted).2.1).1 b later
    have equal : coarse a = coarse b := Int.le_antisymm (finer a b (by omega)) upper
    have listed : b ∈ after'.filter (coarse · = coarse a) := by
      rw [afters]
      exact List.mem_filter.mpr ⟨later, decide_eq_true equal.symm⟩
    have := apart before' a after' split' b (List.mem_of_mem_filter listed) equal (by omega)
    omega

end Finer

end MusicianGraph
