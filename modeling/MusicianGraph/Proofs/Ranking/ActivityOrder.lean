import MusicianGraph.Proofs.Number.WholeNumbers
import MusicianGraph.Proofs.Ranking.StableOrder
import MusicianGraph.Proofs.Ranking.Strategies

/-! # The order of post counts

By activity the score of a candidate is its number of posts as a floating point number. Such a score
keeps the leading 53 binary digits of the count, and a count that is too large has none, in which
case the ranking fails. So candidates are ranked by their rounded counts, and here it is said when
that is the order of the counts themselves. -/

namespace MusicianGraph

/-- A candidate with its number of posts as its score. -/
def UserProfile.withPosts (c : UserProfile) : CandidateScore := ⟨c, some (Float.ofInt c.postCount)⟩

/-- What is left of the number of posts in the score. -/
def UserProfile.roundedPosts (c : UserProfile) : Int := roundedInt c.postCount

namespace Ranking

variable {candidates : List UserProfile}

theorem scoreByActivity_of_small
    (small : ∀ c ∈ candidates, c.postCount.natAbs < leastTooLarge) :
    scoreByActivity candidates = .ok (candidates.map UserProfile.withPosts) := by
  rw [scoreByActivity]
  induction candidates with
  | nil => rfl
  | cons c rest ih =>
    obtain ⟨first, others⟩ := List.forall_mem_cons.mp small
    have scored : activityScore c = .ok c.withPosts := by
      rw [activityScore, if_pos ((isFiniteNumber_ofInt_iff c.postCount).mpr first)]
      rfl
    rw [List.mapM_cons, scored, ih others]
    rfl

theorem scoreByActivity_of_large (large : ∃ c ∈ candidates, leastTooLarge ≤ c.postCount.natAbs) :
    scoreByActivity candidates = .error .tooLargeForFloat := by
  rw [scoreByActivity]
  induction candidates with
  | nil => simp at large
  | cons c rest ih =>
    have finite := isFiniteNumber_ofInt_iff c.postCount
    rw [List.mapM_cons]
    by_cases first : leastTooLarge ≤ c.postCount.natAbs
    · have refused : activityScore c = .error .tooLargeForFloat := by
        rw [activityScore, if_neg (by rw [finite]; omega)]
      rw [refused]
      rfl
    · have scored : activityScore c = .ok c.withPosts := by
        rw [activityScore, if_pos (by rw [finite]; omega)]
        rfl
      have others : ∃ c ∈ rest, leastTooLarge ≤ c.postCount.natAbs := by
        simpa [first] using large
      rw [scored, ih others]
      rfl

/-- Scores are in the order of the rounded counts. -/
theorem mergeSort_withPosts (small : ∀ c ∈ candidates, c.postCount.natAbs < leastTooLarge) :
    (candidates.map UserProfile.withPosts).mergeSort higherFirst =
      (greatestFirst UserProfile.roundedPosts candidates).map UserProfile.withPosts := by
  refine (List.map_mergeSort fun a ha b hb => ?_).symm
  exact decide_eq_decide.mpr (orderKey_ofInt_le_iff (small b hb) (small a ha)).symm

end Ranking

namespace Selection

/-- By activity the candidates are ranked by their rounded counts, unless one of them is too large
for a score. -/
theorem byActivity_eq (candidates : List UserProfile) (k : Int) :
    byActivity candidates (.int k) =
      if 0 < k ∧ ∃ c ∈ candidates, leastTooLarge ≤ c.postCount.natAbs then
        .error .tooLargeForFloat
      else .ok (((greatestFirst UserProfile.roundedPosts candidates).take k.toNat).map
        UserProfile.withPosts) := by
  rw [byActivity, firstAmong, ofValue_int]
  cases candidates with
  | nil => simp [greatestFirst, bind, Except.bind]
  | cons c rest =>
    have some : ¬ ((c :: rest).length : Int) ≤ 0 := by
      rw [List.length_cons]
      omega
    change firstOf (.int k) _ = _
    rw [Ranking.byActivity, if_neg some]
    by_cases none : k ≤ 0
    · have zero : k.toNat = 0 := by omega
      rw [firstOf, ofValue_int, if_pos none, if_neg (by omega), zero, List.take_zero]
      rfl
    · by_cases large : ∃ d ∈ c :: rest, leastTooLarge ≤ d.postCount.natAbs
      · rw [if_pos ⟨by omega, large⟩, Ranking.scoreByActivity_of_large large, firstOf, ofValue_int,
          if_neg none]
        rfl
      · have small : ∀ d ∈ c :: rest, d.postCount.natAbs < leastTooLarge := fun d listed =>
          Nat.lt_of_not_le fun more => large ⟨d, listed, more⟩
        have whole : ((greatestFirst UserProfile.roundedPosts (c :: rest)).map
            UserProfile.withPosts).length ≤ ((c :: rest).length : Int).toNat := by
          rw [List.length_map, (greatestFirst_perm _ _).length_eq, Int.toNat_natCast]
        rw [if_neg fun both => large both.2, Ranking.scoreByActivity_of_small small, List.map_take]
        change firstOf (.int k) (.ok (Ranking.take _ (List.mergeSort _ _))) = _
        rw [Ranking.mergeSort_withPosts small, Ranking.take, List.take_of_length_le whole,
          firstOf_int]

/-- Are counts that rounding takes to one told apart where it matters? They are unless one of the
first `k` is followed in the list by a candidate with more posts and the same rounded count. -/
def ToldApart (candidates : List UserProfile) (k : Nat) : Prop :=
  ∀ before a after, candidates = before ++ a :: after →
    ∀ b ∈ after, a.roundedPosts = b.roundedPosts → a.postCount < b.postCount →
      k ≤ candidates.countP (a.roundedPosts < ·.roundedPosts) +
        before.countP (·.roundedPosts = a.roundedPosts)

/-- A ranking by activity fails exactly when candidates are wanted and some count is too large for a
score. It is the order of the exact counts exactly when it does not fail and rounding makes no
candidate stand before one with more posts. -/
theorem byActivity_exact_iff (candidates : List UserProfile) (k : Int) :
    (byActivity candidates (.int k) = .error .tooLargeForFloat ↔
      0 < k ∧ ∃ c ∈ candidates, leastTooLarge ≤ c.postCount.natAbs) ∧
    (byActivity candidates (.int k) =
        .ok (((greatestFirst (·.postCount) candidates).take k.toNat).map UserProfile.withPosts) ↔
      (0 < k → ∀ c ∈ candidates, c.postCount.natAbs < leastTooLarge) ∧
        ToldApart candidates k.toNat) := by
  have finer : ∀ a b : UserProfile, a.postCount ≤ b.postCount → a.roundedPosts ≤ b.roundedPosts :=
    fun _ _ le => roundedInt_mono le
  have exact_iff := take_greatestFirst_eq_iff finer candidates k.toNat
  have injective : Function.Injective UserProfile.withPosts := fun a b same =>
    congrArg CandidateScore.profile same
  rw [byActivity_eq]
  by_cases large : 0 < k ∧ ∃ c ∈ candidates, leastTooLarge ≤ c.postCount.natAbs
  · obtain ⟨positive, c, listed, more⟩ := large
    rw [if_pos ⟨positive, c, listed, more⟩]
    refine ⟨iff_of_true rfl ⟨positive, c, listed, more⟩, iff_of_false (fun same => nomatch same) ?_⟩
    rintro ⟨small, -⟩
    exact absurd (small positive c listed) (Nat.not_lt.mpr more)
  · have small : 0 < k → ∀ c ∈ candidates, c.postCount.natAbs < leastTooLarge :=
      fun positive c listed => Nat.lt_of_not_le fun more => large ⟨positive, c, listed, more⟩
    rw [if_neg large]
    refine ⟨iff_of_false (fun same => nomatch same) large, ?_⟩
    rw [Except.ok.injEq, injective.list_map.eq_iff, exact_iff]
    exact (and_iff_right small).symm

/-- Two counts with one rounded count keep the order of the input, the smaller one first, and a
count that is too large fails. -/
theorem byActivity_inexact :
    (byActivity [newcomer "a" (2 ^ 53) none, newcomer "b" (2 ^ 53 + 1) none] (.int 2) =
        .ok [(newcomer "a" (2 ^ 53) none).withPosts, (newcomer "b" (2 ^ 53 + 1) none).withPosts] ∧
      (newcomer "a" (2 ^ 53) none).postCount < (newcomer "b" (2 ^ 53 + 1) none).postCount) ∧
    byActivity [newcomer "a" (10 ^ 400) none] (.int 1) = .error .tooLargeForFloat := by
  have equal : [newcomer "a" (2 ^ 53) none, newcomer "b" (2 ^ 53 + 1) none].Pairwise
      fun a b => decide (b.roundedPosts ≤ a.roundedPosts) = true := by
    decide +kernel
  have kept : greatestFirst UserProfile.roundedPosts
      [newcomer "a" (2 ^ 53) none, newcomer "b" (2 ^ 53 + 1) none] =
        [newcomer "a" (2 ^ 53) none, newcomer "b" (2 ^ 53 + 1) none] :=
    List.mergeSort_of_pairwise equal
  refine ⟨⟨?_, by decide⟩, ?_⟩
  · rw [byActivity_eq, if_neg (by decide +kernel), kept]
    rfl
  · rw [byActivity_eq, if_pos (by decide +kernel)]

end Selection

end MusicianGraph
