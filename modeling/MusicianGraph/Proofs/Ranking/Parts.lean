import MusicianGraph.Proofs.Ranking.Strategies

/-! # Ranking a part of the candidates

A ranking is a stable sort, and a stable sort puts each item among those that come later without
moving any of them. So whoever is left out, the others keep their scores and their order. And a
ranking that was cut is sorted already, so ranking it again only cuts it once more. -/

namespace MusicianGraph

section StableSort

variable {α : Type} {le : α → α → Bool}
  (trans : ∀ a b c, le a b = true → le b c = true → le a c = true)
  (total : ∀ a b, (le a b || le b a) = true)

include trans total

/-- The first item stands behind all that it may not precede and before all that it may. The rest
is sorted as it is without the item. -/
theorem mergeSort_cons_eq (a : α) (rest : List α) :
    (a :: rest).mergeSort le =
        (rest.mergeSort le).filter (fun b => !le a b) ++ a :: (rest.mergeSort le).filter (le a) ∧
      rest.mergeSort le =
        (rest.mergeSort le).filter (fun b => !le a b) ++ (rest.mergeSort le).filter (le a) := by
  obtain ⟨ahead, behind, whole, without, refused⟩ := List.mergeSort_cons trans total a rest
  have sorted := List.pairwise_mergeSort trans total (a :: rest)
  rw [whole] at sorted
  have allowed : ∀ b ∈ behind, le a b = true :=
    (List.pairwise_cons.mp (List.pairwise_append.mp sorted).2.1).1
  have former : (rest.mergeSort le).filter (fun b => !le a b) = ahead := by
    have none : behind.filter (fun b => !le a b) = [] := by
      refine List.filter_eq_nil_iff.mpr fun b listed => ?_
      rw [allowed b listed]
      exact Bool.false_ne_true
    rw [without, List.filter_append, List.filter_eq_self.mpr refused, none, List.append_nil]
  have latter : (rest.mergeSort le).filter (le a) = behind := by
    have none : ahead.filter (le a) = [] := by
      refine List.filter_eq_nil_iff.mpr fun b listed => ?_
      have no := refused b listed
      rw [Bool.not_eq_true'] at no
      rw [no]
      exact Bool.false_ne_true
    rw [without, List.filter_append, none, List.filter_eq_self.mpr allowed, List.nil_append]
  rw [former, latter]
  exact ⟨whole, without⟩

/-- To sort what a test picks is to pick from what is sorted. -/
theorem mergeSort_filter (picked : α → Bool) (items : List α) :
    (items.filter picked).mergeSort le = (items.mergeSort le).filter picked := by
  induction items with
  | nil => rw [List.filter_nil, List.mergeSort_nil, List.filter_nil]
  | cons a rest ih =>
    obtain ⟨whole, without⟩ := mergeSort_cons_eq trans total a rest
    cases here : picked a with
    | true =>
      have commute : ∀ p : α → Bool, ((rest.mergeSort le).filter picked).filter p =
          ((rest.mergeSort le).filter p).filter picked := by
        intro p
        rw [List.filter_filter, List.filter_filter]
        exact List.filter_congr fun b _ => Bool.and_comm _ _
      rw [List.filter_cons_of_pos here, (mergeSort_cons_eq trans total a _).1, ih, commute, commute,
        whole, List.filter_append, List.filter_cons_of_pos here]
    | false =>
      have absent : ¬ picked a = true := Bool.eq_false_iff.mp here
      rw [List.filter_cons_of_neg absent, ih, whole, List.filter_append,
        List.filter_cons_of_neg absent, ← List.filter_append, ← without]

/-- Whatever is left out, the others are sorted as before. -/
theorem mergeSort_sublist {others items : List α} (part : others.Sublist items) :
    (others.mergeSort le).Sublist (items.mergeSort le) := by
  induction part with
  | slnil => exact List.Sublist.refl _
  | @cons others items a part ih =>
    obtain ⟨whole, without⟩ := mergeSort_cons_eq trans total a items
    rw [without] at ih
    rw [whole]
    exact ih.trans ((List.sublist_cons_self a _).append_left _)
  | @cons_cons others items a part ih =>
    rw [(mergeSort_cons_eq trans total a others).1, (mergeSort_cons_eq trans total a items).1]
    exact (ih.filter _).append ((ih.filter _).cons_cons a)

end StableSort

namespace Strategy

variable (strategy : Strategy) (user : UserProfile)

/-- All candidates, each with its own score, in the order of the strategy. -/
def ranking (candidates : List UserProfile) : List CandidateScore :=
  (strategy.scored user candidates).mergeSort strategy.mayPrecede

theorem length_ranking (candidates : List UserProfile) :
    (strategy.ranking user candidates).length = candidates.length := by
  rw [ranking, List.length_mergeSort, scored, List.length_map]

/-- A ranking has the candidates with the scores that they have for the user. -/
theorem mem_ranking {candidates : List UserProfile} {entry : CandidateScore} :
    entry ∈ strategy.ranking user candidates ↔
      entry.profile ∈ candidates ∧ entry.score = strategy.scoreFor user entry.profile := by
  rw [ranking, List.mem_mergeSort, scored, List.mem_map]
  constructor
  · rintro ⟨c, listed, rfl⟩
    exact ⟨listed, rfl⟩
  · rintro ⟨listed, own⟩
    exact ⟨entry.profile, listed, by rw [← own]⟩

/-- Those that a test picks are ranked as they are among all. -/
theorem ranking_filter (picked : UserProfile → Bool) (candidates : List UserProfile) :
    strategy.ranking user (candidates.filter picked) =
      (strategy.ranking user candidates).filter fun entry => picked entry.profile := by
  obtain ⟨trans, total⟩ := Ranking.mayPrecede_order strategy
  rw [ranking, ranking, ← mergeSort_filter trans total, scored, scored, List.filter_map]
  rfl

/-- Those that are not left out are ranked as they are among all. -/
theorem ranking_sublist {others candidates : List UserProfile} (part : others.Sublist candidates) :
    (strategy.ranking user others).Sublist (strategy.ranking user candidates) := by
  obtain ⟨trans, total⟩ := Ranking.mayPrecede_order strategy
  exact mergeSort_sublist trans total (part.map _)

/-- The best candidates are ranked already. -/
theorem ranking_take (candidates : List UserProfile) (n : Nat) :
    strategy.ranking user (((strategy.ranking user candidates).take n).map CandidateScore.profile) =
      (strategy.ranking user candidates).take n := by
  obtain ⟨trans, total⟩ := Ranking.mayPrecede_order strategy
  have sorted : ((strategy.ranking user candidates).take n).Pairwise
      fun a b => strategy.mayPrecede a b = true :=
    (List.pairwise_mergeSort trans total _).sublist (List.take_sublist _ _)
  have scored : strategy.scored user
      (((strategy.ranking user candidates).take n).map CandidateScore.profile) =
        (strategy.ranking user candidates).take n := by
    rw [Strategy.scored, List.map_map]
    refine (List.map_congr_left fun entry kept => ?_).trans (List.map_id _)
    have own := ((strategy.mem_ranking user).mp (List.mem_of_mem_take kept)).2
    change (⟨entry.profile, strategy.scoreFor user entry.profile⟩ : CandidateScore) = entry
    rw [← own]
  rw [ranking, scored, List.mergeSort_of_pairwise sorted]

end Strategy

namespace Selection

/-- The ranking of all candidates: what any number gives that is large enough. -/
def RanksAs (strategy : Strategy) (user : UserProfile) (candidates : List UserProfile)
    (ranked : List CandidateScore) : Prop :=
  ∀ k : Int, candidates.length ≤ k → rankFor strategy user candidates (.int k) = .ok ranked

section Some

variable (strategy : Strategy) (user : UserProfile) {candidates others : List UserProfile}
  (convertible : strategy = .activity →
    ∀ c ∈ candidates, isFiniteNumber (Float.ofInt c.postCount) = true)
  (among : ∀ c ∈ others, c ∈ candidates)

include convertible among

/-- Candidates that are ranked alone have scores if all of them have. -/
theorem rankFor_among (k : Int) : rankFor strategy user others (.int k) =
    .ok ((strategy.ranking user others).take k.toNat) :=
  rankFor_int strategy user others k fun active c listed => convertible active c (among c listed)

theorem ranksAs_ranking : RanksAs strategy user others (strategy.ranking user others) := by
  intro k enough
  have whole : (strategy.ranking user others).length ≤ k.toNat := by
    rw [strategy.length_ranking]
    omega
  rw [rankFor_among strategy user convertible among, List.take_of_length_le whole]

end Some

/-- The candidates that a test picks are ranked as they are among all candidates: of the ranking
of all, the entries that the test picks. Likewise when candidates are left out at any places, the
ranking of the others is what the ranking of all leaves of it, with the same scores in the same
order. -/
theorem rankFor_part (strategy : Strategy) (user : UserProfile) (candidates : List UserProfile)
    (convertible : strategy = .activity →
      ∀ c ∈ candidates, isFiniteNumber (Float.ofInt c.postCount) = true) :
    ∃ ranked, RanksAs strategy user candidates ranked ∧
      (∀ picked : UserProfile → Bool, RanksAs strategy user (candidates.filter picked)
        (ranked.filter fun entry => picked entry.profile)) ∧
      ∀ others : List UserProfile, others.Sublist candidates →
        ∃ left, RanksAs strategy user others left ∧ left.Sublist ranked := by
  have part_ranked : ∀ others : List UserProfile, others.Sublist candidates →
      RanksAs strategy user others (strategy.ranking user others) := fun others part =>
    ranksAs_ranking strategy user convertible fun _ listed => part.mem listed
  refine ⟨strategy.ranking user candidates, part_ranked _ (List.Sublist.refl _),
    fun picked => ?_, fun others part => ?_⟩
  · rw [← strategy.ranking_filter]
    exact part_ranked _ List.filter_sublist
  · exact ⟨_, part_ranked others part, strategy.ranking_sublist user part⟩

/-- Three candidates with different numbers of posts. -/
def trio : List UserProfile := [newcomer "a" 1 none, newcomer "b" 3 none, newcomer "c" 2 none]

theorem rankFor_part_trio :
    (∀ c ∈ trio, isFiniteNumber (Float.ofInt c.postCount) = true) ∧
      ∃ ranked, RanksAs .activity (newcomer "me" 0 none) trio ranked ∧
        RanksAs .activity (newcomer "me" 0 none) [newcomer "b" 3 none, newcomer "c" 2 none]
          (ranked.filter fun entry => 1 < entry.profile.postCount) ∧
        ∃ left, RanksAs .activity (newcomer "me" 0 none)
            [newcomer "a" 1 none, newcomer "c" 2 none] left ∧
          left.Sublist ranked := by
  have finite : ∀ c ∈ trio, isFiniteNumber (Float.ofInt c.postCount) = true := by decide +kernel
  obtain ⟨ranked, whole, picked, others⟩ :=
    rankFor_part .activity (newcomer "me" 0 none) trio fun _ => finite
  refine ⟨finite, ranked, whole, picked fun c => 1 < c.postCount, others _ ?_⟩
  exact ((List.Sublist.refl [newcomer "c" 2 none]).cons _).cons_cons _

/-- To rank the candidates of a ranking again is to cut it once more: the two numbers give what the
smaller one gives at once, which is a beginning of the ranking. The same number changes nothing. -/
theorem rankFor_again (strategy : Strategy) (user : UserProfile) (candidates : List UserProfile)
    (convertible : strategy = .activity →
      ∀ c ∈ candidates, isFiniteNumber (Float.ofInt c.postCount) = true) (k k' : Int) :
    ∃ ranked again,
      rankFor strategy user candidates (.int k) = .ok ranked ∧
        rankFor strategy user (ranked.map CandidateScore.profile) (.int k') = .ok again ∧
        rankFor strategy user candidates (.int (min k k')) = .ok again ∧
        again <+: ranked ∧
        rankFor strategy user (ranked.map CandidateScore.profile) (.int k) = .ok ranked := by
  have once : ∀ n : Int, rankFor strategy user candidates (.int n) =
      .ok ((strategy.ranking user candidates).take n.toNat) :=
    rankFor_among strategy user convertible fun _ listed => listed
  have twice : ∀ n : Int, rankFor strategy user
      (((strategy.ranking user candidates).take k.toNat).map CandidateScore.profile) (.int n) =
        .ok ((strategy.ranking user candidates).take (min n.toNat k.toNat)) := by
    intro n
    have among : ∀ c ∈ ((strategy.ranking user candidates).take k.toNat).map CandidateScore.profile,
        c ∈ candidates := by
      intro c listed
      obtain ⟨entry, kept, rfl⟩ := List.mem_map.mp listed
      exact ((strategy.mem_ranking user).mp (List.mem_of_mem_take kept)).1
    rw [rankFor_among strategy user convertible among, strategy.ranking_take, List.take_take]
  have smaller : (min k k').toNat = min k'.toNat k.toNat := by omega
  refine ⟨_, _, once k, twice k', ?_, ?_, ?_⟩
  · rw [once, smaller]
  · exact List.take_prefix_take_left (Nat.min_le_right _ _)
  · rw [twice, Nat.min_self]

theorem rankFor_again_trio :
    (∀ c ∈ trio, isFiniteNumber (Float.ofInt c.postCount) = true) ∧
      ∃ ranked again,
        rankFor .activity (newcomer "me" 0 none) trio (.int 2) = .ok ranked ∧
          rankFor .activity (newcomer "me" 0 none) (ranked.map CandidateScore.profile) (.int 1) =
            .ok again ∧
          rankFor .activity (newcomer "me" 0 none) trio (.int 1) = .ok again ∧
          again <+: ranked ∧
          rankFor .activity (newcomer "me" 0 none) (ranked.map CandidateScore.profile) (.int 2) =
            .ok ranked := by
  have finite : ∀ c ∈ trio, isFiniteNumber (Float.ofInt c.postCount) = true := by decide +kernel
  exact ⟨finite, rankFor_again .activity (newcomer "me" 0 none) trio (fun _ => finite) 2 1⟩

end Selection

end MusicianGraph
