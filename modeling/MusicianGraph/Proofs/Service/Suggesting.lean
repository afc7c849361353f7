import MusicianGraph.Proofs.Graph.Exchange
import MusicianGraph.Proofs.Ranking.Strategies
import MusicianGraph.Service.Discovery
import MusicianGraph.Service.Profiles

/-! # Fetching and ranking

To suggest users is to fetch candidates with at most one statement and to rank what was fetched.
Without room for a single candidate nothing is fetched. -/

namespace MusicianGraph

section Ranked

variable (strategy : Strategy) (user : UserProfile) (candidates : List UserProfile) (k : Int)

theorem Strategy.ofValue_name : Strategy.ofValue (.text strategy.name) = .ok strategy := by
  cases strategy <;> rfl

namespace Selection

/-- Nothing is ranked if nothing is wanted, so then no number of posts is looked at. -/
theorem rankFor_nonpositive (none : k ≤ 0) :
    rankFor strategy user candidates (.int k) = .ok [] := by
  have zero : k.toNat = 0 := by omega
  by_cases active : strategy = .activity
  · subst active
    simp only [rankFor, firstAmong, firstOf, ofValue_int, if_pos none, bind, Except.bind]
    split <;> rfl
  · rw [rankFor_int strategy user candidates k fun same => absurd same active, zero, List.take_zero]

/-- A ranking has no more entries than are wanted, and only candidates. It exists if all numbers of
posts that are looked at are small enough for floating point numbers. -/
theorem exists_rankFor (convertible : strategy = .activity → 0 < k →
      ∀ c ∈ candidates, isFiniteNumber (Float.ofInt c.postCount) = true) :
    ∃ ranked, rankFor strategy user candidates (.int k) = .ok ranked ∧
      ranked.length ≤ k.toNat ∧ ∀ entry ∈ ranked, entry.profile ∈ candidates := by
  by_cases positive : 0 < k
  · refine ⟨_, rankFor_int strategy user candidates k fun active => convertible active positive,
      List.length_take_le _ _, ?_⟩
    intro entry kept
    have scored := List.mem_mergeSort.mp (List.mem_of_mem_take kept)
    obtain ⟨c, listed, rfl⟩ := List.mem_map.mp scored
    exact listed
  · refine ⟨[], rankFor_nonpositive strategy user candidates k (by omega), Nat.zero_le _, ?_⟩
    exact fun entry kept => absurd kept List.not_mem_nil

theorem rankFor_nil : rankFor strategy user [] (.int k) = .ok [] := by
  have nobody : strategy = .activity →
      ∀ c ∈ ([] : List UserProfile), isFiniteNumber (Float.ofInt c.postCount) = true :=
    fun _ c listed => absurd listed List.not_mem_nil
  rw [rankFor_int strategy user [] k nobody]
  simp [Strategy.scored]

end Selection

end Ranked

open Conversation

theorem Profiles.get_isExchange (userId : Value) :
    IsExchange (get userId) (.ok (lookupStatement userId)) fun row =>
      (Stored.profile row).outcome := by
  have exchange : IsExchange _ (.ok (lookupStatement userId)) fun row =>
      (Stored.profile row).outcome :=
    isExchange_of_settles fun row => (Settles.ofReadout (Stored.profile row)).map some
  exact exchange

namespace Discovery

/-- The profiles that are fetched for a user, given the reply to the statement that asks for them:
those of all rows, in order. -/
def fetched (limit : Int) (reply : Reply) : Except Failure (List UserProfile) :=
  if 0 < limit then do
    let rows ← reply.result
    rows.mapM fun row => (Stored.profile row).outcome
  else .ok []

/-- What is done with the candidates once they are there. -/
def rankFetched (user : UserProfile) (strategy : Strategy) (limit k : Int)
    (candidates : List UserProfile) : Conversation (List CandidateScore) := do
  log .debug ("Fetched " ++ toString candidates.length ++ " candidates for "
    ++ user.userId ++ " (limit " ++ loggedNumber (.int limit) ++ ")")
  if candidates.isEmpty then do
    log .info ("No follow candidates for " ++ user.userId)
    pure []
  else ofExcept do
    let strategy ← Strategy.ofValue (.text strategy.name)
    Selection.rankFor strategy user candidates (.int k)

theorem rankFetched_settles (user : UserProfile) (strategy : Strategy) (limit k : Int)
    (candidates : List UserProfile) :
    Settles (rankFetched user strategy limit k candidates)
      (Selection.rankFor strategy user candidates (.int k)) := by
  have named : Settles (ofExcept do
      let strategy ← Strategy.ofValue (.text strategy.name)
      Selection.rankFor strategy user candidates (.int k))
      (Selection.rankFor strategy user candidates (.int k)) := by
    rw [Strategy.ofValue_name]
    exact Settles.ofExcept _
  cases candidates with
  | nil =>
    rw [Selection.rankFor_nil]
    exact ((Settles.pure []).note _).note _
  | cons c rest => exact named.note _

theorem suggest_eq (settings : Settings) (user : UserProfile) (strategy : Strategy)
    (limit k : Int) :
    suggest settings user (.text strategy.name) (.int limit) (.int k) =
      fetchCandidates (.text user.userId) (.int limit) (.bool true) >>=
        rankFetched user strategy limit k :=
  rfl

/-- Suggesting sends the statement that asks for candidates if there is room for one, and nothing
else. It ends with the ranking of what is fetched. -/
theorem suggest_run (settings : Settings) (user : UserProfile) (strategy : Strategy)
    (limit k : Int) (graph : Graph) (threshold : LogLevel) (count : Nat) :
    ((suggest settings user (.text strategy.name) (.int limit) (.int k)).run graph threshold
        count).statements =
        (if 0 < limit then [candidatesStatement (.text user.userId) (.int limit) (.bool true)]
          else []) ∧
      ((suggest settings user (.text strategy.name) (.int limit) (.int k)).run graph threshold
        count).outcome =
        (fetched limit
          (graph count (candidatesStatement (.text user.userId) (.int limit) (.bool true)))).bind
            fun candidates => Selection.rankFor strategy user candidates (.int k) := by
  rw [suggest_eq, fetched]
  by_cases room : 0 < limit
  · have some : Value.against .atMost (.int limit) = .ok false := by
      rw [Value.against, Comparison.ofInt, decide_eq_false (by omega)]
    have asked : fetchCandidates (.text user.userId) (.int limit) (.bool true) =
        query (candidatesStatement (.text user.userId) (.int limit) (.bool true)) >>=
          readRows Stored.profile := by
      rw [fetchCandidates, some]
      rfl
    rw [asked, bind_assoc, if_pos room, if_pos room]
    obtain ⟨sent, outcome⟩ := run_query_settles
      (candidatesStatement (.text user.userId) (.int limit) (.bool true))
      (fun rows => (Settles.readRows Stored.profile rows).bind
        (rankFetched_settles user strategy limit k)) graph threshold count
    refine ⟨sent, outcome.trans ?_⟩
    cases (graph count (candidatesStatement (.text user.userId) (.int limit) (.bool true))).result
      <;> rfl
  · have none : Value.against .atMost (.int limit) = .ok true := by
      rw [Value.against, Comparison.ofInt, decide_eq_true (by omega)]
    have unasked : fetchCandidates (.text user.userId) (.int limit) (.bool true) = pure [] := by
      rw [fetchCandidates, none]
      rfl
    rw [unasked, pure_bind, if_neg room, if_neg room]
    exact (rankFetched_settles user strategy limit k [] graph threshold count).symm

end Discovery

end MusicianGraph
