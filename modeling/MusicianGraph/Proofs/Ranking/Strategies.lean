import MusicianGraph.Proofs.Number.OrderKey
import MusicianGraph.Proofs.Ranking.Positions
import MusicianGraph.Proofs.Value.Distinct
import MusicianGraph.Selection
import Mathlib.Data.Finset.Card
import Mathlib.Data.Finset.Basic
import Mathlib.Data.List.Dedup

/-! # What a ranking returns

The four strategies differ in the score of a candidate and in which of two scores is ahead. All
else is shared: a ranking is a stable sort of the scored candidates that is cut after `k` of them.
From this it follows which positions of the input are returned, and in which order. -/

namespace MusicianGraph

section Overlap

variable {α : Type}

/-- The overlap of two lists of tags is the size of the intersection of their sets. -/
theorem tagOverlap_eq_card [BEq α] [LawfulBEq α] [DecidableEq α] (tags others : List α) :
    Ranking.tagOverlap tags others = (tags.toFinset ∩ others.toFinset).card := by
  have once : (tags.eraseDups.filter others.contains).Nodup := (nodup_eraseDups tags).filter _
  rw [Ranking.tagOverlap, ← List.toFinset_card_of_nodup once]
  congr 1
  ext tag
  simp [List.mem_eraseDups]

end Overlap

namespace Strategy

variable (strategy : Strategy) (user : UserProfile)

/-- The score of a candidate for a user. By proximity it takes both of their locations. -/
def scoreFor (c : UserProfile) : Option Float :=
  match strategy with
  | genres => some (Float.ofNat (user.genres.toFinset ∩ c.genres.toFinset).card)
  | instruments => some (Float.ofNat (user.instruments.toFinset ∩ c.instruments.toFinset).card)
  | proximity => user.location.bind fun origin => c.location.map (distanceMiles origin)
  | activity => some (Float.ofInt c.postCount)

/-- The candidates as they are, each with its own score. -/
def scored (candidates : List UserProfile) : List CandidateScore :=
  candidates.map fun c => ⟨c, strategy.scoreFor user c⟩

/-- Is the first candidate strictly ahead of the second? By proximity the nearer one is, and any
measured one is ahead of those that are not; by the other strategies the higher score is. Numbers
are compared by their keys. -/
def Ahead (a b : CandidateScore) : Prop :=
  match strategy, a.score, b.score with
  | proximity, some x, some y => orderKey x < orderKey y
  | proximity, some _, none => True
  | proximity, none, _ => False
  | _, some x, some y => orderKey y < orderKey x
  | _, _, _ => False

/-- The order that a strategy sorts by. -/
def mayPrecede : CandidateScore → CandidateScore → Bool :=
  match strategy with
  | proximity => Ranking.nearerFirst
  | _ => Ranking.higherFirst

/-- Among numbers, ahead is nearer by proximity and higher otherwise. -/
theorem ahead_iff_lt {a b : CandidateScore} {x y : Float} (ha : a.score = some x)
    (hb : b.score = some y) (hx : x.isNaN = false) (hy : y.isNaN = false) :
    strategy.Ahead a b ↔ if strategy = proximity then ¬ y ≤ x else ¬ x ≤ y := by
  have forth := orderKey_le_iff hx hy
  have back := orderKey_le_iff hy hx
  cases strategy <;> simp only [Ahead, ha, hb, reduceCtorEq, if_true, if_false] <;>
    first | rw [← forth] | rw [← back]
  all_goals omega

end Strategy

namespace Ranking

theorem higherFirst_trans (a b c : CandidateScore) (ab : higherFirst a b = true)
    (bc : higherFirst b c = true) : higherFirst a c = true := by
  simp only [higherFirst, decide_eq_true_eq] at *
  omega

theorem higherFirst_total (a b : CandidateScore) :
    (higherFirst a b || higherFirst b a) = true := by
  simp only [higherFirst, Bool.or_eq_true, decide_eq_true_eq]
  omega

theorem nearerFirst_trans (a b c : CandidateScore) (ab : nearerFirst a b = true)
    (bc : nearerFirst b c = true) : nearerFirst a c = true := by
  obtain ⟨_, _ | x⟩ := a <;> obtain ⟨_, _ | y⟩ := b <;> obtain ⟨_, _ | z⟩ := c <;>
    simp only [nearerFirst, Bool.false_eq_true, decide_eq_true_eq] at *
  omega

theorem nearerFirst_total (a b : CandidateScore) :
    (nearerFirst a b || nearerFirst b a) = true := by
  obtain ⟨_, _ | x⟩ := a <;> obtain ⟨_, _ | y⟩ := b <;>
    simp only [nearerFirst, Bool.or_eq_true, decide_eq_true_eq, Bool.or_true, Bool.true_or]
  omega

/-- The order of every strategy is one that a stable sort respects. -/
theorem mayPrecede_order (strategy : Strategy) :
    (∀ a b c, strategy.mayPrecede a b = true → strategy.mayPrecede b c = true →
      strategy.mayPrecede a c = true) ∧
      ∀ a b, (strategy.mayPrecede a b || strategy.mayPrecede b a) = true := by
  cases strategy with
  | proximity => exact ⟨nearerFirst_trans, nearerFirst_total⟩
  | genres | instruments | activity => exact ⟨higherFirst_trans, higherFirst_total⟩

/-- One scored candidate is ahead of another one if the other may not precede it. -/
theorem ahead_iff_not_mayPrecede (strategy : Strategy) (user : UserProfile)
    (candidates : List UserProfile) {a b : CandidateScore}
    (ha : a ∈ strategy.scored user candidates) (hb : b ∈ strategy.scored user candidates) :
    strategy.Ahead a b ↔ strategy.mayPrecede b a = false := by
  cases strategy with
  | proximity =>
    obtain ⟨_, _ | x⟩ := a <;> obtain ⟨_, _ | y⟩ := b <;>
      simp [Strategy.Ahead, Strategy.mayPrecede, nearerFirst]
  | genres | instruments | activity =>
    obtain ⟨c, -, rfl⟩ := List.mem_map.mp ha
    obtain ⟨d, -, rfl⟩ := List.mem_map.mp hb
    change _ ↔ higherFirst _ _ = false
    rw [higherFirst, decide_eq_false_iff_not, Int.not_le]
    rfl

theorem scoreByTags_eq_scored (user : UserProfile) (candidates : List UserProfile) :
    scoreByTags user.genres .genres candidates = Strategy.genres.scored user candidates ∧
      scoreByTags user.instruments .instruments candidates =
        Strategy.instruments.scored user candidates := by
  constructor <;>
    simp only [scoreByTags, Strategy.scored, Strategy.scoreFor, tagOverlap_eq_card,
      UserProfile.tagsIn]

theorem scoreByActivity_eq_scored (user : UserProfile) {candidates : List UserProfile}
    (convertible : ∀ c ∈ candidates, isFiniteNumber (Float.ofInt c.postCount) = true) :
    scoreByActivity candidates = .ok (Strategy.activity.scored user candidates) := by
  rw [scoreByActivity, Strategy.scored]
  induction candidates with
  | nil => rfl
  | cons c rest ih =>
    have first : activityScore c = .ok ⟨c, Strategy.activity.scoreFor user c⟩ := by
      rw [activityScore, if_pos (convertible c List.mem_cons_self)]
      rfl
    rw [List.mapM_cons, first, ih fun d member => convertible d (List.mem_cons_of_mem c member)]
    rfl

section Places

/-- What is told of some of the items of a list, found again under the places of these items. -/
theorem lookup_places {α β : Type} (tell : α → Option β) (items : List α) (start i : Nat) :
    ((items.zipIdx start).filterMap fun (a, place) => (tell a).map fun b => (place, b)).lookup i =
      if start ≤ i then items[i - start]?.bind tell else none := by
  induction items generalizing start with
  | nil => simp
  | cons a rest ih =>
    -- The first place is the first item's own, and every later one belongs to the rest.
    rcases Nat.lt_trichotomy i start with before | rfl | after
    · have early : ¬ start ≤ i := by omega
      have early' : ¬ start + 1 ≤ i := by omega
      have other : (i == start) = false := beq_eq_false_iff_ne.mpr before.ne
      have rest := ih (start + 1)
      rw [if_neg early'] at rest
      rw [if_neg early, List.zipIdx_cons]
      cases told : tell a <;> simpa only [List.filterMap_cons, told, Option.map_none,
        Option.map_some, List.lookup_cons, other] using rest
    · have early : ¬ i + 1 ≤ i := by omega
      have rest := ih (i + 1)
      rw [if_neg early] at rest
      rw [if_pos le_rfl, Nat.sub_self, List.getElem?_cons_zero, Option.bind_some, List.zipIdx_cons]
      cases told : tell a with
      | none => simpa only [List.filterMap_cons, told, Option.map_none] using rest
      | some b => simp only [List.filterMap_cons, told, Option.map_some, List.lookup_cons, BEq.rfl]
    · obtain ⟨d, rfl⟩ : ∃ d, i = start + 1 + d := ⟨i - (start + 1), by omega⟩
      have other : (start + 1 + d == start) = false := beq_eq_false_iff_ne.mpr after.ne'
      have place : start + 1 + d - start = d + 1 := by omega
      have rest := ih (start + 1)
      rw [if_pos (Nat.le_add_right _ _), Nat.add_sub_cancel_left] at rest
      rw [if_pos after.le, place, List.getElem?_cons_succ, List.zipIdx_cons]
      cases told : tell a <;> simpa only [List.filterMap_cons, told, Option.map_none,
        Option.map_some, List.lookup_cons, other] using rest

/-- The places of the items with a location and the distances of their locations stand side by
side. -/
theorem zip_located (origin : GeoPoint) (items : List (UserProfile × Nat)) :
    ((items.filter fun (c, _) => c.location.isSome).map (·.2)).zip
        (((items.filter fun (c, _) => c.location.isSome).filterMap (·.1.location)).map
          (distanceMiles origin)) =
      items.filterMap fun (c, i) =>
        (c.location.map (distanceMiles origin)).map fun distance => (i, distance) := by
  induction items with
  | nil => rfl
  | cons item rest ih =>
    obtain ⟨c, i⟩ := item
    cases found : c.location with
    | none => simpa [found] using ih
    | some p => simpa [found] using ih

/-- Under the place of every candidate with a location stands the distance of that location. -/
theorem distancesByPlace_eq (origin : GeoPoint) (candidates : List UserProfile) :
    distancesByPlace origin candidates = candidates.zipIdx.filterMap fun (c, i) =>
      (c.location.map (distanceMiles origin)).map fun distance => (i, distance) := by
  have own : ((located candidates).filterMap fun i => candidates[i]?.bind (·.location)) =
      (candidates.zipIdx.filter fun (c, _) => c.location.isSome).filterMap (·.1.location) := by
    rw [located, List.filterMap_map]
    refine List.filterMap_congr fun item kept => ?_
    have here := List.mem_zipIdx_iff_getElem?.mp (List.mem_filter.mp kept).1
    change candidates[item.2]?.bind _ = _
    rw [here, Option.bind_some]
  simp only [distancesByPlace, distancesMiles, own]
  exact zip_located origin candidates.zipIdx

/-- Each candidate gets the distance of its own location, and none if it has none. -/
theorem scoreByProximity_eq (origin : GeoPoint) (candidates : List UserProfile) :
    scoreByProximity origin candidates =
      candidates.map fun c => ⟨c, c.location.map (distanceMiles origin)⟩ := by
  have all : candidates = candidates.zipIdx.map Prod.fst := (List.zipIdx_map_fst 0 candidates).symm
  conv => rhs; rw [all, List.map_map]
  refine List.map_congr_left fun item listed => ?_
  have here := List.mem_zipIdx_iff_getElem?.mp listed
  have found := lookup_places (fun c : UserProfile => c.location.map (distanceMiles origin))
    candidates 0 item.2
  rw [if_pos (Nat.zero_le _), Nat.sub_zero, here, Option.bind_some] at found
  change CandidateScore.mk item.1 ((distancesByPlace origin candidates).lookup item.2) = _
  rw [distancesByPlace_eq, found]
  rfl

end Places

/-- Sorting changes nothing where nothing was measured. -/
theorem byProximity_eq (user : UserProfile) (candidates : List UserProfile) (k : Int) :
    byProximity user.location candidates k =
      take k ((Strategy.proximity.scored user candidates).mergeSort nearerFirst) := by
  cases place : user.location with
  | none =>
    have unmeasured : Strategy.proximity.scored user candidates =
        candidates.map fun c => ⟨c, none⟩ := by
      simp only [Strategy.scored, Strategy.scoreFor, place, Option.bind_none]
    have sorted : (candidates.map fun c => (⟨c, none⟩ : CandidateScore)).Pairwise
        fun a b => nearerFirst a b = true := by
      rw [List.pairwise_map]
      exact List.pairwise_of_forall fun _ _ => rfl
    rw [byProximity, unmeasured, List.mergeSort_of_pairwise sorted]
  | some origin =>
    simp only [byProximity, scoreByProximity_eq, Strategy.scored, Strategy.scoreFor, place,
      Option.bind_some]

/-- Every strategy sorts the scored candidates and cuts after `k`. -/
theorem rankFor_eq (strategy : Strategy) (user : UserProfile) (candidates : List UserProfile)
    (k : Int) (convertible : strategy = .activity →
      ∀ c ∈ candidates, isFiniteNumber (Float.ofInt c.postCount) = true) :
    rankFor strategy user candidates k =
      .ok (((strategy.scored user candidates).mergeSort strategy.mayPrecede).take k.toNat) := by
  cases strategy with
  | genres => rw [rankFor, byTags, (scoreByTags_eq_scored user candidates).1]; rfl
  | instruments => rw [rankFor, byTags, (scoreByTags_eq_scored user candidates).2]; rfl
  | proximity => rw [rankFor, byProximity_eq]; rfl
  | activity =>
    rw [rankFor, byActivity]
    split
    · have : k.toNat = 0 := by omega
      rw [this, List.take_zero]
    · rw [scoreByActivity_eq_scored user (convertible rfl)]
      rfl

end Ranking

namespace Selection

theorem ofValue_int (k : Int) :
    Wanted.ofValue (.int k) = .ok (if k ≤ 0 then .nothing else .first k.toNat) := by
  by_cases none : k ≤ 0 <;>
    simp only [Wanted.ofValue, Value.against, Comparison.ofInt, Value.whole?, none, if_true,
      if_false, decide_true, decide_false, Bool.false_eq_true, bind, Except.bind]

/-- A whole number cuts a ranking that exists there; below zero nothing is left. -/
theorem firstOf_int (k : Int) (ranked : List CandidateScore) :
    firstOf (.int k) (.ok ranked) = .ok (ranked.take k.toNat) := by
  rw [firstOf, ofValue_int]
  by_cases none : k ≤ 0
  · have zero : k.toNat = 0 := by omega
    rw [if_pos none, zero, List.take_zero]
    rfl
  · rw [if_neg none]
    rfl

/-- A whole number cuts the stable sort of the scored candidates, by every strategy. -/
theorem rankFor_int (strategy : Strategy) (user : UserProfile) (candidates : List UserProfile)
    (k : Int) (convertible : strategy = .activity →
      ∀ c ∈ candidates, isFiniteNumber (Float.ofInt c.postCount) = true) :
    rankFor strategy user candidates (.int k) =
      .ok (((strategy.scored user candidates).mergeSort strategy.mayPrecede).take k.toNat) := by
  have whole : ((strategy.scored user candidates).mergeSort strategy.mayPrecede).take
      (candidates.length : Int).toNat =
        (strategy.scored user candidates).mergeSort strategy.mayPrecede := by
    apply List.take_of_length_le
    rw [List.length_mergeSort, Strategy.scored, List.length_map, Int.toNat_natCast]
  have among : firstAmong candidates (.int k)
      (.ok ((strategy.scored user candidates).mergeSort strategy.mayPrecede)) =
        .ok (((strategy.scored user candidates).mergeSort strategy.mayPrecede).take k.toNat) := by
    rw [firstAmong, ofValue_int]
    cases candidates with
    | nil => simp [Strategy.scored, bind, Except.bind]
    | cons c rest => exact firstOf_int k _
  unfold rankFor
  simp only [Ranking.rankFor_eq strategy user candidates _ convertible, whole]
  cases strategy with
  | genres | instruments => exact firstOf_int k _
  | proximity | activity => exact among

/-- A ranking returns the best positions of the scored candidates: each candidate unchanged with its
own score, the best first, candidates with equal scores in the order of the input. A count that is
too large for a floating point number can be met only by activity. -/
theorem rankFor_best (strategy : Strategy) (user : UserProfile)
    (candidates : Option (List UserProfile)) (k : Int) (convertible : strategy = .activity →
      ∀ c ∈ candidates.getD [], isFiniteNumber (Float.ofInt c.postCount) = true) :
    ∃ ranked positions,
      rankFor strategy user (candidates.getD []) (.int k) = .ok ranked ∧
        ranked.map some = positions.map ((strategy.scored user (candidates.getD []))[·]?) ∧
        BestPositions strategy.Ahead (strategy.scored user (candidates.getD [])) k.toNat
          positions := by
  obtain ⟨trans, total⟩ := Ranking.mayPrecede_order strategy
  obtain ⟨positions, kept, best⟩ :=
    exists_bestPositions trans total (strategy.scored user (candidates.getD [])) k.toNat
  refine ⟨_, positions, rankFor_int strategy user _ k convertible, kept, best.congr ?_⟩
  intro a ha b hb
  exact (Ranking.ahead_iff_not_mayPrecede strategy user _ ha hb).symm

/-- A profile with nothing but an identifier, a number of posts and perhaps a location. -/
def newcomer (userId : String) (postCount : Int) (location : Option GeoPoint) : UserProfile where
  userId := userId
  username := userId
  name := none
  bio := none
  avatarUrl := none
  genres := []
  instruments := []
  location := location
  postCount := postCount
  followersCount := 0
  followingCount := 0
  hourRate := none
  soloArtist := false

theorem rankFor_best_activity :
    (∀ c ∈ [newcomer "a" 1 none, newcomer "b" 2 none],
      isFiniteNumber (Float.ofInt c.postCount) = true) ∧
    ∃ ranked positions,
      rankFor .activity (newcomer "me" 0 none) [newcomer "a" 1 none, newcomer "b" 2 none] (.int 1) =
        .ok ranked ∧
      ranked.map some = positions.map ((Strategy.activity.scored (newcomer "me" 0 none)
        [newcomer "a" 1 none, newcomer "b" 2 none])[·]?) ∧
      BestPositions Strategy.activity.Ahead (Strategy.activity.scored (newcomer "me" 0 none)
        [newcomer "a" 1 none, newcomer "b" 2 none]) 1 positions := by
  have finite : ∀ c ∈ [newcomer "a" 1 none, newcomer "b" 2 none],
      isFiniteNumber (Float.ofInt c.postCount) = true := by
    decide +kernel
  exact ⟨finite, rankFor_best .activity (newcomer "me" 0 none)
    (some [newcomer "a" 1 none, newcomer "b" 2 none]) 1 fun _ => finite⟩

/-- The place where both axes of the coordinates cross. -/
def crossing : GeoPoint := ⟨0.0, 0.0, by decide +kernel, by decide +kernel⟩

/-- A user without a location measures nothing: a located candidate has no distance then, and it
stays behind one without a location. -/
theorem rankFor_unmeasured :
    rankFor .proximity (newcomer "me" 0 none)
        [newcomer "a" 0 none, newcomer "b" 0 (some crossing)] (.int 2) =
      .ok [⟨newcomer "a" 0 none, none⟩, ⟨newcomer "b" 0 (some crossing), none⟩] ∧
    ¬ ((⟨newcomer "b" 0 (some crossing), none⟩ : CandidateScore).score = none ↔
      (newcomer "b" 0 (some crossing)).location = none) := by
  constructor
  · rfl
  · simp [newcomer]

end Selection

end MusicianGraph
