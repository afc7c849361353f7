import MusicianGraph.Model.Suggestion
import MusicianGraph.Distance
import MusicianGraph.Failure

/-! # Ranking candidates

Candidates are scored and put in the order of their scores; candidates with equal scores keep their
order. There are four strategies: shared genres, shared instruments and activity, where the highest
score comes first, and proximity, where the nearest candidate comes first and those without a
location come last. Rankings only order what was fetched, so the best are the best of those. -/

namespace MusicianGraph

/-- The tag lists of a profile. -/
inductive TagField where
  | genres
  | instruments
deriving DecidableEq, Repr

def UserProfile.tagsIn (p : UserProfile) : TagField → List String
  | .genres => p.genres
  | .instruments => p.instruments

/-- The ways to rank candidates. -/
inductive Strategy where
  | genres
  | instruments
  | proximity
  | activity
deriving DecidableEq, Repr

namespace Strategy

/-- All strategies. -/
def all : List Strategy := [genres, instruments, proximity, activity]

def name : Strategy → String
  | genres => "genres"
  | instruments => "instruments"
  | proximity => "proximity"
  | activity => "activity"

def ofName? (s : String) : Option Strategy := all.find? fun strategy => strategy.name == s

/-- The strategy that a value names. -/
def ofValue (v : Value) : Except Failure Strategy :=
  let found :=
    match v with
    | .text s => ofName? s
    | _ => none
  match found with
  | some strategy => .ok strategy
  | none => .error (.unknownStrategy v)

end Strategy

namespace Ranking

/-- How many suggestions are made unless a number is asked for. -/
def defaultCount : Int := 10

/-- How many different tags two lists share. -/
def tagOverlap {α : Type} [BEq α] (tags others : List α) : Nat :=
  (tags.eraseDups.filter others.contains).length

/-- Each candidate with the number of tags it shares with the given ones. -/
def scoreByTags (tags : List String) (field : TagField) (candidates : List UserProfile) :
    List CandidateScore :=
  candidates.map fun c => ⟨c, some (Float.ofNat (tagOverlap tags (c.tagsIn field)))⟩

/-- The places in the list of the candidates that have a location. -/
def located (candidates : List UserProfile) : List Nat :=
  (candidates.zipIdx.filter fun (c, _) => c.location.isSome).map (·.2)

/-- The distances of those candidates from the origin, each under the candidate's place. -/
def distancesByPlace (origin : GeoPoint) (candidates : List UserProfile) : List (Nat × Float) :=
  let places := located candidates
  let points := places.filterMap fun i => candidates[i]?.bind (·.location)
  places.zip (distancesMiles origin points)

/-- Each candidate with its distance from the origin; candidates without a location have none. -/
def scoreByProximity (origin : GeoPoint) (candidates : List UserProfile) : List CandidateScore :=
  let distances := distancesByPlace origin candidates
  candidates.zipIdx.map fun (c, i) => ⟨c, distances.lookup i⟩

/-- A candidate with its number of posts. -/
def activityScore (c : UserProfile) : Except Failure CandidateScore :=
  let score := Float.ofInt c.postCount
  if isFiniteNumber score then .ok ⟨c, some score⟩ else .error .tooLargeForFloat

/-- Each candidate with its number of posts. -/
def scoreByActivity (candidates : List UserProfile) : Except Failure (List CandidateScore) :=
  candidates.mapM activityScore

/-- May the first candidate stand before the second when high scores come first? -/
def higherFirst (a b : CandidateScore) : Bool :=
  orderKey (b.score.getD 0.0) ≤ orderKey (a.score.getD 0.0)

/-- May the first candidate stand before the second when small distances come first and unmeasured
ones last? -/
def nearerFirst (a b : CandidateScore) : Bool :=
  match a.score, b.score with
  | _, none => true
  | none, some _ => false
  | some x, some y => orderKey x ≤ orderKey y

/-- The first `k`; none if `k` is negative. -/
def take (k : Int) (scored : List CandidateScore) : List CandidateScore := scored.take k.toNat

/-- The best `k` candidates by the number of tags they share with the given ones. -/
def byTags (tags : List String) (candidates : List UserProfile) (k : Int) (field : TagField) :
    List CandidateScore :=
  take k ((scoreByTags tags field candidates).mergeSort higherFirst)

/-- The nearest `k` candidates. Without an origin nothing is measured and the order stays. -/
def byProximity (origin : Option GeoPoint) (candidates : List UserProfile) (k : Int) :
    List CandidateScore :=
  match origin with
  | none => take k (candidates.map fun c => ⟨c, none⟩)
  | some origin => take k ((scoreByProximity origin candidates).mergeSort nearerFirst)

/-- The `k` candidates with the most posts. -/
def byActivity (candidates : List UserProfile) (k : Int) : Except Failure (List CandidateScore) :=
  if k ≤ 0 then .ok []
  else do
    let scored ← scoreByActivity candidates
    .ok (take k (scored.mergeSort higherFirst))

/-- The best `k` candidates for a user by a strategy. -/
def rankFor (strategy : Strategy) (user : UserProfile) (candidates : List UserProfile) (k : Int) :
    Except Failure (List CandidateScore) :=
  match strategy with
  | .genres => .ok (byTags user.genres candidates k .genres)
  | .instruments => .ok (byTags user.instruments candidates k .instruments)
  | .proximity => .ok (byProximity user.location candidates k)
  | .activity => byActivity candidates k

end Ranking

end MusicianGraph
