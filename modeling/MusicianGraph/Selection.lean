import MusicianGraph.Overlap
import MusicianGraph.Value.Order

/-! # Selections

How many of the ranked candidates are wanted may come as any value. It is compared with zero before
anything is ranked; that it has to be a whole number shows only when the first ones are taken. -/

namespace MusicianGraph

inductive Wanted where
  | nothing
  | first (n : Nat)
  /-- A number above zero that counts nothing. -/
  | uncountable
deriving DecidableEq, Repr

/-- How many candidates a value asks for. -/
def Wanted.ofValue (k : Value) : Except Failure Wanted := do
  if ← k.against .atMost then .ok .nothing
  else
    match k.whole? with
    | some n => .ok (.first n.toNat)
    | none => .ok .uncountable

namespace Selection

/-- The first `k` of a ranking. -/
def firstOf (k : Value) (ranked : Except Failure (List CandidateScore)) :
    Except Failure (List CandidateScore) := do
  match ← Wanted.ofValue k with
  | .nothing => .ok []
  | .first n => ranked.map (·.take n)
  | .uncountable => do
      let _ ← ranked
      .error .notCount

/-- The first `k` of a ranking of some candidates. If there are none, they need not be countable. -/
def firstAmong (candidates : List UserProfile) (k : Value)
    (ranked : Except Failure (List CandidateScore)) : Except Failure (List CandidateScore) := do
  let _ ← Wanted.ofValue k
  if candidates.isEmpty then .ok [] else firstOf k ranked

/-- The best `k` candidates by the number of tags that the named attribute shares with the tags in a
value. -/
def byTags (tags asked : Value) (candidates : List Candidate) (k : Value) :
    Except Failure (List CandidateScore) :=
  firstOf k ((Overlap.scoreAll tags asked candidates).map fun scored =>
    scored.mergeSort Ranking.higherFirst)

/-- The nearest `k` candidates. -/
def byProximity (origin : Option GeoPoint) (candidates : List UserProfile) (k : Value) :
    Except Failure (List CandidateScore) :=
  firstAmong candidates k (.ok (Ranking.byProximity origin candidates candidates.length))

/-- The `k` candidates with the most posts. -/
def byActivity (candidates : List UserProfile) (k : Value) : Except Failure (List CandidateScore) :=
  firstAmong candidates k (Ranking.byActivity candidates candidates.length)

/-- The best `k` candidates for a user by a strategy. -/
def rankFor (strategy : Strategy) (user : UserProfile) (candidates : List UserProfile) (k : Value) :
    Except Failure (List CandidateScore) :=
  let ranked := Ranking.rankFor strategy user candidates candidates.length
  match strategy with
  | .genres | .instruments => firstOf k ranked
  | .proximity | .activity => firstAmong candidates k ranked

end Selection

end MusicianGraph
