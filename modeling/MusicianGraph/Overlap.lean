import MusicianGraph.Attribute
import MusicianGraph.Ranking

/-! # Overlaps of any values

The tags that candidates are compared with may come as any value that can be gone through item by
item, and any attribute of a candidate may be compared with them. Items count once, by value; what
can change has no place in a set. -/

namespace MusicianGraph

namespace Overlap

/-- Can a value be a member of a set? Lists, objects and places can change, so they cannot. -/
def isHashable : Value → Bool
  | .list _ | .object _ | .place _ => false
  | _ => true

structure Member where
  value : Value

def isStoredDay : Value → Bool
  | .storedDay _ => true
  | _ => false

/-- Members are the same when their values are, but in a set a stored day differs from a moment on
it. -/
instance : BEq Member :=
  ⟨fun a b => a.value.same b.value && isStoredDay a.value == isStoredDay b.value⟩

/-- The items of a value that is taken as a set. -/
def members (v : Value) : Except Failure (List Member) :=
  match v.items? with
  | none => .error (.notIterable v.kindName)
  | some items =>
      match items.find? fun item => !isHashable item with
      | some item => .error (.unhashable item.kindName)
      | none => .ok (items.map Member.mk)

/-- How many different items two values share. A value that does not count as true has none. -/
def count (v w : Value) : Except Failure Nat :=
  if v.isTruthy && w.isTruthy then do
    let items ← members v
    let others ← members w
    .ok (Ranking.tagOverlap items others)
  else .ok 0

/-- How many of some members an attribute has. -/
def countIn (items : List Member) : Attribute → Except Failure Nat
  | .value v =>
      if items.isEmpty || !v.isTruthy then .ok 0
      else (members v).map (Ranking.tagOverlap items)
  | .operation => if items.isEmpty then .ok 0 else .error (.notIterable "method")

def nameOf : Value → Except Failure String
  | .text name => .ok name
  | v => .error (.notName v.kindName)

/-- A candidate with the number of items that the named attribute shares with the given ones. -/
def score (items : List Member) (asked : Value) (c : Candidate) :
    Except Failure CandidateScore := do
  let name ← nameOf asked
  let found ← c.named name
  let n ← countIn items found
  .ok ⟨c.profile, some (Float.ofNat n)⟩

/-- Each candidate with the number of tags that the named attribute shares with the tags in a
value. -/
def scoreAll (tags asked : Value) (candidates : List Candidate) :
    Except Failure (List CandidateScore) :=
  if candidates.isEmpty then .ok []
  else do
    let items ← if tags.isTruthy then members tags else .ok []
    candidates.mapM (score items asked)

end Overlap

end MusicianGraph
