import MusicianGraph.Value.Basic
import MusicianGraph.Number.Binary64

/-! # When two values are the same

Numbers are compared by value, whichever of the three number kinds they have: `1`, `1.0` and `true`
are the same. Moments are compared as instants, stored or not. Nothing is the same as an undefined
number, lists are compared item by item, and the order of an object's fields does not matter. -/

namespace MusicianGraph

namespace Value

/-- A number of any kind, ready to be compared by value. -/
inductive Quantity where
  | whole (n : Int)
  | inexact (x : Float)

def quantity? : Value → Option Quantity
  | bool b => some (.whole (if b then 1 else 0))
  | int n => some (.whole n)
  | float x =>
      match (Binary64.ofFloat x).exactInt? with
      | some n => some (.whole n)
      | none => some (.inexact x)
  | _ => none

def Quantity.same : Quantity → Quantity → Bool
  | .whole m, .whole n => m == n
  | .inexact x, .inexact y => x == y
  | _, _ => false

/-- The moment that a value is, and the nanoseconds after its microsecond. -/
def moment? : Value → Option (DateTime × Nat)
  | moment t => some (t, 0)
  | storedMoment t nanos => some (t, nanos)
  | _ => none

/-- Are two moments with their nanoseconds the same instant? -/
def sameMoment (s t : DateTime × Nat) : Bool := s.1.sameInstant t.1 && s.2 == t.2

/-- Sameness of values that are neither lists nor objects. A stored day is the same as any plain
moment on it. -/
def sameLeaf (v w : Value) : Bool :=
  match v, w with
  | null, null => true
  | text s, text t => s == t
  | place p, place q => p.latitude == q.latitude && p.longitude == q.longitude
  | coordinate a x, coordinate b y => a == b && x == y
  | storedDay c, storedDay d => c == d
  | storedDay d, moment t | moment t, storedDay d => t.date == d
  | _, _ =>
      match quantity? v, quantity? w, moment? v, moment? w with
      | some a, some b, _, _ => a.same b
      | _, _, some s, some t => sameMoment s t
      | _, _, _, _ => false

mutual

def same : Value → Value → Bool
  | list xs, list ys => sameItems xs ys
  | object fs, object gs => fs.length == gs.length && sameFields fs gs
  | v, w => sameLeaf v w

def sameItems : List Value → List Value → Bool
  | [], [] => true
  | x :: xs, y :: ys => same x y && sameItems xs ys
  | _, _ => false

/-- Has the second object each field of the first, with the same value? -/
def sameFields : List (String × Value) → List (String × Value) → Bool
  | [], _ => true
  | (name, v) :: rest, gs =>
      (match gs.lookup name with
        | some w => same v w
        | none => false) && sameFields rest gs

end

instance : BEq Value := ⟨same⟩

end Value

end MusicianGraph
