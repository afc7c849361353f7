import MusicianGraph.Http.Query
import MusicianGraph.Proofs.Schema.Accepted
import MusicianGraph.Proofs.Schema.Digits

/-! # Numbers in queries

A whole number in a query is accepted only within its bounds. Conversely every number within them
is accepted if it is written in plain digits, as long as there are not too many. -/

namespace MusicianGraph.Query

variable {α : Type} {q : Query} {name : String} {least : Int} {most : Option Int}

/-- A number that is accepted is within the bounds. -/
theorem intBetween_accepted {v : Value} {n : Int}
    (accepted : intBetween least most v = .accepted n) :
    least ≤ n ∧ ∀ bound ∈ most, n ≤ bound := by
  obtain ⟨m, -, bounded⟩ := Reading.andThen_accepted_iff.mp accepted
  split at bounded
  · cases bounded
  · next below =>
    split at bounded
    · cases bounded
    · next above =>
      cases bounded
      refine ⟨Int.not_lt.mp above, ?_⟩
      rintro bound rfl
      simpa using below

/-- So is one with a default, if the default is. -/
theorem defaulted_intBetween_accepted {default : Int} {v : Value}
    (within : least ≤ default ∧ ∀ bound ∈ most, default ≤ bound)
    (accepted : q.defaulted name (.int default) (fun v => (intBetween least most v).map .int) =
      .accepted v) :
    ∃ n, v = .int n ∧ least ≤ n ∧ ∀ bound ∈ most, n ≤ bound := by
  rw [defaulted] at accepted
  split at accepted
  · obtain ⟨n, bounded, same⟩ :=
      Reading.map_accepted_iff.mp (Reading.within_accepted_iff.mp accepted)
    exact ⟨n, same.symm, intBetween_accepted bounded⟩
  · cases accepted
    exact ⟨default, rfl, within⟩

/-- A number within the bounds is accepted in digits. -/
theorem intBetween_of_digits {n : Nat}
    (short : (Nat.toDigits 10 n).length ≤ WholeText.longest) (above : least ≤ n)
    (below : ∀ bound ∈ most, (n : Int) ≤ bound) :
    intBetween least most (.text (toString n)) = .accepted (n : Int) := by
  have within : ¬ most.any (fun bound => decide (bound < (n : Int))) = true := by
    rw [Option.any_eq_true]
    rintro ⟨bound, given, beyond⟩
    have := below bound given
    have := of_decide_eq_true beyond
    omega
  rw [intBetween, Schema.int, WholeText.ofText_toString short]
  dsimp only [Reading.andThen]
  rw [if_neg within, if_neg (by omega)]

/-- So is one that may be left out. -/
theorem defaulted_of_digits (default : α) (make : Int → α) {n : Option Nat}
    (given : q.get? name = n.map toString)
    (short : ∀ m ∈ n, (Nat.toDigits 10 m).length ≤ WholeText.longest)
    (bounded : ∀ m ∈ n, least ≤ (m : Int) ∧ ∀ bound ∈ most, (m : Int) ≤ bound) :
    q.defaulted name default (fun v => (intBetween least most v).map make) =
      .accepted (n.elim default fun m => make m) := by
  rw [defaulted, given]
  cases n with
  | none => rfl
  | some m =>
    obtain ⟨above, below⟩ := bounded m rfl
    dsimp only [Option.map_some]
    rw [intBetween_of_digits (short m rfl) above below]
    rfl

end MusicianGraph.Query
