import MusicianGraph.Text.Lowercase
import Mathlib.Data.List.Basic

/-! # Lowercase and the beginnings of texts

Lowercase is taken letter by letter except for the capital sigma, which looks at its neighbours. So
the lowercase of a beginning is a beginning of the lowercase of the whole, with one exception: the
beginning ends in a sigma, marks aside, that is the end of a word there and is inside a word in the
whole. -/

namespace MusicianGraph

/-- What the neighbour of a sigma is, when a text goes on: the first letter of the text, or, if the
text is nothing but marks, the first one of what follows. -/
theorem startsCased_append (cs rest : List Char) :
    startsCased (cs ++ rest) = if cs.all isSkipped then startsCased rest else startsCased cs := by
  induction cs with
  | nil => rfl
  | cons c cs ih =>
    cases skipped : isSkipped c with
    | true =>
      simp only [startsCased, List.cons_append, List.dropWhile_cons_of_pos skipped, List.all_cons,
        skipped, Bool.true_and] at ih ⊢
      exact ih
    | false =>
      simp only [startsCased, List.cons_append, List.dropWhile_cons, List.all_cons, skipped,
        Bool.false_and, Bool.false_eq_true, if_false]

theorem startsCased_of_marks {cs : List Char} (marks : cs.all isSkipped = true) :
    startsCased cs = false := by
  have alone := startsCased_append cs []
  rw [List.append_nil, if_pos marks] at alone
  exact alone

/-- The text after `before`, which is given in reverse, ends in a sigma that a cased letter stands
before; marks may stand between the two and after the sigma. -/
def EndsInSigma (before cs : List Char) : Prop :=
  ∃ word marks, cs = word ++ capitalSigma :: marks ∧ marks.all isSkipped = true ∧
    startsCased (word.reverse ++ before) = true

namespace EndsInSigma

theorem not_nil (before : List Char) : ¬ EndsInSigma before [] := by
  rintro ⟨word, marks, split, -, -⟩
  exact absurd split.symm (by simp)

/-- The sigma is the first letter, or it comes later. -/
theorem cons_iff (before : List Char) (c : Char) (cs : List Char) :
    EndsInSigma before (c :: cs) ↔
      (c = capitalSigma ∧ cs.all isSkipped = true ∧ startsCased before = true) ∨
        EndsInSigma (c :: before) cs := by
  constructor
  · rintro ⟨word, marks, split, skipped, cased⟩
    cases word with
    | nil =>
      obtain ⟨rfl, rfl⟩ := List.cons.inj split
      exact .inl ⟨rfl, skipped, cased⟩
    | cons d word =>
      obtain ⟨rfl, rfl⟩ := List.cons.inj split
      refine .inr ⟨word, marks, rfl, skipped, ?_⟩
      rw [List.reverse_cons, List.append_assoc] at cased
      exact cased
  · rintro (⟨rfl, skipped, cased⟩ | ⟨word, marks, rfl, skipped, cased⟩)
    · exact ⟨[], cs, rfl, skipped, cased⟩
    · refine ⟨c :: word, marks, rfl, skipped, ?_⟩
      rw [List.reverse_cons, List.append_assoc]
      exact cased

end EndsInSigma

/-- A sigma changes its small letter when the text goes on exactly if it was final, nothing but
marks stood after it, and a cased letter follows them now. -/
theorem smallSigma_append_iff (before cs rest : List Char) :
    smallSigma before (cs ++ rest) = smallSigma before cs ↔
      ¬ (cs.all isSkipped = true ∧ startsCased before = true ∧ startsCased rest = true) := by
  rw [smallSigma, smallSigma, startsCased_append]
  by_cases marks : cs.all isSkipped = true
  · rw [if_pos marks, startsCased_of_marks marks]
    cases startsCased before <;> cases startsCased rest <;> simp [marks]
  · rw [if_neg marks]
    exact iff_of_true rfl fun all => marks all.1

/-- The lowercase of a beginning is a beginning of the lowercase, unless the beginning ends in a
sigma and a cased letter follows. The induction is on the beginning; what stands before it grows. -/
theorem lowerAfter_isPrefix_iff (before cs rest : List Char) :
    lowerAfter before cs <+: lowerAfter before (cs ++ rest) ↔
      ¬ (EndsInSigma before cs ∧ startsCased rest = true) := by
  induction cs generalizing before with
  | nil => exact iff_of_true List.nil_prefix fun both => EndsInSigma.not_nil before both.1
  | cons c cs ih =>
    rw [List.cons_append, lowerAfter, lowerAfter, EndsInSigma.cons_iff]
    by_cases sigma : c = capitalSigma
    -- Only here does what follows matter, and only if nothing but marks stands between.
    · have stays := smallSigma_append_iff before cs rest
      rw [if_pos sigma, if_pos sigma, List.singleton_append, List.singleton_append,
        List.cons_prefix_cons, ih, eq_comm, stays]
      constructor
      · rintro ⟨inside, later⟩ ⟨here | there, cased⟩
        · exact inside ⟨here.2.1, here.2.2, cased⟩
        · exact later ⟨there, cased⟩
      · intro neither
        exact ⟨fun here => neither ⟨.inl ⟨sigma, here.1, here.2.1⟩, here.2.2⟩,
          fun later => neither ⟨.inr later.1, later.2⟩⟩
    · rw [if_neg sigma, if_neg sigma, List.prefix_append_right_inj, ih]
      simp only [sigma, false_and, false_or]

/-- Lowercase leaves something of a letter. -/
theorem smallLetter_ne_nil (c : Char) : smallLetter c ≠ [] := by
  rw [smallLetter]
  split
  · exact List.cons_ne_nil _ _
  · split <;> exact List.cons_ne_nil _ _

theorem lower_isEmpty_iff (s : String) : (lower s).isEmpty = true ↔ s = "" := by
  rw [String.isEmpty_iff, lower, lowerChars]
  constructor
  · intro empty
    have none : lowerAfter [] s.toList = [] := by
      simpa using congrArg String.toList empty
    cases letters : s.toList with
    | nil => simpa using letters
    | cons c rest =>
      rw [letters, lowerAfter, List.append_eq_nil_iff] at none
      split at none
      · exact absurd none.1 (List.cons_ne_nil _ _)
      · exact absurd none.1 (smallLetter_ne_nil c)
  · rintro rfl
    rfl

end MusicianGraph
