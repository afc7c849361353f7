import MusicianGraph.Proofs.Text.SmallLetters
import Mathlib.Data.List.DropRight

/-! # Trimmed texts

A text is trimmed if it has no blank at either end. These are the texts that `strip` leaves alone,
its results are among them, and lowercase keeps them trimmed. -/

namespace MusicianGraph

/-- There is no blank at the ends. -/
structure Trimmed (cs : List Char) : Prop where
  head : ∀ c, cs.head? = some c → isBlank c = false
  last : ∀ c, cs.getLast? = some c → isBlank c = false

/-- What is stripped is trimmed. -/
theorem trimmed_stripChars (cs : List Char) : Trimmed (stripChars cs) where
  head c first := by
    obtain ⟨rest, whole⟩ : stripChars cs <+: cs.dropWhile isBlank :=
      List.rdropWhile_prefix isBlank _
    have filled := List.head?_dropWhile_not isBlank cs
    rw [← whole, List.head?_append, first] at filled
    exact filled
  last c last := by
    have nonempty : stripChars cs ≠ [] := by
      intro empty
      rw [empty] at last
      cases last
    rw [List.getLast?_eq_some_getLast nonempty] at last
    cases last
    exact Bool.eq_false_iff.mpr (List.rdropWhile_last_not isBlank _ nonempty)

variable {before cs : List Char}

theorem mem_of_mem_stripChars {c : Char} (kept : c ∈ stripChars cs) : c ∈ cs := by
  have front : stripChars cs <+: cs.dropWhile isBlank := List.rdropWhile_prefix isBlank _
  exact (List.dropWhile_suffix isBlank).mem (front.mem kept)

/-- There is nothing to strip off a trimmed text. -/
theorem Trimmed.stripChars_eq (trimmed : Trimmed cs) : stripChars cs = cs := by
  have front : cs.dropWhile isBlank = cs := by
    cases cs with
    | nil => rfl
    | cons c rest =>
      exact List.dropWhile_cons_of_neg (Bool.eq_false_iff.mp (trimmed.head c rfl))
  have back : cs.rdropWhile isBlank = cs := by
    rw [List.rdropWhile_eq_self_iff]
    intro nonempty
    exact Bool.eq_false_iff.mp (trimmed.last _ (List.getLast?_eq_some_getLast nonempty))
  change (cs.dropWhile isBlank).rdropWhile isBlank = cs
  rw [front, back]

/-- A stripped text has nothing to strip. -/
theorem strip_strip (s : String) : strip (strip s) = strip s := by
  rw [strip, strip, String.toList_ofList, (trimmed_stripChars s.toList).stripChars_eq]

/-- Only a blank text is empty without the blanks around it. -/
theorem strip_isEmpty_iff (s : String) :
    (strip s).isEmpty = true ↔ ∀ c ∈ s.toList, isBlank c = true := by
  have empty : (strip s).isEmpty = true ↔ stripChars s.toList = [] := by
    rw [String.isEmpty_iff, strip, String.ofList_eq_empty_iff]
  rw [empty, stripChars, trimBoth, List.reverse_eq_nil_iff, List.dropWhile_eq_nil_iff]
  constructor
  · intro tail c member
    rw [← List.takeWhile_append_dropWhile (p := isBlank) (l := s.toList), List.mem_append] at member
    rcases member with front | back
    · exact List.mem_takeWhile_imp front
    · exact tail c (List.mem_reverse.mpr back)
  · intro blank
    rw [List.dropWhile_eq_nil_iff.mpr blank]
    nofun

/-- A text strips to something if it has a character that is no blank, and only then. -/
theorem strip_ne_empty_iff (s : String) : strip s ≠ "" ↔ ∃ c ∈ s.toList, isBlank c = false := by
  rw [Ne, ← String.isEmpty_iff, strip_isEmpty_iff]
  simp

/-- Lowercase begins with something for the first letter, which is blank only if the letter is. -/
theorem lowerAfter_cons (before : List Char) (c : Char) (cs : List Char) :
    ∃ here, lowerAfter before (c :: cs) = here ++ lowerAfter (c :: before) cs ∧ here ≠ [] ∧
      (isBlank c = false → ∀ d ∈ here, isBlank d = false) := by
  refine ⟨_, rfl, ?_⟩
  split
  · refine ⟨List.cons_ne_nil _ _, fun _ d made => ?_⟩
    rw [List.mem_singleton.mp made, smallSigma]
    split <;> decide
  · exact ⟨smallLetter_ne_nil c, fun filled d => not_isBlank_of_mem_smallLetter filled⟩

/-- The end of a text is no blank in lowercase if it is none in the text. -/
theorem last_lowerAfter (filled : ∀ c, cs.getLast? = some c → isBlank c = false) :
    ∀ d, (lowerAfter before cs).getLast? = some d → isBlank d = false := by
  induction cs generalizing before with
  | nil => nofun
  | cons c cs ih =>
    obtain ⟨here, whole, -, kept⟩ := lowerAfter_cons before c cs
    intro d last
    rw [whole] at last
    cases cs with
    | nil =>
      rw [lowerAfter, List.append_nil] at last
      exact kept (filled c rfl) d (List.mem_of_getLast? last)
    | cons e rest =>
      obtain ⟨there, more, nonempty, -⟩ := lowerAfter_cons (c :: before) e rest
      have later : lowerAfter (c :: before) (e :: rest) ≠ [] := by
        rw [more]
        exact List.append_ne_nil_of_left_ne_nil nonempty _
      rw [List.getLast?_append_of_ne_nil _ later] at last
      exact ih filled d last

/-- Lowercase keeps a text trimmed. -/
theorem Trimmed.lowerAfter (trimmed : Trimmed cs) : Trimmed (lowerAfter before cs) where
  head d first := by
    cases cs with
    | nil => cases first
    | cons c cs =>
      obtain ⟨here, whole, nonempty, kept⟩ := lowerAfter_cons before c cs
      rw [whole, List.head?_append_of_ne_nil _ nonempty] at first
      exact kept (trimmed.head c rfl) d (List.mem_of_head? first)
  last := last_lowerAfter trimmed.last

/-- Lowercase leaves nothing to strip off a stripped text. -/
theorem strip_lower_strip (s : String) : strip (lower (strip s)) = lower (strip s) := by
  have trimmed : Trimmed (lowerChars (strip s).toList) := by
    rw [strip, String.toList_ofList]
    exact (trimmed_stripChars s.toList).lowerAfter
  rw [lower, strip, String.toList_ofList, trimmed.stripChars_eq]

end MusicianGraph
