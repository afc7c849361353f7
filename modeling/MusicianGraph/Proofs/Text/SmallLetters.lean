import MusicianGraph.Text.Blank
import MusicianGraph.Proofs.Text.Lowercase

/-! # Small letters

No small letter is a capital letter, and none is blank. So a text in lowercase is its own lowercase,
and lowercase does not make anything blank that was not blank before. The two facts about the table
of capital letters are checked run by run; all others follow from them. -/

namespace MusicianGraph

namespace CaseTable

namespace CapitalRun

def firstSmall (run : CapitalRun) : Nat := (run.first + run.offset).toNat

def lastSmall (run : CapitalRun) : Nat := (run.last + run.offset).toNat

/-- All small letters lie before the span, or all of them after it. -/
def misses (run : CapitalRun) (span : Span) : Bool :=
  Nat.blt run.lastSmall span.first || Nat.blt span.last run.firstSmall

/-- The small letters stand at every other place, and so do the capital letters of the other run,
but never at the same ones. -/
def alternates (run other : CapitalRun) : Bool :=
  (run.step == 2 || run.first == run.last) && other.step == 2 &&
    (run.firstSmall + other.first) % 2 == 1

variable {run other : CapitalRun} {code : Nat}

theorem holds_iff :
    run.holds code = true ↔
      run.first ≤ code ∧ code ≤ run.last ∧ (code - run.first) % run.step = 0 := by
  simp only [holds, Bool.and_eq_true, decide_eq_true_eq, beq_iff_eq, and_assoc]

/-- The small letters of a run are as far apart as its capital letters. -/
theorem small_of_holds (positive : 0 < run.firstSmall) (held : run.holds code = true) :
    run.firstSmall ≤ ((code : Int) + run.offset).toNat ∧
      ((code : Int) + run.offset).toNat ≤ run.lastSmall ∧
      (((code : Int) + run.offset).toNat - run.firstSmall) % run.step = 0 := by
  rw [holds_iff] at held
  obtain ⟨low, high, stepped⟩ := held
  rw [firstSmall] at *
  rw [lastSmall]
  have apart : ((code : Int) + run.offset).toNat - ((run.first : Int) + run.offset).toNat =
      code - run.first := by omega
  refine ⟨by omega, by omega, ?_⟩
  rw [apart]
  exact stepped

/-- A small letter is outside of what its run misses. -/
theorem outside_of_misses {span : Span} (positive : 0 < run.firstSmall)
    (held : run.holds code = true) (missed : run.misses span = true) :
    ((code : Int) + run.offset).toNat < span.first ∨
      span.last < ((code : Int) + run.offset).toNat := by
  obtain ⟨low, high, -⟩ := small_of_holds positive held
  simp only [misses, Bool.or_eq_true, Nat.blt_eq] at missed
  omega

/-- Where two runs alternate, a small letter of the first one is no capital letter of the second
one. -/
theorem not_holds_of_alternates (positive : 0 < run.firstSmall) (held : run.holds code = true)
    (alternating : run.alternates other = true) :
    other.holds ((code : Int) + run.offset).toNat = false := by
  obtain ⟨low, high, stepped⟩ := small_of_holds positive held
  simp only [alternates, Bool.and_eq_true, Bool.or_eq_true, beq_iff_eq] at alternating
  obtain ⟨⟨single, second⟩, odd⟩ := alternating
  rw [Bool.eq_false_iff, ne_eq, holds_iff, second]
  rintro ⟨above, -, even⟩
  rcases single with step | only
  · rw [step] at stepped
    omega
  · have same : run.lastSmall = run.firstSmall := by rw [lastSmall, ← only, firstSmall]
    omega

end CapitalRun

/-- Numbers that no small letter has: zero, the dotted capital I, the surrogates and the blanks. -/
def neverSmall : List Span :=
  [⟨0, 0⟩, ⟨0x130, 0x130⟩, ⟨0xD800, 0xDFFF⟩] ++ (whiteSpace ++ separators)

theorem misses_neverSmall :
    (capitals.all fun run => neverSmall.all run.misses && Nat.blt run.lastSmall 0x110000) =
      true := by
  decide +kernel

theorem misses_capitals :
    (capitals.all fun run => capitals.all fun other =>
      run.misses ⟨other.first, other.last⟩ || run.alternates other) = true := by
  decide +kernel

section Runs

variable {run other : CapitalRun} {code : Nat}

theorem firstSmall_pos (listed : run ∈ capitals) : 0 < run.firstSmall := by
  have checked := List.all_eq_true.mp misses_neverSmall run listed
  rw [Bool.and_eq_true, List.all_eq_true] at checked
  have missed := checked.1 ⟨0, 0⟩ (by decide)
  simp only [CapitalRun.misses, Bool.or_eq_true, Nat.blt_eq] at missed
  omega

theorem small_outside (listed : run ∈ capitals) (held : run.holds code = true) (span : Span)
    (never : span ∈ neverSmall) :
    ((code : Int) + run.offset).toNat < span.first ∨
      span.last < ((code : Int) + run.offset).toNat := by
  have checked := List.all_eq_true.mp misses_neverSmall run listed
  rw [Bool.and_eq_true, List.all_eq_true] at checked
  exact CapitalRun.outside_of_misses (firstSmall_pos listed) held (checked.1 span never)

/-- The number of a small letter is that of a character. -/
theorem toNat_small (listed : run ∈ capitals) (held : run.holds code = true) :
    (Char.ofNat ((code : Int) + run.offset).toNat).toNat = ((code : Int) + run.offset).toNat := by
  have checked := List.all_eq_true.mp misses_neverSmall run listed
  rw [Bool.and_eq_true, Nat.blt_eq] at checked
  obtain ⟨-, high, -⟩ := CapitalRun.small_of_holds (firstSmall_pos listed) held
  have noSurrogate : _ < 0xD800 ∨ 0xDFFF < _ :=
    small_outside listed held ⟨0xD800, 0xDFFF⟩ (by decide)
  have valid : (((code : Int) + run.offset).toNat).isValidChar := by
    rw [Nat.isValidChar]
    omega
  rw [Char.ofNat, dif_pos valid]
  rfl

theorem not_holds_small (listed : run ∈ capitals) (held : run.holds code = true)
    (among : other ∈ capitals) : other.holds ((code : Int) + run.offset).toNat = false := by
  have checked := List.all_eq_true.mp (List.all_eq_true.mp misses_capitals run listed) other among
  rw [Bool.or_eq_true] at checked
  rcases checked with missed | alternating
  · rw [Bool.eq_false_iff, ne_eq, CapitalRun.holds_iff]
    rintro ⟨low, high, -⟩
    rcases CapitalRun.outside_of_misses (firstSmall_pos listed) held missed with below | above
    · exact absurd low (Nat.not_le.mpr below)
    · exact absurd high (Nat.not_le.mpr above)
  · exact CapitalRun.not_holds_of_alternates (firstSmall_pos listed) held alternating

end Runs

end CaseTable

open CaseTable

/-- What stands for a letter in lowercase. -/
theorem smallLetter_cases (c : Char) :
    (c = '\u0130' ∧ smallLetter c = ['i', '\u0307']) ∨
      (∃ run ∈ capitals, run.holds c.toNat = true ∧
        smallLetter c = [Char.ofNat ((c.toNat : Int) + run.offset).toNat]) ∨
      smallLetter c = [c] := by
  rw [smallLetter]
  split
  · next dotted => exact .inl ⟨dotted, rfl⟩
  · split
    · next run found =>
      have held := List.find?_some found
      exact .inr (.inl ⟨run, List.mem_of_find?_eq_some found, held, rfl⟩)
    · exact .inr (.inr rfl)

/-- The small letter of a capital letter is its own small letter. -/
theorem smallLetter_small {run : CapitalRun} (listed : run ∈ capitals) {code : Nat}
    (held : run.holds code = true) :
    smallLetter (Char.ofNat ((code : Int) + run.offset).toNat) =
      [Char.ofNat ((code : Int) + run.offset).toNat] := by
  have number := toNat_small listed held
  have undotted : Char.ofNat ((code : Int) + run.offset).toNat ≠ '\u0130' := by
    intro dotted
    have outside := small_outside listed held ⟨0x130, 0x130⟩ (by decide)
    rw [← number, dotted] at outside
    exact absurd outside (by decide)
  have absent : capitals.find? (·.holds ((code : Int) + run.offset).toNat) = none := by
    rw [List.find?_eq_none]
    intro other among
    rw [Bool.not_eq_true]
    exact not_holds_small listed held among
  rw [smallLetter, if_neg undotted, number, absent]

/-- Lowercase leaves the letters alone that it has made. -/
theorem smallLetter_of_mem {c d : Char} (made : d ∈ smallLetter c) : smallLetter d = [d] := by
  rcases smallLetter_cases c with ⟨-, small⟩ | ⟨run, listed, held, small⟩ | small
  · rw [small, List.mem_cons, List.mem_singleton] at made
    rcases made with rfl | rfl <;> decide +kernel
  · rw [small, List.mem_singleton] at made
    rw [made]
    exact smallLetter_small listed held
  · rw [small, List.mem_singleton] at made
    rw [made]
    exact small

theorem smallLetter_smallSigma (before after : List Char) :
    smallLetter (smallSigma before after) = [smallSigma before after] := by
  rw [smallSigma]
  split <;> decide +kernel

/-- A capital sigma is not its own small letter. -/
theorem ne_capitalSigma_of_small {c : Char} (small : smallLetter c = [c]) : c ≠ capitalSigma := by
  rintro rfl
  exact absurd small (by decide +kernel)

theorem smallLetter_of_mem_lowerAfter {before cs : List Char} {d : Char}
    (made : d ∈ lowerAfter before cs) : smallLetter d = [d] := by
  induction cs generalizing before with
  | nil => cases made
  | cons c cs ih =>
    rw [lowerAfter, List.mem_append] at made
    rcases made with here | later
    · split at here
      · rw [List.mem_singleton.mp here]
        exact smallLetter_smallSigma before cs
      · exact smallLetter_of_mem here
    · exact ih later

/-- A text of small letters is its own lowercase. -/
theorem lowerAfter_of_small {before cs : List Char} (small : ∀ c ∈ cs, smallLetter c = [c]) :
    lowerAfter before cs = cs := by
  induction cs generalizing before with
  | nil => rfl
  | cons c cs ih =>
    rw [List.forall_mem_cons] at small
    rw [lowerAfter, if_neg (ne_capitalSigma_of_small small.1), small.1, ih small.2]
    rfl

/-- A text in lowercase is its own lowercase. -/
theorem lower_lower (s : String) : lower (lower s) = lower s := by
  rw [lower, lower, String.toList_ofList, lowerChars, lowerChars,
    lowerAfter_of_small fun _ => smallLetter_of_mem_lowerAfter]

/-- What is in a span without small letters was there before. -/
theorem eq_of_mem_smallLetter {c d : Char} {span : Span}
    (never : capitals.all (·.misses span) = true)
    (apart : ∀ n ∈ ['i', '\u0307'].map Char.toNat, n < span.first ∨ span.last < n)
    (made : d ∈ smallLetter c) (low : span.first ≤ d.toNat) (high : d.toNat ≤ span.last) :
    d = c := by
  rcases smallLetter_cases c with ⟨-, small⟩ | ⟨run, listed, held, small⟩ | small
  · rw [small] at made
    have outside := apart d.toNat (List.mem_map_of_mem made)
    omega
  · rw [small, List.mem_singleton] at made
    have missed := List.all_eq_true.mp never run listed
    have outside := CapitalRun.outside_of_misses (firstSmall_pos listed) held missed
    rw [made, toNat_small listed held] at low high
    omega
  · rw [small, List.mem_singleton] at made
    exact made

/-- Lowercase makes nothing blank. -/
theorem not_isBlank_of_mem_smallLetter {c d : Char} (filled : isBlank c = false)
    (made : d ∈ smallLetter c) : isBlank d = false := by
  rw [Bool.eq_false_iff]
  intro blank
  obtain ⟨span, listed, inside⟩ := List.any_eq_true.mp blank
  rw [Bool.and_eq_true, decide_eq_true_eq, decide_eq_true_eq] at inside
  have never : capitals.all (·.misses span) = true := by
    rw [List.all_eq_true]
    intro run among
    have checked := List.all_eq_true.mp misses_neverSmall run among
    rw [Bool.and_eq_true, List.all_eq_true] at checked
    exact checked.1 span (List.mem_append_right _ listed)
  have apart : ∀ span ∈ whiteSpace ++ separators, ∀ n ∈ ['i', '\u0307'].map Char.toNat,
      n < span.first ∨ span.last < n := by
    decide
  obtain rfl := eq_of_mem_smallLetter never (apart span listed) made inside.1 inside.2
  rw [blank] at filled
  cases filled

end MusicianGraph
