import MusicianGraph.Proofs.Model.CleanTags

/-! # Tags in cells

A cell holds tags with bars between them. They are found one by one, each added to those that came
before, and that is the same as cleaning the list of the entries between the bars. Clean tags
without bars can be written into a cell and are found there again: a bar stays a bar in lowercase,
and nothing else becomes one. -/

namespace MusicianGraph

/-- What is between two separators has none. -/
theorem not_mem_of_mem_splitOn {α : Type} [BEq α] [LawfulBEq α] {sep : α} {items part : List α}
    (listed : part ∈ items.splitOn sep) : sep ∉ part := by
  induction items generalizing part with
  | nil =>
    rw [List.splitOn_nil, List.mem_singleton] at listed
    rw [listed]
    exact List.not_mem_nil
  | cons a rest ih =>
    rw [List.splitOn_cons_eq_if_modifyHead] at listed
    split at listed
    · rcases List.mem_cons.mp listed with rfl | later
      · exact List.not_mem_nil
      · exact ih later
    · next other =>
      -- The item belongs to the first part of the rest.
      obtain ⟨first, others, split⟩ := List.exists_cons_of_ne_nil (List.splitOn_ne_nil sep rest)
      rw [split] at ih
      rw [split, List.modifyHead_cons] at listed
      rcases List.mem_cons.mp listed with rfl | later
      · rw [List.mem_cons, not_or]
        refine ⟨?_, ih List.mem_cons_self⟩
        rintro rfl
        exact other BEq.rfl
      · exact ih (List.mem_cons_of_mem first later)

section Bars

theorem bar_of_mem_smallLetter {c : Char} (made : '|' ∈ smallLetter c) : c = '|' := by
  have never : CaseTable.capitals.all (·.misses ⟨0x7C, 0x7C⟩) = true := by decide +kernel
  exact (eq_of_mem_smallLetter never (by decide) made (by decide) (by decide)).symm

theorem bar_of_mem_lowerAfter {before cs : List Char} (made : '|' ∈ lowerAfter before cs) :
    '|' ∈ cs := by
  induction cs generalizing before with
  | nil => cases made
  | cons c cs ih =>
    rw [lowerAfter, List.mem_append] at made
    rcases made with here | later
    · split at here
      · rw [List.mem_singleton, smallSigma] at here
        split at here <;> exact absurd here (by decide)
      · rw [bar_of_mem_smallLetter here]
        exact List.mem_cons_self
    · exact List.mem_cons_of_mem c (ih later)

/-- A bar in a tag was a bar in the text. -/
theorem Tag.bar_of_mem_ofText {s : String} (made : '|' ∈ (ofText s).toList) : '|' ∈ s.toList := by
  rw [ofText, lower, strip, String.toList_ofList, String.toList_ofList] at made
  exact mem_of_mem_stripChars (bar_of_mem_lowerAfter made)

end Bars

namespace Tag

section Entries

/-- The entries of a cell: what stands between its bars. -/
def entriesOf (cell : String) : List String := (cell.toList.splitOn '|').map String.ofList

/-- The entries with bars between them are the cell. -/
theorem intercalate_entriesOf (cell : String) : "|".intercalate (entriesOf cell) = cell := by
  have letters : (entriesOf cell).map String.toList = cell.toList.splitOn '|' := by
    rw [entriesOf, List.map_map]
    exact (List.map_congr_left fun part _ => String.toList_ofList).trans (List.map_id _)
  rw [← String.toList_inj, String.toList_intercalate, letters]
  exact List.intercalate_splitOn '|'

theorem not_mem_entriesOf {cell entry : String} (listed : entry ∈ entriesOf cell) :
    '|' ∉ entry.toList := by
  obtain ⟨part, found, rfl⟩ := List.mem_map.mp listed
  rw [String.toList_ofList]
  exact not_mem_of_mem_splitOn found

/-- Entries without bars are the entries of the cell that is made of them. -/
theorem entriesOf_intercalate {entries : List String} (nonempty : entries ≠ [])
    (free : ∀ entry ∈ entries, '|' ∉ entry.toList) :
    entriesOf ("|".intercalate entries) = entries := by
  have parts : ∀ part ∈ entries.map String.toList, '|' ∉ part := by
    intro part listed
    obtain ⟨entry, among, rfl⟩ := List.mem_map.mp listed
    exact free entry among
  have split := List.splitOn_intercalate '|' parts (mt List.map_eq_nil_iff.mp nonempty)
  rw [entriesOf, String.toList_intercalate]
  change (List.splitOn '|' (List.intercalate ['|'] _)).map _ = _
  rw [split, List.map_map]
  exact (List.map_congr_left fun entry _ => String.ofList_toList).trans (List.map_id _)

end Entries

/-- To add a tag to clean ones is to clean a list with one more text. -/
theorem add_cleanTexts (texts : List String) (part : List Char) :
    add (cleanTexts texts) part = cleanTexts (texts ++ [String.ofList part]) := by
  have alone : cleanTexts [String.ofList part] =
      [ofText (String.ofList part)].filter fun tag => !tag.isEmpty := by
    rw [cleanTexts, List.map_singleton, eraseDups_of_nodup ((List.nodup_singleton _).filter _)]
  rw [cleanTexts_append, alone, add]
  generalize ofText (String.ofList part) = tag
  have kept : (decide (tag ∉ cleanTexts texts) && !tag.isEmpty) =
      !(tag.isEmpty || (cleanTexts texts).contains tag) := by
    rw [Bool.not_or, Bool.and_comm, List.contains_eq_mem, decide_not]
  rw [List.filter_filter, List.filter_singleton, kept]
  cases tag.isEmpty || (cleanTexts texts).contains tag with
  | true => exact (List.append_nil _).symm
  | false => rfl

/-- To add tag by tag is to clean a longer list. -/
theorem foldl_add_cleanTexts (texts : List String) (parts : List (List Char)) :
    parts.foldl add (cleanTexts texts) = cleanTexts (texts ++ parts.map String.ofList) := by
  induction parts generalizing texts with
  | nil => rw [List.foldl_nil, List.map_nil, List.append_nil]
  | cons part rest ih =>
    rw [List.foldl_cons, add_cleanTexts, ih, List.map_cons, List.append_assoc,
      List.singleton_append]

/-- The tags in a cell are those of its entries. -/
theorem ofCell_eq_cleanTexts (cell : String) : ofCell cell = cleanTexts (entriesOf cell) :=
  foldl_add_cleanTexts [] _

theorem nodup_ofCell (cell : String) : (ofCell cell).Nodup := by
  rw [ofCell_eq_cleanTexts]
  exact nodup_cleanTexts _

/-- No tag of a cell is repeated. -/
theorem nodup_ofCellValue (cell : Value) : (ofCellValue cell).Nodup := by
  unfold ofCellValue
  split
  · exact List.nodup_nil
  · split
    · exact nodup_ofCell _
    · exact List.nodup_nil
  · exact nodup_ofCell _

/-- Clean tags without bars are the tags of the cell that is made of them. -/
theorem ofCell_intercalate {tags : List String} (normal : IsClean tags)
    (free : ∀ t ∈ tags, '|' ∉ t.toList) : ofCell ("|".intercalate tags) = tags := by
  cases tags with
  | nil => rfl
  | cons t rest =>
    rw [ofCell_eq_cleanTexts, entriesOf_intercalate (List.cons_ne_nil t rest) free]
    exact cleanTexts_eq_self_iff.mpr normal

/-- The entries of a cell are the texts without bars that make it up with bars between them, and
the tags of the cell are what cleaning makes of the list of its entries. What cleaning makes of any
texts without bars can be written into a cell, and the tags of that cell are the same ones. -/
theorem cellTags_eq_listTags (cell : String) (texts : List String) :
    ("|".intercalate (entriesOf cell) = cell ∧ ∀ entry ∈ entriesOf cell, '|' ∉ entry.toList) ∧
      cleanValue (.ofTexts (entriesOf cell)) = .ok (ofCellValue (.text cell)) ∧
      ((∀ s ∈ texts, '|' ∉ s.toList) →
        ∃ tags, cleanValue (.ofTexts texts) = .ok tags ∧
          ofCellValue (.text ("|".intercalate tags)) = tags) := by
  refine ⟨⟨intercalate_entriesOf cell, fun _ => not_mem_entriesOf⟩, ?_, fun free => ?_⟩
  · rw [cleanValue_ofTexts, ← ofCell_eq_cleanTexts]
    rfl
  · refine ⟨cleanTexts texts, cleanValue_ofTexts texts,
      ofCell_intercalate (isClean_cleanTexts _) fun t listed => ?_⟩
    obtain ⟨s, among, rfl⟩ := List.mem_map.mp (mem_cleanTexts.mp listed).2
    exact fun bar => free s among (bar_of_mem_ofText bar)

/-- A cell with blanks, capital letters and a repetition, and a list with all of these. -/
theorem cellTags_eq_listTags_jazz :
    (∀ s ∈ [" Jazz", "jazz", " ", "Hard Bop "], '|' ∉ s.toList) ∧
      entriesOf " Jazz || funk|jazz " = [" Jazz ", "", " funk", "jazz "] ∧
      cleanValue (.ofTexts [" Jazz ", "", " funk", "jazz "]) = .ok ["jazz", "funk"] ∧
      ofCellValue (.text " Jazz || funk|jazz ") = ["jazz", "funk"] ∧
      cleanValue (.ofTexts [" Jazz", "jazz", " ", "Hard Bop "]) = .ok ["jazz", "hard bop"] ∧
      ofCellValue (.text "jazz|hard bop") = ["jazz", "hard bop"] := by
  have free : ∀ s ∈ [" Jazz", "jazz", " ", "Hard Bop "], '|' ∉ s.toList := by decide
  obtain ⟨-, agree, found⟩ :=
    cellTags_eq_listTags " Jazz || funk|jazz " [" Jazz", "jazz", " ", "Hard Bop "]
  have split : entriesOf " Jazz || funk|jazz " = [" Jazz ", "", " funk", "jazz "] := rfl
  have cleaned : cleanTexts [" Jazz ", "", " funk", "jazz "] = ["jazz", "funk"] := by
    decide +kernel
  have known : cleanTexts [" Jazz", "jazz", " ", "Hard Bop "] = ["jazz", "hard bop"] := by
    decide +kernel
  obtain ⟨tags, listed, again⟩ := found free
  rw [cleanValue_ofTexts, known] at listed
  cases listed
  rw [split, cleanValue_ofTexts, cleaned] at agree
  refine ⟨free, split, ?_, (Except.ok.inj agree).symm, ?_, again⟩
  · rw [cleanValue_ofTexts, cleaned]
  · rw [cleanValue_ofTexts, known]

end Tag

end MusicianGraph
