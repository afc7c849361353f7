import MusicianGraph.Proofs.Schema.Accepted
import MusicianGraph.Proofs.Text.Trimmed
import MusicianGraph.Proofs.Value.Distinct
import MusicianGraph.Proofs.Value.Shown
import MusicianGraph.Tag
import Mathlib.Data.List.Nodup

/-! # Clean tags are read as they are

Tags are cleaned before they are written, and repetitions are dropped again when they are read. The
second step changes nothing: clean tags are all different, and texts are the same only if they are
equal. -/

namespace MusicianGraph

/-- Texts are the same only if they are equal. -/
theorem Value.same_text (s t : String) : (text s).same (text t) = (s == t) := by
  rw [same, sameLeaf] <;> simp

namespace Tag

variable {texts tags : List String}

/-- No tag is repeated in a clean list. -/
theorem nodup_cleanTexts (texts : List String) : (cleanTexts texts).Nodup := nodup_eraseDups _

/-- A clean list has the tags of all texts, but no blank one. -/
theorem mem_cleanTexts {t : String} : t ∈ cleanTexts texts ↔ t ≠ "" ∧ t ∈ texts.map ofText := by
  rw [cleanTexts, List.mem_eraseDups, List.mem_filter, Bool.not_eq_true',
    String.isEmpty_eq_false_iff, and_comm]

/-- Values can be cleaned if all of them can be shown. -/
theorem clean_eq (values : List Value) :
    clean values =
      if Value.areShowable values then .ok (cleanTexts (values.map Value.shownText))
      else .error (.unwritableInt 4300) := by
  rw [clean, Value.mapM_shown]
  split <;> rfl

/-- Ten to the power 4300 has a digit too many to be written. -/
theorem clean_overlong : clean [.int (10 ^ 4300)] = .error (.unwritableInt 4300) := by
  have digits (k : Nat) : ((10 : Int) ^ k).natAbs = 10 ^ k := Int.natAbs_pow 10 k
  have long : (Value.int (10 ^ 4300)).IsTooLong := ⟨10 ^ 4300, .int, (digits 4300).ge⟩
  have hidden : ¬ Value.areShowable [.int (10 ^ 4300)] = true := fun showable =>
    Value.areShowable_iff_short.mp showable _ List.mem_cons_self long
  rw [clean_eq, if_neg hidden]

theorem cleanValue_ofTexts (texts : List String) :
    cleanValue (.ofTexts texts) = .ok (cleanTexts texts) := by
  have same : (texts.map Value.text).map Value.shownText = texts :=
    List.map_map.trans ((List.map_congr_left fun _ _ => rfl).trans (List.map_id texts))
  change clean (texts.map .text) = _
  rw [clean_eq, Value.areShowable_texts, if_pos rfl, same]

section NormalForm

theorem strip_ofText (s : String) : strip (ofText s) = ofText s := strip_lower_strip s

theorem lower_ofText (s : String) : lower (ofText s) = ofText s := lower_lower (strip s)

/-- Tags in normal form: trimmed and in lowercase, none of them blank and none repeated. -/
structure IsClean (tags : List String) : Prop where
  different : tags.Nodup
  filled : "" ∉ tags
  trimmed : ∀ t ∈ tags, strip t = t
  lowercase : ∀ t ∈ tags, lower t = t

theorem isClean_cleanTexts (texts : List String) : IsClean (cleanTexts texts) where
  different := nodup_cleanTexts texts
  filled blank := (mem_cleanTexts.mp blank).1 rfl
  trimmed t listed := by
    obtain ⟨s, -, rfl⟩ := List.mem_map.mp (mem_cleanTexts.mp listed).2
    exact strip_ofText s
  lowercase t listed := by
    obtain ⟨s, -, rfl⟩ := List.mem_map.mp (mem_cleanTexts.mp listed).2
    exact lower_ofText s

/-- Cleaning changes nothing exactly if the tags are in normal form. -/
theorem cleanTexts_eq_self_iff : cleanTexts tags = tags ↔ IsClean tags := by
  constructor
  · intro fixed
    rw [← fixed]
    exact isClean_cleanTexts _
  · intro normal
    have same : tags.map ofText = tags := by
      refine (List.map_congr_left fun t listed => ?_).trans (List.map_id tags)
      change lower (strip t) = t
      rw [normal.trimmed t listed, normal.lowercase t listed]
    have filled : tags.filter (fun tag => !tag.isEmpty) = tags := by
      rw [List.filter_eq_self]
      intro t listed
      rw [Bool.not_eq_true', String.isEmpty_eq_false_iff]
      rintro rfl
      exact normal.filled listed
    rw [cleanTexts, same, filled, eraseDups_of_nodup normal.different]

theorem isClean_of_cleanValue {v : Value} (cleaned : cleanValue v = .ok tags) : IsClean tags := by
  unfold cleanValue at cleaned
  split at cleaned
  · cases cleaned
    exact isClean_cleanTexts []
  · split at cleaned
    · rw [clean_eq] at cleaned
      split at cleaned <;> cases cleaned
      exact isClean_cleanTexts _
    · cases cleaned

end NormalForm

end Tag

namespace Value

/-- Texts are the same only if they are equal, so the same ones are kept. -/
theorem eraseDups_map_text (texts : List String) :
    (texts.map text).eraseDups = texts.eraseDups.map text := by
  induction texts using List.reverseRecOn with
  | nil => rfl
  | append_singleton texts s ih =>
    have seen : (texts.eraseDups.map text).any (same (text s)) = texts.eraseDups.any (s == ·) := by
      rw [List.any_map]
      exact congrArg _ (funext fun t => same_text s t)
    rw [List.map_append, List.map_singleton, eraseDups_concat, MusicianGraph.eraseDups_concat, ih,
      seen, List.map_append]
    congr 1
    split <;> rfl

end Value

namespace Schema

/-- A list of texts is read item by item. -/
theorem ofItems_texts (start : Nat) (texts : List String) :
    Reading.ofItems text start (texts.map Value.text) = .accepted texts := by
  induction texts generalizing start with
  | nil => rfl
  | cons s rest ih =>
    rw [List.map_cons, Reading.ofItems, ih]
    rfl

/-- Tags that are all different are read as they are. -/
theorem tags_ofTexts {texts : List String} (different : texts.Nodup) :
    tags (.ofTexts texts) = .accepted texts := by
  change Reading.ofItems text 0 (texts.map Value.text).eraseDups = _
  rw [Value.eraseDups_map_text, eraseDups_of_nodup different, ofItems_texts]

/-- Only texts are read as texts. -/
theorem ofItems_text_accepted_iff {items : List Value} {start : Nat} {texts : List String} :
    Reading.ofItems text start items = .accepted texts ↔ items = texts.map .text := by
  constructor
  · intro accepted
    induction items generalizing start texts with
    | nil =>
      cases accepted
      rfl
    | cons v rest ih =>
      obtain ⟨s, others, first, later, rfl⟩ := Reading.ofItems_cons_accepted_iff.mp accepted
      rw [text_accepted_iff] at first
      rw [first, ih later, List.map_cons]
  · rintro rfl
    exact ofItems_texts start texts

/-- No tag that is read is repeated. -/
theorem nodup_of_tags {v : Value} {texts : List String} (read : tags v = .accepted texts) :
    texts.Nodup := by
  unfold tags at read
  split at read
  · cases read
    exact List.nodup_nil
  · split at read
    · next items _ =>
      have apart := pairwise_eraseDups items
      rw [ofItems_text_accepted_iff.mp read, List.pairwise_map] at apart
      refine apart.imp fun {s t} other same => ?_
      subst same
      exact Bool.false_ne_true (other.symm.trans ((Value.same_text s s).trans BEq.rfl))
    · cases read

end Schema

end MusicianGraph
