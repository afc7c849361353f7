import MusicianGraph.Proofs.Schema.Accepted
import MusicianGraph.Proofs.Value.Record

/-! # Which field a problem is in

A model is read field by field, and what is wrong with it is what is wrong with its fields, one after
the other. Every problem names the field that it is in, so those of one field can be told from the
others; and a field that stops the reading stops that of the whole. -/

namespace MusicianGraph

/-- What is wrong with data: the problems, or the kind of value that stops the reading. -/
abbrev Verdict := Except String (List Problem)

namespace Verdict

/-- Two verdicts in one: the problems add up, and the first stop wins. -/
def both : Verdict → Verdict → Verdict
  | .ok first, .ok second => .ok (first ++ second)
  | .ok _, .error kind => .error kind
  | .error kind, _ => .error kind

theorem both_assoc (u v w : Verdict) : both (both u v) w = both u (both v w) := by
  cases u <;> cases v <;> cases w <;> simp [both]

@[simp] theorem both_nil (v : Verdict) : both v (.ok []) = v := by
  cases v <;> simp [both]

@[simp] theorem nil_both (v : Verdict) : both (.ok []) v = v := by
  cases v <;> rfl

theorem both_eq_ok_iff {v w : Verdict} {problems : List Problem} :
    both v w = .ok problems ↔
      ∃ first second, v = .ok first ∧ w = .ok second ∧ first ++ second = problems := by
  cases v <;> cases w <;> simp [both]

/-- A verdict as seen from one step further out. -/
def within (step : Step) (v : Verdict) : Verdict := v.map (List.map (Problem.within step))

theorem within_eq_ok_iff {step : Step} {v : Verdict} {problems : List Problem} :
    v.within step = .ok problems ↔
      ∃ inner, v = .ok inner ∧ inner.map (Problem.within step) = problems := by
  cases v with
  | ok inner => simp [within, Except.map]
  | error kind => simp [within, Except.map]

end Verdict

namespace Reading

variable {α β : Type}

/-- What is wrong with the data that was read. -/
def verdict : Reading α → Verdict
  | accepted _ => .ok []
  | rejected problems => .ok problems
  | stopped kind => .error kind

@[simp] theorem verdict_map (f : α → β) (r : Reading α) : (f <$> r).verdict = r.verdict := by
  cases r <;> rfl

@[simp] theorem verdict_seq (f : Reading (α → β)) (r : Reading α) :
    (f <*> r).verdict = f.verdict.both r.verdict := by
  cases f with
  | accepted f => cases r <;> rfl
  | rejected problems => cases r <;> simp [Seq.seq, seq, verdict, Verdict.both]
  | stopped kind => rfl

theorem verdict_within (step : Step) (r : Reading α) :
    (r.within step).verdict = r.verdict.within step := by
  cases r <;> rfl

theorem stopped_of_verdict {r : Reading α} {kind : String} (found : r.verdict = .error kind) :
    r = .stopped kind := by
  cases r <;> cases found
  rfl

theorem rejected_of_verdict {r : Reading α} {problems : List Problem} (wrong : problems ≠ [])
    (found : r.verdict = .ok problems) : r = .rejected problems := by
  cases r with
  | accepted a => cases found; exact absurd rfl wrong
  | rejected others => cases found; rfl
  | stopped kind => cases found

end Reading

namespace Schema

/-- A field of a model: its name, whether it has to be there, and what is wrong with a value. -/
structure Field where
  name : String
  needed : Bool
  judge : Value → Verdict

namespace Field

variable {α : Type} {f : Field} {r : Record}

/-- A field that has to be there. -/
def required (name : String) (read : Value → Reading α) : Field :=
  ⟨name, true, fun v => (read v).verdict⟩

def defaulted (name : String) (read : Value → Reading α) : Field :=
  ⟨name, false, fun v => (read v).verdict⟩

/-- What is wrong with the field in a record. -/
def verdict (f : Field) (r : Record) : Verdict :=
  match r.get? f.name with
  | some v => (f.judge v).within (.field f.name)
  | none => .ok (if f.needed then [⟨[.field f.name], .missing, .object r⟩] else [])

theorem verdict_required (r : Record) (name : String) (read : Value → Reading α) :
    (Schema.required r name read).verdict = (required name read).verdict r := by
  rw [Schema.required, verdict]
  dsimp only [required]
  cases r.get? name with
  | none => rfl
  | some v => exact Reading.verdict_within _ _

theorem verdict_defaulted (r : Record) (name : String) (empty : α) (read : Value → Reading α) :
    (Schema.defaulted r name empty read).verdict = (defaulted name read).verdict r := by
  rw [Schema.defaulted, verdict]
  dsimp only [defaulted]
  cases r.get? name with
  | none => rfl
  | some v => exact Reading.verdict_within _ _

theorem verdict_of_given {v : Value} (given : r.get? f.name = some v) :
    f.verdict r = (f.judge v).within (.field f.name) := by
  rw [verdict, given]

/-- A value is all that matters once nothing is wrong: not even what else the record holds. -/
theorem verdict_of_same {other : Record} (same : other.get? f.name = r.get? f.name)
    (fine : f.verdict r = .ok []) : f.verdict other = .ok [] := by
  rw [verdict] at fine ⊢
  rw [same]
  split at fine
  · exact fine
  · split at fine
    · cases fine
    · next optional =>
      rw [if_neg optional]

end Field

/-- Is the problem in the field of the name? -/
def isIn (name : String) (p : Problem) : Bool := p.path.head? == some (.field name)

/-- Problems of a field are in that field alone. -/
theorem Field.isIn_eq {f : Field} {r : Record} {problems : List Problem}
    (found : f.verdict r = .ok problems) (name : String) :
    ∀ p ∈ problems, isIn name p = (f.name == name) := by
  have heads : ∀ p ∈ problems, p.path.head? = some (.field f.name) := by
    rw [verdict] at found
    split at found
    · cases judged : f.judge _ with
      | error kind => rw [judged] at found; cases found
      | ok inner =>
        rw [judged] at found
        cases found
        intro p listed
        obtain ⟨q, -, rfl⟩ := List.mem_map.mp listed
        rfl
    · cases found
      intro p listed
      split at listed
      · rw [List.mem_singleton.mp listed]
        rfl
      · cases listed
  intro p listed
  rw [isIn, heads p listed, Bool.eq_iff_iff, beq_iff_eq, beq_iff_eq, Option.some.injEq,
    Step.field.injEq]

/-- What is wrong with a record, field by field. -/
def judgeAll (fields : List Field) (r : Record) : Verdict :=
  fields.foldr (fun f rest => (f.verdict r).both rest) (.ok [])

section Fields

variable {fields : List Field} {r : Record} {f : Field}

theorem judgeAll_cons (f : Field) (rest : List Field) (r : Record) :
    judgeAll (f :: rest) r = (f.verdict r).both (judgeAll rest r) := rfl

/-- Nothing is wrong with a record if nothing is wrong with any of its fields. -/
theorem judgeAll_eq_nil_iff : judgeAll fields r = .ok [] ↔ ∀ f ∈ fields, f.verdict r = .ok [] := by
  induction fields with
  | nil => exact iff_of_true rfl nofun
  | cons f rest ih =>
    rw [judgeAll_cons, Verdict.both_eq_ok_iff, List.forall_mem_cons, ← ih]
    constructor
    · rintro ⟨first, second, own, others, none⟩
      obtain ⟨rfl, rfl⟩ := List.append_eq_nil_iff.mp none
      exact ⟨own, others⟩
    · rintro ⟨own, others⟩
      exact ⟨[], [], own, others, rfl⟩

/-- A field that stops the reading stops it whatever the other fields are. -/
theorem judgeAll_of_stop {kind : String} (listed : f ∈ fields) (stop : f.verdict r = .error kind) :
    ∃ kind, judgeAll fields r = .error kind := by
  induction fields with
  | nil => cases listed
  | cons g rest ih =>
    rw [judgeAll_cons]
    rcases List.mem_cons.mp listed with rfl | later
    · rw [stop]
      exact ⟨kind, rfl⟩
    · obtain ⟨last, stopped⟩ := ih later
      rw [stopped]
      cases g.verdict r with
      | ok first => exact ⟨last, rfl⟩
      | error first => exact ⟨first, rfl⟩

/-- The problems of a record that are in none of its fields are none. -/
theorem filter_judgeAll_of_unlisted {problems : List Problem} {name : String}
    (unlisted : name ∉ fields.map Field.name) (judged : judgeAll fields r = .ok problems) :
    problems.filter (isIn name) = [] := by
  induction fields generalizing problems with
  | nil =>
    cases judged
    rfl
  | cons g rest ih =>
    rw [List.map_cons, List.mem_cons, not_or] at unlisted
    obtain ⟨first, second, own, others, rfl⟩ := Verdict.both_eq_ok_iff.mp judged
    rw [List.filter_append, ih unlisted.2 others, List.append_nil, List.filter_eq_nil_iff]
    intro p listed
    rw [Field.isIn_eq own name p listed, beq_iff_eq]
    exact fun same => unlisted.1 same.symm

/-- The problems of a record that are in a field are those of the field. -/
theorem filter_judgeAll {problems : List Problem} (distinct : (fields.map Field.name).Nodup)
    (listed : f ∈ fields) (judged : judgeAll fields r = .ok problems) :
    f.verdict r = .ok (problems.filter (isIn f.name)) := by
  induction fields generalizing problems with
  | nil => cases listed
  | cons g rest ih =>
    rw [List.map_cons, List.nodup_cons] at distinct
    obtain ⟨first, second, own, others, rfl⟩ := Verdict.both_eq_ok_iff.mp judged
    rw [List.filter_append]
    rcases List.mem_cons.mp listed with rfl | later
    · have all : first.filter (isIn f.name) = first := by
        rw [List.filter_eq_self]
        intro p listed
        rw [Field.isIn_eq own f.name p listed, beq_self_eq_true]
      rw [all, filter_judgeAll_of_unlisted distinct.1 others, List.append_nil, own]
    · have apart : g.name ≠ f.name := fun same =>
        distinct.1 (same ▸ List.mem_map.mpr ⟨f, later, rfl⟩)
      have none : first.filter (isIn f.name) = [] := by
        rw [List.filter_eq_nil_iff]
        intro p listed
        rw [Field.isIn_eq own f.name p listed, beq_iff_eq]
        exact apart
      rw [none, List.nil_append]
      exact ih distinct.2 later others

/-- If nothing is wrong with the other fields, a record is judged by one. -/
theorem judgeAll_alone (distinct : (fields.map Field.name).Nodup) (listed : f ∈ fields)
    (fine : ∀ g ∈ fields, g.name ≠ f.name → g.verdict r = .ok []) :
    judgeAll fields r = f.verdict r := by
  induction fields with
  | nil => cases listed
  | cons g rest ih =>
    rw [List.map_cons, List.nodup_cons] at distinct
    rw [judgeAll_cons]
    rcases List.mem_cons.mp listed with rfl | later
    · have others : judgeAll rest r = .ok [] := judgeAll_eq_nil_iff.mpr fun g later =>
        fine g (List.mem_cons_of_mem _ later) fun same =>
          distinct.1 (same ▸ List.mem_map.mpr ⟨g, later, rfl⟩)
      rw [others, Verdict.both_nil]
    · have apart : g.name ≠ f.name := fun same =>
        distinct.1 (same ▸ List.mem_map.mpr ⟨f, later, rfl⟩)
      rw [fine g List.mem_cons_self apart, Verdict.nil_both]
      exact ih distinct.2 later fun g later => fine g (List.mem_cons_of_mem _ later)

end Fields

end Schema

section Models

open Schema

def UserProfile.fieldRules : List Field := [
  .required "user_id" text,
  .required "username" text,
  .defaulted "name" (optional text),
  .defaulted "bio" (optional text),
  .defaulted "avatar_url" (optional text),
  .defaulted "genres" tags,
  .defaulted "instruments" tags,
  .defaulted "location" (optional GeoPoint.read),
  .defaulted "post_count" (nullAs 0 int),
  .defaulted "followers_count" (nullAs 0 int),
  .defaulted "following_count" (nullAs 0 int),
  .defaulted "hour_rate" (optional float),
  .defaulted "solo_artist" (nullAs false bool)]

theorem UserProfile.verdict_ofRecord (r : Record) : (ofRecord r).verdict = judgeAll fieldRules r := by
  simp only [ofRecord, Reading.verdict_seq, Reading.verdict_map, Field.verdict_required,
    Field.verdict_defaulted, fieldRules, judgeAll, List.foldr_cons, List.foldr_nil, Verdict.both_assoc,
    Verdict.both_nil]

def Post.fieldRules : List Field := [
  .required "post_id" text,
  .required "user_id" text,
  .defaulted "title" (optional text),
  .defaulted "caption" (optional text),
  .defaulted "media_url" (optional text),
  .defaulted "media_type" (optional MediaType.read),
  .defaulted "genre_filters" tags,
  .defaulted "likes_count" (nullAs 0 int),
  .defaulted "is_notice" (nullAs false bool),
  .defaulted "created_at" (optional moment),
  .defaulted "location" (optional GeoPoint.read)]

theorem Post.verdict_ofRecord (r : Record) : (ofRecord r).verdict = judgeAll fieldRules r := by
  simp only [ofRecord, Reading.verdict_seq, Reading.verdict_map, Field.verdict_required,
    Field.verdict_defaulted, fieldRules, judgeAll, List.foldr_cons, List.foldr_nil, Verdict.both_assoc,
    Verdict.both_nil]

end Models

end MusicianGraph
