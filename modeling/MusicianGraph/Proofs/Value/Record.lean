import MusicianGraph.Service.Arguments
import Mathlib.Data.List.Basic

/-! # Fields of records

What stands under a name in a record that was made of another one. All that reads a record looks
its fields up by name, so this is all that has to be known about records. -/

namespace MusicianGraph

/-- Two steps have a result if the first one has one, and the second one for that. -/
theorem bind_ok_iff {α β : Type} {x : Except Failure α} {f : α → Except Failure β} {b : β} :
    x >>= f = .ok b ↔ ∃ a, x = .ok a ∧ f a = .ok b := by
  cases x with
  | error e => exact iff_of_false nofun fun ⟨_, absurd, _⟩ => nomatch absurd
  | ok a => exact ⟨fun same => ⟨a, rfl, same⟩, fun ⟨_, same, rest⟩ => Except.ok.inj same ▸ rest⟩

theorem map_ok_iff {α β : Type} {x : Except Failure α} {f : α → β} {b : β} :
    x.map f = .ok b ↔ ∃ a, x = .ok a ∧ f a = b := by
  cases x with
  | error e => exact iff_of_false nofun fun ⟨_, absurd, _⟩ => nomatch absurd
  | ok a => simp [Except.map]

namespace Record

theorem get?_cons (field : String × Value) (r : Record) (name : String) :
    Record.get? (field :: r) name = if name = field.1 then some field.2 else r.get? name := by
  rw [get?, List.lookup_cons]
  by_cases here : name = field.1
  · rw [if_pos here, here, beq_self_eq_true]
  · rw [if_neg here, beq_false_of_ne here]
    rfl

theorem mem_of_get? {r : Record} {name : String} {v : Value} (found : r.get? name = some v) :
    (name, v) ∈ r := by
  obtain ⟨before, after, rfl, -⟩ := List.lookup_eq_some_iff.mp found
  exact List.mem_append_right before List.mem_cons_self

/-- A field is found under its name if no other field has it. -/
theorem get?_of_mem {r : Record} (different : r.names.Nodup) {field : String × Value}
    (listed : field ∈ r) : r.get? field.1 = some field.2 := by
  induction r with
  | nil => cases listed
  | cons first rest ih =>
    obtain ⟨fresh, different⟩ := List.nodup_cons.mp different
    rw [get?_cons]
    rcases List.mem_cons.mp listed with rfl | later
    · rw [if_pos rfl]
    · rw [if_neg fun same => fresh (List.mem_map.mpr ⟨field, later, same⟩), ih different later]

private theorem get?_replace (r : Record) (name other : String) (v : Value) :
    Record.get? (r.map fun field => if field.1 == name then (name, v) else field) other =
      if other = name then (r.get? name).map fun _ => v else r.get? other := by
  induction r with
  | nil => simp [get?]
  | cons field rest ih =>
    rw [List.map_cons, get?_cons, get?_cons, get?_cons, ih]
    by_cases here : field.1 = name
    · rw [here, beq_self_eq_true]
      by_cases same : other = name
      · simp [same]
      · simp [same]
    · rw [beq_false_of_ne here]
      by_cases same : other = name
      · simp [same, Ne.symm here]
      · simp [same]

/-- Setting a field changes that field alone. -/
theorem get?_put (r : Record) (name other : String) (v : Value) :
    (r.put name v).get? other = if other = name then some v else r.get? other := by
  rw [put]
  cases found : r.get? name with
  | some w =>
    have replaced := get?_replace r name other v
    rw [found] at replaced
    exact replaced
  | none =>
    change List.lookup other (r ++ [(name, v)]) = _
    rw [List.lookup_append]
    by_cases same : other = name
    · subst same
      rw [if_pos rfl]
      change (r.get? other).or _ = _
      rw [found]
      simp
    · simp [same, get?, List.lookup_cons, beq_false_of_ne same]

/-- Fields in front are passed over by a name that they do not have. -/
theorem get?_append {front : Record} {name : String} (absent : front.get? name = none)
    (r : Record) : Record.get? (front ++ r) name = r.get? name := by
  rw [get?, List.lookup_append]
  change (front.get? name).or _ = _
  rw [absent]
  rfl

theorem getOrNull_append {front : Record} {name : String} (absent : front.get? name = none)
    (r : Record) : Record.getOrNull (front ++ r) name = r.getOrNull name := by
  rw [getOrNull, get?_append absent, getOrNull]

theorem getOrNull_put (r : Record) (name other : String) (v : Value) :
    (r.put name v).getOrNull other = if other = name then v else r.getOrNull other := by
  rw [getOrNull, get?_put, getOrNull]
  split <;> rfl

/-- What is put under a name last stands there. -/
theorem put_put (r : Record) (name : String) (v w : Value) :
    (r.put name v).put name w = r.put name w := by
  have found : ((r.put name v).get? name).isSome := by
    rw [get?_put, if_pos rfl]
    rfl
  rw [put, if_pos found, put, put]
  split
  · rw [List.map_map]
    refine List.map_congr_left fun field _ => ?_
    by_cases here : field.1 = name <;> simp [here]
  · rename_i absent
    have kept : r.map (fun field => if field.1 == name then (name, w) else field) = r := by
      refine (List.map_congr_left fun field listed => ?_).trans (List.map_id r)
      have other : field.1 ≠ name := by
        rintro rfl
        exact absent (List.lookup_isSome_iff.mpr ⟨field, listed, beq_self_eq_true _⟩)
      rw [beq_false_of_ne other]
      rfl
    rw [List.map_append, kept]
    simp

/-- Of fields with distinct names, those that have a value are the fields of a record. -/
theorem get?_filterMap (fields : List (String × Option Value)) (name : String)
    (distinct : (fields.map Prod.fst).Nodup) :
    Record.get? (fields.filterMap fun (key, written) => written.map fun v => (key, v)) name =
      (fields.lookup name).join := by
  induction fields with
  | nil => rfl
  | cons field rest ih =>
    obtain ⟨key, written⟩ := field
    rw [List.map_cons, List.nodup_cons] at distinct
    have tail := ih distinct.2
    rw [List.lookup_cons]
    by_cases here : name = key
    · subst here
      rw [beq_self_eq_true]
      cases written with
      | some v => simp [get?]
      | none =>
        have absent : rest.lookup name = none := by
          rw [List.lookup_eq_none_iff]
          intro other member
          rw [bne_iff_ne]
          exact fun same => distinct.1 (List.mem_map.mpr ⟨other, member, same.symm⟩)
        rw [absent] at tail
        exact tail
    · rw [beq_false_of_ne here]
      cases written with
      | some v =>
        change Record.get? ((key, v) :: _) name = _
        rw [get?_cons, if_neg here]
        exact tail
      | none => exact tail

/-- What is kept of a record under certain names. -/
theorem get?_restricted (r : Record) (names : List String) (name : String) :
    Record.get? (names.filterMap fun key => (r.get? key).map fun v => (key, v)) name =
      if name ∈ names then r.get? name else none := by
  induction names with
  | nil => rfl
  | cons key rest ih =>
    cases found : r.get? key with
    | none =>
      rw [List.filterMap_cons_none (by rw [found]; rfl), ih]
      by_cases here : name = key
      · subst here
        simp [found]
      · simp [here]
    | some v =>
      rw [List.filterMap_cons_some (by rw [found]; rfl), get?_cons, ih]
      by_cases here : name = key
      · subst here
        simp [found]
      · simp [here]

/-- The fields that are kept are those that were there, in the order of the names. -/
theorem names_restricted (r : Record) (names : List String) :
    Record.names (names.filterMap fun key => (r.get? key).map fun v => (key, v)) =
      names.filter fun key => (r.get? key).isSome := by
  induction names with
  | nil => rfl
  | cons key rest ih =>
    cases found : r.get? key with
    | none =>
      rw [List.filterMap_cons_none (by rw [found]; rfl), ih, List.filter_cons, found]
      rfl
    | some v =>
      rw [List.filterMap_cons_some (by rw [found]; rfl), List.filter_cons, found]
      exact congrArg (key :: ·) ih

/-- Making the values of a record one by one keeps its names. -/
theorem names_mapM (make : String → Value → Except Failure (String × Value))
    (keeps : ∀ {key v field}, make key v = .ok field → field.1 = key) {r made : Record}
    (success : (r.mapM fun (key, v) => make key v) = .ok made) : made.names = r.names := by
  induction r generalizing made with
  | nil =>
    cases success
    rfl
  | cons field rest ih =>
    obtain ⟨key, v⟩ := field
    rw [List.mapM_cons, bind_ok_iff] at success
    obtain ⟨field, first, success⟩ := success
    obtain ⟨fields, others, same⟩ := bind_ok_iff.mp success
    cases same
    exact congrArg₂ List.cons (keeps first) (ih others)

/-- A field of a record whose values were made of those of another record, one by one. -/
theorem get?_mapM (make : String → Value → Except Failure (String × Value))
    (keeps : ∀ {key v field}, make key v = .ok field → field.1 = key) {r made : Record}
    (success : (r.mapM fun (key, v) => make key v) = .ok made) (name : String) :
    (r.get? name = none ∧ made.get? name = none) ∨
      ∃ v w, r.get? name = some v ∧ make name v = .ok (name, w) ∧ made.get? name = some w := by
  induction r generalizing made with
  | nil =>
    cases success
    exact .inl ⟨rfl, rfl⟩
  | cons field rest ih =>
    obtain ⟨key, v⟩ := field
    rw [List.mapM_cons] at success
    dsimp only at success
    cases first : make key v with
    | error f => rw [first] at success; cases success
    | ok field =>
      obtain ⟨same, w⟩ := field
      obtain rfl : same = key := keeps first
      cases others : rest.mapM fun (key, v) => make key v with
      | error f => rw [first, others] at success; cases success
      | ok fields =>
        rw [first, others] at success
        cases success
        rw [get?_cons, get?_cons]
        by_cases here : name = same
        · subst here
          exact .inr ⟨v, w, if_pos rfl, first, if_pos rfl⟩
        · rw [if_neg here, if_neg here]
          exact ih others

/-- What a column has is the field of its name. -/
theorem get?_of_column {r : Record} {name : String} {v : Value} (success : r.column name = .ok v) :
    r.get? name = some v := by
  rw [column] at success
  cases found : r.get? name with
  | none =>
    rw [found] at success
    cases success
  | some w =>
    rw [found] at success
    cases success
    rfl

theorem getOrNull_of_column {r : Record} {name : String} {v : Value}
    (success : r.column name = .ok v) : r.getOrNull name = v := by
  rw [getOrNull, get?_of_column success]
  rfl

end Record

end MusicianGraph
