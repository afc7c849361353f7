import MusicianGraph.Proofs.Number.OrderKey
import MusicianGraph.Proofs.Value.Record
import MusicianGraph.Value.Same

/-! # Sameness is an equivalence

The values that JSON can hold, undefined numbers aside, fall into classes of values that are the
same: numbers by what they are worth, whichever kind they are of, lists item by item, and objects by
their fields in any order. -/

namespace MusicianGraph

namespace Value

/-- The values of JSON. Every number is defined, and no object has two fields of one name. -/
inductive IsJson : Value → Prop
  | null : IsJson null
  | bool (b : Bool) : IsJson (bool b)
  | int (n : Int) : IsJson (int n)
  | float {x : Float} (defined : x.isNaN = false) : IsJson (float x)
  | text (s : String) : IsJson (text s)
  | list {items : List Value} (each : ∀ v ∈ items, IsJson v) : IsJson (list items)
  | object {fields : Record} (different : fields.names.Nodup)
      (each : ∀ field ∈ fields, IsJson field.2) : IsJson (object fields)

section Numbers

namespace Quantity

/-- What a number is worth: a whole number by itself, any other one by its key. -/
def worth : Quantity → Int ⊕ Int
  | whole n => .inl n
  | inexact x => .inr (orderKey x)

/-- The number is not an undefined one. -/
def IsDefined : Quantity → Prop
  | whole _ => True
  | inexact x => x.isNaN = false

/-- Numbers are the same exactly if they are worth the same. -/
theorem same_iff {a b : Quantity} (ha : a.IsDefined) (hb : b.IsDefined) :
    a.same b = true ↔ a.worth = b.worth := by
  cases a with
  | whole m => cases b with
    | whole n => simp [Quantity.same, worth]
    | inexact y => simp [Quantity.same, worth]
  | inexact x => cases b with
    | whole n => simp [Quantity.same, worth]
    | inexact y => simp [Quantity.same, worth, orderKey_eq_iff ha hb]

end Quantity

/-- The numbers of JSON are defined. -/
theorem IsJson.isDefined {v : Value} (json : IsJson v) {a : Quantity}
    (number : v.quantity? = some a) : a.IsDefined := by
  cases json with
  | bool b => cases number; trivial
  | int n => cases number; trivial
  | float defined =>
    rw [quantity?] at number
    split at number
    · cases number; trivial
    · cases number; exact defined
  | _ => cases number

theorem quantity?_float (x : Float) : ∃ a, quantity? (float x) = some a := by
  rw [quantity?]
  cases (Binary64.ofFloat x).exactInt? with
  | none => exact ⟨_, rfl⟩
  | some n => exact ⟨_, rfl⟩

end Numbers

section Shapes

/-- What is the same as a number is a number. -/
theorem same_number_iff {v w : Value} {a : Quantity} (number : v.quantity? = some a) :
    same v w = true ↔ ∃ b, w.quantity? = some b ∧ a.same b = true := by
  have compared : same v w = w.quantity?.any a.same := by
    cases v with
    | bool _ | int _ | float _ =>
      cases w <;> simp only [same, sameLeaf, number] <;> cases quantity? _ <;> rfl
    | _ => cases number
  rw [compared, Option.any_eq_true]

theorem same_null_iff {w : Value} : same null w = true ↔ w = null := by
  cases w with
  | null => exact iff_of_true rfl rfl
  | _ => exact iff_of_false Bool.false_ne_true nofun

theorem same_text_iff {s : String} {w : Value} : same (text s) w = true ↔ w = text s := by
  cases w with
  | text t =>
    rw [text.injEq, eq_comm (a := t)]
    exact beq_iff_eq
  | _ => exact iff_of_false Bool.false_ne_true nofun

theorem eq_text_of_same {v : Value} {s : String} (alike : same v (text s) = true) :
    v = text s := by
  cases v with
  | text t => exact congrArg text (beq_iff_eq.mp alike)
  | float x =>
    obtain ⟨a, number⟩ := quantity?_float x
    obtain ⟨b, number', -⟩ := (same_number_iff number).mp alike
    cases number'
  | _ => cases alike

theorem sameItems_iff {xs ys : List Value} :
    sameItems xs ys = true ↔ List.Forall₂ (fun x y => same x y = true) xs ys := by
  induction xs generalizing ys with
  | nil => cases ys <;> simp [sameItems]
  | cons x xs ih => cases ys <;> simp [sameItems, ih]

theorem same_list_iff {xs : List Value} {w : Value} :
    same (list xs) w = true ↔
      ∃ ys, w = list ys ∧ List.Forall₂ (fun x y => same x y = true) xs ys := by
  cases w with
  | list ys => simp [same, sameItems_iff]
  | _ =>
    refine iff_of_false Bool.false_ne_true ?_
    rintro ⟨_, ⟨⟩, -⟩

theorem sameFields_iff {fs gs : Record} :
    sameFields fs gs = true ↔
      ∀ field ∈ fs, ∃ w, gs.get? field.1 = some w ∧ same field.2 w = true := by
  induction fs with
  | nil => simp [sameFields]
  | cons field rest ih =>
    obtain ⟨name, v⟩ := field
    rw [sameFields, Bool.and_eq_true, ih, List.forall_mem_cons]
    refine and_congr_left' ?_
    rw [Record.get?]
    cases gs.lookup name <;> simp

theorem same_object_iff {fs : Record} {w : Value} :
    same (object fs) w = true ↔ ∃ gs : Record, w = object gs ∧ fs.length = gs.length ∧
      ∀ field ∈ fs, ∃ u, gs.get? field.1 = some u ∧ same field.2 u = true := by
  cases w with
  | object gs => simp [same, sameFields_iff]
  | _ =>
    refine iff_of_false Bool.false_ne_true ?_
    rintro ⟨_, ⟨⟩, -⟩

end Shapes

section Equivalence

namespace IsJson

variable {v w u : Value}

/-- The numbers among the values of JSON are the same exactly if they are worth the same. -/
theorem same_number_iff (json : IsJson v) (json' : IsJson w) {a : Quantity}
    (number : v.quantity? = some a) :
    same v w = true ↔ ∃ b, w.quantity? = some b ∧ a.worth = b.worth := by
  rw [Value.same_number_iff number]
  refine exists_congr fun b => and_congr_right fun number' => ?_
  exact Quantity.same_iff (json.isDefined number) (json'.isDefined number')

theorem same_refl (json : IsJson v) : same v v = true := by
  have number : ∀ {v : Value} {a : Quantity}, IsJson v → v.quantity? = some a →
      same v v = true := fun json quantity =>
    (json.same_number_iff json quantity).mpr ⟨_, quantity, rfl⟩
  induction json with
  | null => exact same_null_iff.mpr rfl
  | bool b => exact number (.bool b) rfl
  | int n => exact number (.int n) rfl
  | @float x defined =>
    obtain ⟨a, quantity⟩ := quantity?_float x
    exact number (.float defined) quantity
  | text s => exact same_text_iff.mpr rfl
  | @list items each ih => exact same_list_iff.mpr ⟨items, rfl, List.forall₂_same.mpr ih⟩
  | @object fields different each ih =>
    exact same_object_iff.mpr ⟨fields, rfl, rfl, fun field listed =>
      ⟨field.2, Record.get?_of_mem different listed, ih field listed⟩⟩

theorem same_symm (json : IsJson v) (json' : IsJson w) (alike : same v w = true) :
    same w v = true := by
  have number : ∀ {v w : Value} {a : Quantity}, IsJson v → IsJson w → v.quantity? = some a →
      same v w = true → same w v = true := by
    intro v w a json json' quantity alike
    obtain ⟨b, quantity', worth⟩ := (json.same_number_iff json' quantity).mp alike
    exact (json'.same_number_iff json quantity').mpr ⟨a, quantity, worth.symm⟩
  induction json generalizing w with
  | null =>
    obtain rfl := same_null_iff.mp alike
    exact alike
  | bool b => exact number (.bool b) json' rfl alike
  | int n => exact number (.int n) json' rfl alike
  | @float x defined =>
    obtain ⟨a, quantity⟩ := quantity?_float x
    exact number (.float defined) json' quantity alike
  | text s =>
    obtain rfl := same_text_iff.mp alike
    exact alike
  | @list items each ih =>
    obtain ⟨others, rfl, paired⟩ := same_list_iff.mp alike
    cases json' with
    | list each' =>
      obtain ⟨sizes, paired⟩ := List.forall₂_iff_get.mp paired
      refine same_list_iff.mpr ⟨items, rfl, List.forall₂_iff_get.mpr ⟨sizes.symm, ?_⟩⟩
      intro i inside inside'
      exact ih _ (List.get_mem _ _) (each' _ (List.get_mem _ _)) (paired i inside' inside)
  | @object fields different each ih =>
    obtain ⟨others, rfl, sizes, found⟩ := same_object_iff.mp alike
    cases json' with
    | object different' each' =>
      -- Distinct names that are all found among as many names are all of them.
      have part : fields.names ⊆ others.names := by
        intro name listed
        obtain ⟨field, member, rfl⟩ := List.mem_map.mp listed
        obtain ⟨u, there, -⟩ := found field member
        exact List.mem_map.mpr ⟨_, Record.mem_of_get? there, rfl⟩
      have all : fields.names.Perm others.names := by
        refine (different.subperm part).perm_of_length_le ?_
        rw [Record.names, Record.names, List.length_map, List.length_map, sizes]
      refine same_object_iff.mpr ⟨fields, rfl, sizes.symm, fun other listed => ?_⟩
      obtain ⟨field, member, named⟩ :=
        List.mem_map.mp (all.mem_iff.mpr (List.mem_map.mpr ⟨other, listed, rfl⟩))
      obtain ⟨u, there, alike⟩ := found field member
      rw [named, Record.get?_of_mem different' listed] at there
      cases there
      refine ⟨field.2, named ▸ Record.get?_of_mem different member, ?_⟩
      exact ih field member (each' other listed) alike

theorem same_trans (json : IsJson v) (json' : IsJson w) (json'' : IsJson u)
    (first : same v w = true) (second : same w u = true) : same v u = true := by
  have number : ∀ {v w u : Value} {a : Quantity}, IsJson v → IsJson w → IsJson u →
      v.quantity? = some a → same v w = true → same w u = true → same v u = true := by
    intro v w u a json json' json'' quantity first second
    obtain ⟨b, quantity', worth⟩ := (json.same_number_iff json' quantity).mp first
    obtain ⟨c, quantity'', worth'⟩ := (json'.same_number_iff json'' quantity').mp second
    exact (json.same_number_iff json'' quantity).mpr ⟨c, quantity'', worth.trans worth'⟩
  induction json generalizing w u with
  | null =>
    obtain rfl := same_null_iff.mp first
    exact second
  | bool b => exact number (.bool b) json' json'' rfl first second
  | int n => exact number (.int n) json' json'' rfl first second
  | @float x defined =>
    obtain ⟨a, quantity⟩ := quantity?_float x
    exact number (.float defined) json' json'' quantity first second
  | text s =>
    obtain rfl := same_text_iff.mp first
    exact second
  | @list items each ih =>
    obtain ⟨middle, rfl, paired⟩ := same_list_iff.mp first
    obtain ⟨others, rfl, paired'⟩ := same_list_iff.mp second
    cases json' with
    | list each' =>
      cases json'' with
      | list each'' =>
        obtain ⟨sizes, paired⟩ := List.forall₂_iff_get.mp paired
        obtain ⟨sizes', paired'⟩ := List.forall₂_iff_get.mp paired'
        refine same_list_iff.mpr
          ⟨others, rfl, List.forall₂_iff_get.mpr ⟨sizes.trans sizes', ?_⟩⟩
        intro i inside inside'
        exact ih _ (List.get_mem _ _) (each' _ (List.get_mem _ _)) (each'' _ (List.get_mem _ _))
          (paired i inside (sizes ▸ inside)) (paired' i (sizes ▸ inside) inside')
  | @object fields different each ih =>
    obtain ⟨middle, rfl, sizes, found⟩ := same_object_iff.mp first
    obtain ⟨others, rfl, sizes', found'⟩ := same_object_iff.mp second
    cases json' with
    | object different' each' =>
      cases json'' with
      | object different'' each'' =>
        refine same_object_iff.mpr ⟨others, rfl, sizes.trans sizes', fun field listed => ?_⟩
        obtain ⟨y, there, alike⟩ := found field listed
        have listed' := Record.mem_of_get? there
        obtain ⟨z, there', alike'⟩ := found' _ listed'
        exact ⟨z, there', ih field listed (each' _ listed') (each'' _ (Record.mem_of_get? there'))
          alike alike'⟩

end IsJson

end Equivalence

end Value

end MusicianGraph
