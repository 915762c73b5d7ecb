import Mathlib.Algebra.Order.BigOperators.Group.List
import Mathlib.Algebra.Order.Group.Nat
import Triangle.Std.CodeUnits

/-!
# How long JSON texts are

The bytes of an array are those of its items, the commas between them and the
brackets, and those of an object the same with its fields. An object is as long as
its fields in any order, and no shorter when values get longer.
-/

namespace Triangle.Std.Json

variable (items : List Json)

/-- The bytes of a field and the comma behind it. -/
def fieldSize (field : String × Json) : Nat :=
  (quote field.1).utf8ByteSize + field.2.byteLength + 2

/-- The bytes of some fields, with a comma for each. -/
def fieldsSize (fields : List (String × Json)) : Nat :=
  (fields.map fieldSize).sum

variable (field : String × Json)

theorem fieldsSize_cons (fields : List (String × Json)) :
    fieldsSize (field :: fields) = fieldSize field + fieldsSize fields :=
  List.sum_cons

variable {fields others : List (String × Json)}

/-- The same keys with values that are no longer. -/
def FieldsLe (fields others : List (String × Json)) : Prop :=
  List.Forall₂ (fun field other => field.1 = other.1 ∧ field.2.byteLength ≤ other.2.byteLength)
    fields others

theorem FieldsLe.refl (fields : List (String × Json)) : FieldsLe fields fields :=
  List.forall₂_same.mpr fun _ _ => ⟨rfl, Nat.le_refl _⟩

theorem FieldsLe.size (below : FieldsLe fields others) : fieldsSize fields ≤ fieldsSize others := by
  induction below with
  | nil => exact Nat.le_refl _
  | cons isBelow rest ih =>
      rw [fieldsSize_cons, fieldsSize_cons, fieldSize, fieldSize, isBelow.1]
      have shorter := isBelow.2
      omega

/-- Setting a field to a longer value. -/
theorem FieldsLe.setField (below : FieldsLe fields others) (key : String) {value longer : Json}
    (isLonger : value.byteLength ≤ longer.byteLength) :
    FieldsLe (Json.setField fields key value) (Json.setField others key longer) := by
  have sameKeys : (fields.any fun field => field.1 = key) =
      others.any fun field => field.1 = key := by
    induction below with
    | nil => rfl
    | cons isBelow rest ih =>
        rw [List.any_cons, List.any_cons, ih, isBelow.1]
  unfold Json.setField
  rw [sameKeys]
  split
  · refine List.forall₂_map_left_iff.mpr (List.forall₂_map_right_iff.mpr (below.imp ?_))
    intro field other isBelow
    rw [isBelow.1]
    split
    · exact ⟨rfl, isLonger⟩
    · exact isBelow
  · exact List.rel_append below (.cons ⟨rfl, isLonger⟩ .nil)

section

variable (distinct : (fields.map Prod.fst).Nodup) (key : String) (value : Json)
include distinct key value

/-- Setting a field puts it in place of the one with its key. -/
theorem setField_perm :
    (setField fields key value).Perm
      ((key, value) :: fields.filter fun field => field.1 ≠ key) := by
  induction fields with
  | nil => exact .refl _
  | cons field fields ih =>
      obtain ⟨notAgain, othersDistinct⟩ := List.nodup_cons.mp distinct
      by_cases isKey : field.1 = key
      · have others : ∀ other ∈ fields, other.1 ≠ key := by
          intro other member sameKey
          exact notAgain (List.mem_map.mpr ⟨other, member, sameKey.trans isKey.symm⟩)
        have kept : (fields.map fun other => if other.1 = key then (key, value) else other) =
            fields := by
          refine (List.map_congr_left fun other member => ?_).trans (List.map_id _)
          exact if_neg (others other member)
        rw [setField, if_pos (by simp [isKey]), List.map_cons, if_pos isKey, kept,
          List.filter_cons_of_neg (by simp [isKey]), List.filter_eq_self.mpr (by simpa using others)]
      · have goesOn : setField (field :: fields) key value = field :: setField fields key value := by
          unfold setField
          rw [List.any_cons, decide_eq_false isKey, Bool.false_or]
          split
          · rw [List.map_cons, if_neg isKey]
          · rfl
        rw [goesOn, List.filter_cons_of_pos (by simp [isKey])]
        exact ((ih othersDistinct).cons field).trans (.swap _ _ _)

theorem setField_distinct : ((setField fields key value).map Prod.fst).Nodup := by
  refine (((setField_perm distinct key value).map Prod.fst).nodup_iff).mpr ?_
  rw [List.map_cons]
  refine List.nodup_cons.mpr ⟨?_, distinct.sublist (List.filter_sublist.map _)⟩
  intro member
  obtain ⟨field, inFilter, isKey⟩ := List.mem_map.mp member
  exact of_decide_eq_true (List.mem_filter.mp inFilter).2 isKey

end

end Triangle.Std.Json
