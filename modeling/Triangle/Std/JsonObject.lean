import Triangle.Std.CanonicalJson

/-!
# Objects that are built from others

Reading the properties of an object that is made from another one: with a property set,
with the properties of a second object spread over it, or with some of its properties
picked.
-/

namespace Triangle.Std.Json

variable {fields more : List (String × Json)} {key other : String} {value : Json}

theorem property?_cons (field : String × Json) :
    property? (field :: fields) key =
      if field.1 = key then some field.2 else property? fields key := by
  unfold property?
  rw [List.find?_cons]
  by_cases same : field.1 = key
  · simp [same]
  · simp [same]

/-- Behind other fields only the keys that these do not have are read. -/
theorem property?_append :
    property? (fields ++ more) key = (property? fields key).or (property? more key) := by
  unfold property?
  rw [List.find?_append]
  cases fields.find? fun field => field.1 = key <;> rfl

theorem property?_eq_none_iff : property? fields key = none ↔ key ∉ fields.map Prod.fst := by
  unfold property?
  rw [Option.map_eq_none_iff, List.find?_eq_none]
  simp only [decide_eq_true_eq, List.mem_map, not_exists, not_and]

/-! ## Setting a property -/

/-- `fields[key] = value`. -/
def assign (fields : List (String × Json)) (key : String) (value : Json) : List (String × Json) :=
  if fields.any fun field => field.1 = key then
    fields.map fun field => if field.1 = key then (key, value) else field
  else fields ++ [(key, value)]

theorem property?_assign :
    property? (assign fields key value) other =
      if key = other then some value else property? fields other := by
  unfold assign
  split
  next isThere =>
    induction fields with
    | nil => cases isThere
    | cons field rest ih =>
        rw [List.map_cons, property?_cons, property?_cons]
        by_cases isKey : field.1 = key
        · rw [if_pos isKey]
          by_cases same : key = other
          · rw [if_pos same, if_pos same]
          · rw [if_neg same, if_neg same, if_neg (by rw [isKey]; exact same)]
            -- The fields behind it are read as before.
            clear isThere ih
            induction rest with
            | nil => rfl
            | cons next rest ih =>
                rw [List.map_cons, property?_cons, property?_cons, ih]
                by_cases isKeyToo : next.1 = key
                · rw [if_pos isKeyToo, if_neg same, if_neg (by rw [isKeyToo]; exact same)]
                · rw [if_neg isKeyToo]
        · rw [if_neg isKey]
          rw [List.any_cons, decide_eq_false isKey, Bool.false_or] at isThere
          rw [ih isThere]
          by_cases same : key = other
          · rw [if_pos same, if_pos same, if_neg (by rw [← same]; exact isKey)]
          · rw [if_neg same, if_neg same]
  next isNew =>
    rw [property?_append, property?_cons]
    by_cases same : key = other
    · have absent : property? fields other = none := by
        rw [property?_eq_none_iff, ← same]
        simpa using isNew
      rw [if_pos same, if_pos same, absent]
      rfl
    · rw [if_neg same, if_neg same]
      exact Option.or_none

/-! ## Spreading an object -/

/-- `{ ...fields, ...more }`. -/
def spread (fields more : List (String × Json)) : List (String × Json) :=
  more.foldl (fun result field => assign result field.1 field.2) fields

/-- What is spread last is read first. -/
theorem property?_spread (distinct : (more.map Prod.fst).Nodup) :
    property? (spread fields more) key = (property? more key).or (property? fields key) := by
  induction more generalizing fields with
  | nil => rfl
  | cons field rest ih =>
      obtain ⟨isNew, distinctRest⟩ := List.nodup_cons.mp distinct
      change property? (spread (assign fields field.1 field.2) rest) key = _
      rw [ih distinctRest, property?_assign, property?_cons]
      by_cases same : field.1 = key
      · have absent : property? rest key = none := by
          rw [property?_eq_none_iff, ← same]
          exact isNew
        rw [if_pos same, if_pos same, absent]
        rfl
      · rw [if_neg same, if_neg same]

/-! ## Picking properties -/

/-- The properties of some names, if all of them are there. -/
def pick (fields : List (String × Json)) : List String → Option (List (String × Json))
  | [] => some []
  | name :: names =>
      match property? fields name, pick fields names with
      | some value, some picked => some ((name, value) :: picked)
      | _, _ => none

variable {names : List String} {picked : List (String × Json)}

theorem pick_cons {name : String} :
    pick fields (name :: names) = some picked ↔ ∃ value rest,
      property? fields name = some value ∧ pick fields names = some rest ∧
        picked = (name, value) :: rest := by
  rw [pick]
  cases property? fields name with
  | none => simp
  | some value =>
      cases pick fields names with
      | none => simp
      | some rest => simp [eq_comm]

theorem pick_keys (isPicked : pick fields names = some picked) : picked.map Prod.fst = names := by
  induction names generalizing picked with
  | nil =>
      obtain rfl := Option.some.inj isPicked
      rfl
  | cons name names ih =>
      obtain ⟨value, rest, -, isRest, rfl⟩ := pick_cons.mp isPicked
      rw [List.map_cons, ih isRest]

/-- What is picked reads as before. -/
theorem property?_pick (isPicked : pick fields names = some picked) (isNamed : key ∈ names) :
    property? picked key = property? fields key := by
  induction names generalizing picked with
  | nil => cases isNamed
  | cons name names ih =>
      obtain ⟨value, rest, isValue, isRest, rfl⟩ := pick_cons.mp isPicked
      rw [property?_cons]
      by_cases same : name = key
      · rw [if_pos same, ← same, isValue]
      · rw [if_neg same]
        refine ih isRest ?_
        exact (List.mem_cons.mp isNamed).resolve_left fun isName => same isName.symm

/-- Whatever reads the same at the names is picked the same. -/
theorem pick_congr (same : ∀ name ∈ names,
    property? fields name = property? more name) : pick fields names = pick more names := by
  induction names with
  | nil => rfl
  | cons name names ih =>
      unfold pick
      rw [same name List.mem_cons_self,
        ih fun other isOther => same other (List.mem_cons_of_mem _ isOther)]

end Triangle.Std.Json
