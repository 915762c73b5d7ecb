import Mathlib.Algebra.Ring.Int.Defs
import Mathlib.Algebra.Ring.Nat
import Mathlib.Algebra.BigOperators.Group.List.Basic
import Mathlib.Data.List.Nodup

/-!
# Keyed tables

A `Table` is a list of rows with distinct keys: a database table with its
primary key, or a hash map whose entries are rows. `update` is
`UPDATE … WHERE`, `delete` is `DELETE … WHERE`, `insert` needs the key to be
free, and `upsert` replaces the row of its key.

Each operation has one lemma that says what `find?` reads afterwards, and one
that says what becomes of a total over the rows; proofs about tables use these
and do not look at the rows.
-/

namespace Triangle.Std

variable {Key Row : Type} [DecidableEq Key]

/-- Rows with distinct keys. -/
structure Table (keyOf : Row → Key) where
  rows : List Row
  distinct : (rows.map keyOf).Nodup

namespace Table

variable {keyOf : Row → Key}

/-- The row of a key. -/
def find? (table : Table keyOf) (key : Key) : Option Row :=
  table.rows.find? fun row => keyOf row = key

/-- `SELECT * … WHERE selected`. -/
def select (table : Table keyOf) (selected : Row → Bool) : List Row :=
  table.rows.filter selected

/-- The table without rows. -/
def empty : Table keyOf where
  rows := []
  distinct := List.nodup_nil

variable {table : Table keyOf} {row : Row} {selected : Row → Bool} {weight : Row → Nat}

variable {key : Key} {change : Row → Row} {first second : Table keyOf}

private theorem key_notMem_of_find?_none (free : table.find? key = none) :
    key ∉ table.rows.map keyOf := by
  intro member
  obtain ⟨row, rowMember, rowKey⟩ := List.mem_map.mp member
  have differs := List.find?_eq_none.mp free row rowMember
  exact differs (decide_eq_true rowKey)

/-- Add a row whose key is free. -/
def insert (table : Table keyOf) (row : Row) (free : table.find? (keyOf row) = none) :
    Table keyOf where
  rows := table.rows ++ [row]
  distinct := by
    rw [List.map_append, List.map_singleton]
    exact List.Nodup.append table.distinct (List.nodup_singleton _)
      (List.disjoint_singleton.mpr (key_notMem_of_find?_none free))

/-- `UPDATE … SET change WHERE selected`; the key of a changed row stays. -/
def update (table : Table keyOf) (selected : Row → Bool) (change : Row → Row)
    (keeps : ∀ row, selected row = true → keyOf (change row) = keyOf row) : Table keyOf where
  rows := table.rows.map fun row => if selected row then change row else row
  distinct := by
    have sameKeys : (table.rows.map fun row => if selected row then change row else row).map keyOf
        = table.rows.map keyOf := by
      rw [List.map_map]
      apply List.map_congr_left
      intro row _
      by_cases chosen : selected row = true
      · simp [chosen, keeps row chosen]
      · simp [chosen]
    rw [sameKeys]
    exact table.distinct

/-- `DELETE … WHERE selected`. -/
def delete (table : Table keyOf) (selected : Row → Bool) : Table keyOf where
  rows := table.rows.filter fun row => !selected row
  distinct := table.distinct.sublist (List.filter_sublist.map keyOf)

/-- `UPDATE` of key columns: it fails when two rows would share a key. -/
def rekey? (table : Table keyOf) (selected : Row → Bool) (change : Row → Row) :
    Option (Table keyOf) :=
  let rows := table.rows.map fun row => if selected row then change row else row
  if distinct : (rows.map keyOf).Nodup then some ⟨rows, distinct⟩ else none

/-- The rows as another type reads them, under the same keys. -/
def map {Other : Type} {otherKey : Other → Key} (table : Table keyOf) (change : Row → Other)
    (keeps : ∀ row, otherKey (change row) = keyOf row) : Table otherKey where
  rows := table.rows.map change
  distinct := by
    have sameKeys : (table.rows.map change).map otherKey = table.rows.map keyOf := by
      rw [List.map_map]
      exact List.map_congr_left fun row _ => keeps row
    rw [sameKeys]
    exact table.distinct

/-- Add a row, or replace the row of its key. -/
def upsert (table : Table keyOf) (row : Row) : Table keyOf :=
  if free : table.find? (keyOf row) = none then table.insert row free
  else table.update (fun other => keyOf other = keyOf row) (fun _ => row)
    (fun _ same => (of_decide_eq_true same).symm)

@[simp] theorem find?_empty (key : Key) : (empty : Table keyOf).find? key = none := rfl

/-- A row that was found is in the table and has the key. -/
theorem find?_some (found : table.find? key = some row) : row ∈ table.rows ∧ keyOf row = key := by
  unfold find? at found
  exact ⟨List.mem_of_find?_eq_some found, by simpa using List.find?_some found⟩

/-- Membership is being found under one's own key. -/
theorem mem_rows_iff : row ∈ table.rows ↔ table.find? (keyOf row) = some row := by
  refine ⟨fun member => ?_, fun found => (find?_some found).1⟩
  obtain ⟨other, found⟩ : ∃ other, table.find? (keyOf row) = some other := by
    rw [← Option.isSome_iff_exists, find?, List.find?_isSome]
    exact ⟨row, member, decide_eq_true rfl⟩
  obtain ⟨otherMember, sameKey⟩ := find?_some found
  rw [found, List.inj_on_of_nodup_map table.distinct otherMember member sameKey]

theorem mem_select :
    row ∈ table.select selected ↔ table.find? (keyOf row) = some row ∧ selected row = true := by
  rw [select, List.mem_filter, mem_rows_iff]

/-- After an insert, the new row is found under its key and nothing else changes. -/
theorem find?_insert {free : table.find? (keyOf row) = none} (key : Key) :
    (table.insert row free).find? key =
      if key = keyOf row then some row else table.find? key := by
  unfold find? at free
  change (table.rows ++ [row]).find? _ = _
  rw [List.find?_append, find?]
  by_cases same : key = keyOf row
  · subst same
    simp [free]
  · simp [same, Ne.symm same]

/-- After an update, a row is found changed if it was selected. -/
theorem find?_update {keeps : ∀ row, selected row = true → keyOf (change row) = keyOf row}
    (key : Key) :
    (table.update selected change keeps).find? key =
      (table.find? key).map fun row => if selected row then change row else row := by
  rw [find?, update, List.find?_map]
  congr 1
  apply congrFun (congrArg List.find? _)
  funext row
  by_cases chosen : selected row = true
  · simp [chosen, keeps row chosen]
  · simp [chosen]

/-- After a delete, a row is found if it was not selected. -/
theorem find?_delete (key : Key) :
    (table.delete selected).find? key = (table.find? key).filter fun row => !selected row := by
  cases found : table.find? key with
  | none =>
      rw [Option.filter_none]
      unfold find? at found ⊢
      rw [List.find?_eq_none] at found ⊢
      intro row member
      exact found row (List.mem_of_mem_filter member)
  | some row =>
      obtain ⟨member, rfl⟩ := find?_some found
      by_cases chosen : selected row = true
      · rw [Option.filter_some, if_neg (by simp [chosen])]
        unfold find?
        rw [List.find?_eq_none]
        intro other otherMember sameKey
        obtain ⟨otherIn, spared⟩ := List.mem_filter.mp otherMember
        rw [List.inj_on_of_nodup_map table.distinct otherIn member (of_decide_eq_true sameKey),
          chosen] at spared
        cases spared
      · rw [Option.filter_some, if_pos (by simp [chosen]), ← mem_rows_iff]
        exact List.mem_filter.mpr ⟨member, by simp [chosen]⟩

/-- After an upsert, the row is found under its key and nothing else changes. -/
theorem find?_upsert (key : Key) :
    (table.upsert row).find? key = if key = keyOf row then some row else table.find? key := by
  unfold upsert
  split
  · rw [find?_insert]
  next taken =>
    rw [find?_update]
    cases found : table.find? key with
    | none =>
        by_cases same : key = keyOf row
        · subst same
          exact absurd found taken
        · simp [same]
    | some other =>
        obtain ⟨-, rfl⟩ := find?_some found
        by_cases same : keyOf other = keyOf row
        · simp [same]
        · simp [same]

omit [DecidableEq Key] in
/-- Tables are equal when their rows are. -/
@[ext] theorem ext {first second : Table keyOf} (sameRows : first.rows = second.rows) :
    first = second := by
  cases first
  cases second
  cases sameRows
  rfl

private theorem rows_upsert (table : Table keyOf) (row : Row) :
    (table.upsert row).rows =
      if table.find? (keyOf row) = none then table.rows ++ [row]
      else table.rows.map fun other => if keyOf other = keyOf row then row else other := by
  unfold upsert
  split
  · rfl
  · simp [update]

/-- A new row comes last among the selected ones. -/
theorem select_upsert_new (isFree : table.find? (keyOf row) = none) (selected : Row → Bool) :
    (table.upsert row).select selected =
      table.select selected ++ if selected row then [row] else [] := by
  unfold select
  rw [rows_upsert, if_pos isFree, List.filter_append]
  congr 1
  by_cases chosen : selected row = true
  · rw [if_pos chosen, List.filter_cons_of_pos chosen, List.filter_nil]
  · rw [if_neg chosen, List.filter_cons_of_neg chosen, List.filter_nil]

/-- An upsert and a change of its row come to the upsert of the changed row. -/
theorem update_upsert {keeps : ∀ other, decide (keyOf other = keyOf row) = true →
      keyOf (change other) = keyOf other} :
    (table.upsert row).update (fun other => keyOf other = keyOf row) change keeps =
      table.upsert (change row) := by
  have sameKey : keyOf (change row) = keyOf row := keeps row (decide_eq_true rfl)
  ext1
  change (table.upsert row).rows.map _ = _
  rw [rows_upsert, rows_upsert, sameKey]
  split
  next isFree =>
    rw [List.map_append, List.map_singleton, if_pos (decide_eq_true rfl)]
    congr 1
    refine (List.map_congr_left fun other member => ?_).trans (List.map_id _)
    rw [if_neg, id]
    intro isKey
    apply key_notMem_of_find?_none isFree
    rw [← of_decide_eq_true isKey]
    exact List.mem_map_of_mem member
  next =>
    rw [List.map_map]
    apply List.map_congr_left
    intro other _
    by_cases isKey : keyOf other = keyOf row
    · simp [isKey]
    · simp [isKey]

/-- The rows of a key are the row found under it. -/
theorem filter_key (table : Table keyOf) (key : Key) :
    table.rows.filter (fun row => keyOf row = key) = (table.find? key).toList := by
  obtain ⟨rows, distinct⟩ := table
  unfold find?
  dsimp only
  induction rows with
  | nil => rfl
  | cons row rest ih =>
      rw [List.map_cons, List.nodup_cons] at distinct
      by_cases same : keyOf row = key
      · have others : rest.filter (fun other => keyOf other = key) = [] := by
          rw [List.filter_eq_nil_iff]
          intro other member otherKey
          apply distinct.1
          rw [same, ← of_decide_eq_true otherKey]
          exact List.mem_map_of_mem member
        simp [same, others]
      · simpa [same] using ih distinct.2

/-- The total weight of the rows. -/
def sumOver (table : Table keyOf) (weight : Row → Nat) : Nat :=
  (table.rows.map weight).sum

omit [DecidableEq Key] in
@[simp] theorem sumOver_empty (weight : Row → Nat) :
    (empty : Table keyOf).sumOver weight = 0 := rfl

/-- The weight of the row of a key, nothing when the key is free. -/
def weightAt (table : Table keyOf) (weight : Row → Nat) (key : Key) : Nat :=
  ((table.find? key).map weight).getD 0

/-- The row of a key and the other rows make up the total. -/
theorem sumOver_eq_weightAt_add (table : Table keyOf) (weight : Row → Nat) (key : Key) :
    table.sumOver weight =
      table.weightAt weight key + (table.delete fun row => keyOf row = key).sumOver weight := by
  have splits := (List.filter_append_perm (fun row => keyOf row = key) table.rows).map weight
  have total := splits.sum_eq
  rw [List.map_append, List.sum_append, filter_key] at total
  unfold sumOver weightAt
  rw [← total]
  congr 1
  cases table.find? key <;> simp

/-- Tables that read the same have the same totals. -/
theorem sumOver_congr (same : ∀ key, first.find? key = second.find? key) (weight : Row → Nat) :
    first.sumOver weight = second.sumOver weight := by
  have nodupRows : ∀ table : Table keyOf, table.rows.Nodup :=
    fun table => table.distinct.of_map
  have perm : first.rows.Perm second.rows := by
    rw [List.perm_ext_iff_of_nodup (nodupRows first) (nodupRows second)]
    intro row
    rw [mem_rows_iff, mem_rows_iff, same]
  exact (perm.map weight).sum_eq

/-- After an upsert the total is that of the new row and of the rows of other keys. -/
theorem sumOver_upsert (table : Table keyOf) (weight : Row → Nat) (row : Row) :
    (table.upsert row).sumOver weight =
      weight row + (table.delete fun other => keyOf other = keyOf row).sumOver weight := by
  have others : ((table.upsert row).delete fun other => keyOf other = keyOf row).sumOver weight =
      (table.delete fun other => keyOf other = keyOf row).sumOver weight := by
    apply sumOver_congr
    intro key
    rw [find?_delete, find?_delete, find?_upsert]
    by_cases same : key = keyOf row
    · subst same
      cases found : table.find? (keyOf row) with
      | none => simp
      | some other =>
          have otherKey := (find?_some found).2
          rw [if_pos rfl, Option.filter_some, Option.filter_some]
          simp [otherKey]
    · rw [if_neg same]
  have newWeight : (table.upsert row).weightAt weight (keyOf row) = weight row := by
    rw [weightAt, find?_upsert, if_pos rfl]
    rfl
  rw [sumOver_eq_weightAt_add _ _ (keyOf row), others, newWeight]

omit [DecidableEq Key] in
/-- A total is zero when no row has weight. -/
theorem sumOver_eq_zero : table.sumOver weight = 0 ↔ ∀ row ∈ table.rows, weight row = 0 := by
  rw [sumOver, List.sum_eq_zero_iff_forall_eq_nat]
  simp

omit [DecidableEq Key] in
/-- Deleting rows without weight keeps the total. -/
theorem sumOver_delete (weightless : ∀ row, selected row = true → weight row = 0) :
    (table.delete selected).sumOver weight = table.sumOver weight := by
  unfold sumOver delete
  dsimp only
  induction table.rows with
  | nil => rfl
  | cons row rest ih =>
      by_cases chosen : selected row = true
      · simp [chosen, weightless row chosen, ih]
      · simp [chosen, ih]

/-- Without its own row a key has no weight, and the others keep theirs. -/
theorem weightAt_delete_key (table : Table keyOf) (weight : Row → Nat) (key other : Key) :
    (table.delete fun row => keyOf row = key).weightAt weight other =
      if other = key then 0 else table.weightAt weight other := by
  unfold weightAt
  rw [find?_delete]
  cases found : table.find? other with
  | none => simp
  | some row =>
      have isKey := (find?_some found).2
      rw [Option.filter_some, isKey]
      by_cases same : other = key
      · simp [same]
      · simp [same]

/-- A row more when the key was free. -/
theorem length_upsert (table : Table keyOf) (row : Row) :
    (table.upsert row).rows.length =
      if table.find? (keyOf row) = none then table.rows.length + 1 else table.rows.length := by
  rw [rows_upsert]
  split
  · rw [List.length_append, List.length_singleton]
  · rw [List.length_map]

/-- A row less without the row of a key. -/
theorem length_delete_key (found : table.find? key = some row) :
    (table.delete fun other => keyOf other = key).rows.length + 1 = table.rows.length := by
  have splits := (List.filter_append_perm (fun other => keyOf other = key) table.rows).length_eq
  rw [List.length_append, filter_key, found, Option.toList_some, List.length_singleton,
    Nat.add_comm] at splits
  exact splits

/-- Keys that weigh no more make up no larger total. -/
theorem sumOver_le (lighter : ∀ key, first.weightAt weight key ≤ second.weightAt weight key) :
    first.sumOver weight ≤ second.sumOver weight := by
  induction size : first.rows.length generalizing first second with
  | zero =>
      have isEmpty : first.rows = [] := List.eq_nil_of_length_eq_zero size
      simp [sumOver, isEmpty]
  | succ count ih =>
      obtain ⟨row, member⟩ := List.exists_mem_of_length_pos (by omega : 0 < first.rows.length)
      rw [sumOver_eq_weightAt_add first weight (keyOf row),
        sumOver_eq_weightAt_add second weight (keyOf row)]
      refine Nat.add_le_add (lighter _) (ih ?_ ?_)
      · intro key
        rw [weightAt_delete_key, weightAt_delete_key]
        split
        · exact Nat.le_refl 0
        · exact lighter key
      · have fewer := length_delete_key (mem_rows_iff.mp member)
        omega

/-- An upsert adds at most the weight of its row. -/
theorem sumOver_upsert_le (table : Table keyOf) (weight : Row → Nat) (row : Row) :
    (table.upsert row).sumOver weight ≤ weight row + table.sumOver weight := by
  rw [sumOver_upsert, sumOver_eq_weightAt_add table weight (keyOf row)]
  exact Nat.add_le_add_left (Nat.le_add_left _ _) _

/-- A row that replaces one of the same weight leaves the total. -/
theorem sumOver_upsert_same {row changed : Row} (found : table.find? (keyOf changed) = some row)
    (same : weight changed = weight row) :
    (table.upsert changed).sumOver weight = table.sumOver weight := by
  rw [sumOver_upsert, sumOver_eq_weightAt_add table weight (keyOf changed), weightAt, found, same]
  rfl

end Table

end Triangle.Std
