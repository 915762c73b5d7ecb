import Triangle.Std.Table

/-!
# Bounded maps that forget the least recently used

An `Lru` keeps its entries in the order of their last use, the oldest first. A
read moves its entry to the end, a write puts its entry there and drops entries
from the front while there are too many.

What an `Lru` holds changes by a write alone. A write only adds its own entry
(`held_set`) and only forgets once the map is full (`held_or_full_set`).
-/

namespace Triangle.Std

/-- The entries of a map. -/
abbrev EntryTable (Key Value : Type) :=
  Table (Prod.fst : Key × Value → Key)

variable {Key Value : Type} [DecidableEq Key] {entries : EntryTable Key Value} {key : Key}
  {found : Value}

namespace EntryTable

/-- The value under a key. -/
def held (entries : EntryTable Key Value) (key : Key) : Option Value :=
  (entries.find? key).map Prod.snd

/-- Put an entry last, in the place of any of its key. -/
def renew (entries : EntryTable Key Value) (entry : Key × Value) : EntryTable Key Value :=
  (entries.delete fun other => other.1 = entry.1).upsert entry

/-- Drop entries from the front while there are more than `maxEntries`. -/
def keepLast (entries : EntryTable Key Value) (maxEntries : Nat) : EntryTable Key Value where
  rows := entries.rows.drop (entries.rows.length - maxEntries)
  distinct := entries.distinct.sublist ((List.drop_sublist _ _).map Prod.fst)

/-- Its key holds the renewed entry, and every other key what it held. -/
theorem held_renew (entry : Key × Value) :
    held (renew entries entry) key = if key = entry.1 then some entry.2 else held entries key := by
  unfold held renew
  rw [Table.find?_upsert, Table.find?_delete]
  by_cases same : key = entry.1
  · rw [if_pos same, if_pos same]
    rfl
  · rw [if_neg same, if_neg same]
    cases isHeld : entries.find? key with
    | none => rfl
    | some row =>
        have rowKey := (Table.find?_some isHeld).2
        rw [Option.filter_some, if_pos]
        rw [rowKey, decide_eq_false same]
        rfl

/-- What is left after dropping was held. -/
theorem held_keepLast {maxEntries : Nat}
    (isHeld : held (keepLast entries maxEntries) key = some found) :
    held entries key = some found := by
  obtain ⟨row, rowFound, rowValue⟩ := Option.map_eq_some_iff.mp isHeld
  obtain ⟨isLeft, rowKey⟩ := Table.find?_some rowFound
  have wasRow : row ∈ entries.rows := List.mem_of_mem_drop isLeft
  rw [held, ← rowKey, Table.mem_rows_iff.mp wasRow, Option.map_some, rowValue]

omit [DecidableEq Key] in
theorem length_keepLast (entries : EntryTable Key Value) (maxEntries : Nat) :
    (keepLast entries maxEntries).rows.length = min entries.rows.length maxEntries := by
  change (entries.rows.drop _).length = _
  rw [List.length_drop]
  omega

omit [DecidableEq Key] in
/-- Nothing is dropped within the bound. -/
theorem keepLast_of_le {maxEntries : Nat} (fits : entries.rows.length ≤ maxEntries) :
    keepLast entries maxEntries = entries := by
  ext1
  change entries.rows.drop _ = _
  rw [Nat.sub_eq_zero_of_le fits, List.drop_zero]

/-- Renewing an entry of a key that is there keeps the number of entries. -/
theorem length_renew {entry : Key × Value} (isEntry : entries.find? key = some entry) :
    (renew entries entry).rows.length = entries.rows.length := by
  have entryKey := (Table.find?_some isEntry).2
  have isGone : (entries.delete fun other => other.1 = entry.1).find? entry.1 = none := by
    rw [Table.find?_delete, entryKey, isEntry, Option.filter_some, if_neg]
    simp [entryKey]
  rw [renew, Table.length_upsert, if_pos isGone]
  exact Table.length_delete_key (by rw [entryKey]; exact isEntry)

/-- Renewing an entry loses none. -/
theorem length_le_renew (entry : Key × Value) :
    entries.rows.length ≤ (renew entries entry).rows.length := by
  cases isEntry : entries.find? entry.1 with
  | some other =>
      have isGone : (entries.delete fun row => row.1 = entry.1).find? entry.1 = none := by
        rw [Table.find?_delete, isEntry, Option.filter_some, if_neg]
        simp [(Table.find?_some isEntry).2]
      rw [renew, Table.length_upsert, if_pos isGone]
      exact Nat.le_of_eq (Table.length_delete_key isEntry).symm
  | none =>
      have nothingGone : (entries.delete fun row => row.1 = entry.1).rows = entries.rows := by
        refine List.filter_eq_self.mpr fun row member => ?_
        unfold Table.find? at isEntry
        have differs := List.find?_eq_none.mp isEntry row member
        simpa using differs
      rw [renew, Table.length_upsert, nothingGone]
      split
      · exact Nat.le_succ _
      · exact Nat.le_refl _

end EntryTable

/-- A map of at most `maxEntries` entries, the least recently used first. -/
structure Lru (Key Value : Type) (maxEntries : Nat) where
  entries : EntryTable Key Value
  bounded : entries.rows.length ≤ maxEntries

namespace Lru

variable {maxEntries : Nat} {lru : Lru Key Value maxEntries} {other : Key} {value : Value}

/-- The map without entries. -/
def empty : Lru Key Value maxEntries where
  entries := .empty
  bounded := Nat.zero_le maxEntries

/-- The value under a key. -/
def held (lru : Lru Key Value maxEntries) (key : Key) : Option Value :=
  EntryTable.held lru.entries key

/-- Read an entry and make it the most recent. -/
def get (lru : Lru Key Value maxEntries) (key : Key) : Option Value × Lru Key Value maxEntries :=
  match isEntry : lru.entries.find? key with
  | none => (none, lru)
  | some entry =>
      (some entry.2,
        { entries := EntryTable.renew lru.entries entry
          bounded := by
            rw [EntryTable.length_renew isEntry]
            exact lru.bounded })

/-- Write an entry, and forget the least recent ones beyond the bound. -/
def set (lru : Lru Key Value maxEntries) (key : Key) (value : Value) :
    Lru Key Value maxEntries where
  entries := EntryTable.keepLast (EntryTable.renew lru.entries (key, value)) maxEntries
  bounded := by
    rw [EntryTable.length_keepLast]
    exact Nat.min_le_right _ _

/-- There is no room for a new entry. -/
def isFull (lru : Lru Key Value maxEntries) : Prop :=
  lru.entries.rows.length = maxEntries

/-- A write adds its own entry at most. -/
theorem held_set (isHeld : (lru.set key value).held other = some found) :
    other = key ∧ found = value ∨ other ≠ key ∧ lru.held other = some found := by
  have renewed := EntryTable.held_keepLast isHeld
  rw [EntryTable.held_renew] at renewed
  by_cases same : other = key
  · rw [if_pos same] at renewed
    exact Or.inl ⟨same, (Option.some.inj renewed).symm⟩
  · rw [if_neg same] at renewed
    exact Or.inr ⟨same, renewed⟩

/-- What a write does not replace stays, unless the map is full after it. -/
theorem held_or_full_set (isHeld : lru.held other = some found) (differs : other ≠ key) :
    (lru.set key value).held other = some found ∨ (lru.set key value).isFull := by
  by_cases fits : (EntryTable.renew lru.entries (key, value)).rows.length ≤ maxEntries
  · refine Or.inl ?_
    change EntryTable.held (EntryTable.keepLast _ maxEntries) other = some found
    rw [EntryTable.keepLast_of_le fits, EntryTable.held_renew, if_neg differs]
    exact isHeld
  · refine Or.inr ?_
    unfold set isFull
    rw [EntryTable.length_keepLast]
    omega

/-- A full map is full after a write. -/
theorem full_set (full : lru.isFull) : (lru.set key value).isFull := by
  have loses : lru.entries.rows.length ≤ _ := EntryTable.length_le_renew (key, value)
  unfold isFull at full
  unfold set isFull
  rw [EntryTable.length_keepLast]
  omega

/-- A full map is full after a read. -/
theorem full_get (full : lru.isFull) : (lru.get key).2.isFull := by
  unfold get
  split
  next => exact full
  next entry isEntry => exact (EntryTable.length_renew isEntry).trans full

/-- A read returns what is held. -/
theorem get_fst : (lru.get key).1 = lru.held key := by
  unfold get held EntryTable.held
  split
  next missing => exact (congrArg (Option.map Prod.snd) missing).symm
  next entry isEntry => exact (congrArg (Option.map Prod.snd) isEntry).symm

/-- A read changes nothing that is held. -/
theorem held_get : (lru.get key).2.held other = lru.held other := by
  unfold get
  split
  next => rfl
  next entry isEntry =>
    have entryKey := (Table.find?_some isEntry).2
    unfold held
    rw [EntryTable.held_renew]
    by_cases same : other = entry.1
    · rw [if_pos same, EntryTable.held, same, entryKey, isEntry, Option.map_some]
    · rw [if_neg same]

end Lru

end Triangle.Std
