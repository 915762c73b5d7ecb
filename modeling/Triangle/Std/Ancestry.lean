import Mathlib.Algebra.Ring.Int.Defs
import Mathlib.Algebra.Ring.Nat
import Mathlib.Order.Basic

/-!
# Depth along chains of answers

Records live under ids, come and go, and may answer a record by its id. Each has
a depth, and the depths rise when every record lies deeper than the stored record
that it answers. Removing records keeps that. A record that comes keeps it when it
lies deeper than the record it answers, and when nobody answers its id yet: an id
that was used before may be answered by records that lie less deep (`Rising.add`).

A memory of depths agrees with the records where it knows one of them.
-/

namespace Triangle.Std

/-- The depth of a record, and the id that it answers. -/
structure AncestryNode (Id : Type) where
  depth : Int
  parent : Option Id

section

variable {Id : Type}

/-- Every record lies deeper than the stored record that it answers. -/
def Rising (nodes : Id → Option (AncestryNode Id)) : Prop :=
  ∀ id node parent above, nodes id = some node → node.parent = some parent →
    nodes parent = some above → above.depth + 1 ≤ node.depth

/-- A stored record answers the id. -/
def Answered (nodes : Id → Option (AncestryNode Id)) (id : Id) : Prop :=
  ∃ other node, nodes other = some node ∧ node.parent = some id

/-- The remembered depth of a stored record is its depth. -/
def MemoryAgrees (memory : Id → Option Int) (nodes : Id → Option (AncestryNode Id)) : Prop :=
  ∀ id depth node, memory id = some depth → nodes id = some node → depth = node.depth

variable {before after : Id → Option (AncestryNode Id)} {memory remembered : Id → Option Int}

/-- Fewer records still rise. -/
theorem Rising.of_subset (rising : Rising before)
    (isSubset : ∀ id node, after id = some node → before id = some node) : Rising after := by
  intro id node parent above isNode isParent isAbove
  exact rising id node parent above (isSubset id node isNode) isParent
    (isSubset parent above isAbove)

/-- A record may come under an id that nobody answers. -/
theorem Rising.add {id : Id} {node : AncestryNode Id} (rising : Rising before)
    (unanswered : ¬ Answered before id) (apart : node.parent ≠ some id)
    (deeper : ∀ parent above, node.parent = some parent → before parent = some above →
      above.depth + 1 ≤ node.depth)
    (grown : ∀ other row, after other = some row →
      before other = some row ∨ other = id ∧ row = node) : Rising after := by
  intro other row parent above isRow isParent isAbove
  rcases grown other row isRow with wasRow | ⟨-, rfl⟩
  · rcases grown parent above isAbove with wasAbove | ⟨rfl, -⟩
    · exact rising other row parent above wasRow isParent wasAbove
    · exact absurd ⟨other, row, wasRow, isParent⟩ unanswered
  · rcases grown parent above isAbove with wasAbove | ⟨rfl, -⟩
    · exact deeper parent above isParent wasAbove
    · exact absurd isParent apart

/-- A memory that only learned from the records agrees with those that are left. -/
theorem MemoryAgrees.of_learned (agrees : MemoryAgrees memory before)
    (learned : ∀ id depth, remembered id = some depth →
      memory id = some depth ∨ ∃ node, before id = some node ∧ depth = node.depth)
    (isSubset : ∀ id node, after id = some node → before id = some node) :
    MemoryAgrees remembered after := by
  intro id depth node isHeld isNode
  have wasNode := isSubset id node isNode
  rcases learned id depth isHeld with wasHeld | ⟨other, isOther, isDepth⟩
  · exact agrees id depth node wasHeld wasNode
  · rw [wasNode] at isOther
    cases isOther
    exact isDepth

/-- A record may come that the memory does not know, or knows by its new depth. -/
theorem MemoryAgrees.add {id : Id} {node : AncestryNode Id} (agrees : MemoryAgrees memory before)
    (known : ∀ depth, memory id = some depth → depth = node.depth)
    (grown : ∀ other row, after other = some row →
      before other = some row ∨ other = id ∧ row = node) : MemoryAgrees memory after := by
  intro other depth row isHeld isRow
  rcases grown other row isRow with wasRow | ⟨rfl, rfl⟩
  · exact agrees other depth row isHeld wasRow
  · exact known depth isHeld

end

end Triangle.Std
