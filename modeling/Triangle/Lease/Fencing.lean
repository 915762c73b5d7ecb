import Mathlib.Order.Nat
import Triangle.Lease.Effects

/-!
# Fencing by generation

Everything that must reject a stale owner compares generations, so a generation
has to name one owner in one ownership state for good. `Fenced` is what a single
step guarantees. It is reflexive and transitive, so it relates any two states of
a run, and two records with one generation then have one holder.
-/

namespace Triangle.Lease

open Triangle.Std Triangle.Semantics

/-- A record is never removed, its generation never decreases, and within one
generation owner and ownership state stay as they are. -/
def Fenced (before after : ProfileStore) : Prop :=
  ∀ record, before.profile = some record →
    ∃ next, after.profile = some next ∧
      record.ownerGeneration ≤ next.ownerGeneration ∧
      (next.ownerInstanceId ≠ record.ownerInstanceId ∨
          next.ownershipState ≠ record.ownershipState →
        record.ownerGeneration < next.ownerGeneration)

theorem Fenced.of_profile_eq {before after : ProfileStore}
    (same : after.profile = before.profile) : Fenced before after := by
  intro record held
  exact ⟨record, same.trans held, le_rfl, fun changed => absurd changed (by simp)⟩

theorem Fenced.trans {first second third : ProfileStore} (earlier : Fenced first second)
    (later : Fenced second third) : Fenced first third := by
  intro record held
  obtain ⟨middle, heldMiddle, firstLe, firstChange⟩ := earlier record held
  obtain ⟨final, heldFinal, secondLe, secondChange⟩ := later middle heldMiddle
  refine ⟨final, heldFinal, firstLe.trans secondLe, fun changed => ?_⟩
  -- A change over both steps is a change over one of them.
  by_cases early : middle.ownerInstanceId ≠ record.ownerInstanceId ∨
      middle.ownershipState ≠ record.ownershipState
  · exact (firstChange early).trans_le secondLe
  · obtain ⟨sameOwner, sameState⟩ := not_or.mp early
    rw [not_not] at sameOwner sameState
    rw [← sameOwner, ← sameState] at changed
    exact firstLe.trans_lt (secondChange changed)

variable {store : ProfileStore} {operation : LeaseCall}

/-- A call with a listed effect fences the record it replaces. -/
theorem LeaseEffect.fenced {after : ProfileRecord} (effect : LeaseEffect store operation after) :
    Fenced store { store with profile := some after } := by
  intro record held
  refine ⟨after, rfl, ?_⟩
  -- Three effects keep the holder; the others move to the next generation.
  have outcome : SameHolder record after ∨ after.ownerGeneration = record.ownerGeneration + 1 := by
    cases effect with
    | first absent => rw [absent] at held; cases held
    | keep found _ _ same | freeze found _ same | recover found _ _ _ same =>
        obtain rfl := Option.mem_unique found held
        exact .inl same
    | steal found _ _ _ generation | replace found _ _ generation
    | begin found _ _ _ generation | commit found _ _ _ generation
    | rollback found _ _ generation =>
        obtain rfl := Option.mem_unique found held
        exact .inr generation
  rcases outcome with ⟨owner, generation, state⟩ | generation
  · refine ⟨generation.ge, fun changed => ?_⟩
    rcases changed with ownerChanged | stateChanged
    · exact absurd owner ownerChanged
    · exact absurd state stateChanged
  · rw [generation]
    exact ⟨Nat.le_succ _, fun _ => Nat.lt_succ_self _⟩

/-- Every step of the system fences. -/
theorem leaseStep_fenced (store : ProfileStore) (label : LeaseLabel) :
    Fenced store (leaseStep store label) := by
  rcases leaseStep_cases store label with same | ⟨_, _, _, _, after, -, -, effect, stored⟩
  · exact Fenced.of_profile_eq same
  · exact effect.fenced.trans (Fenced.of_profile_eq stored)

/-- Any earlier state of a run is fenced against any later one. -/
theorem runFrom_fenced (store : ProfileStore) (labels : List LeaseLabel) :
    Fenced store (leaseMachine.runFrom store labels) :=
  Machine.relation_runFrom _ (fun _ => Fenced.of_profile_eq rfl) Fenced.trans leaseStep_fenced
    store labels

/-- While a conversation is not idle, only a rollback changes the owner. -/
theorem LeaseEffect.owner_of_nonIdle {before after : ProfileRecord}
    (effect : LeaseEffect store operation after) (held : store.profile = some before)
    (busy : listNonIdle store ≠ []) (changed : after.ownerInstanceId ≠ before.ownerInstanceId) :
    ∃ args, operation = .rollbackTransfer args := by
  cases effect with
  | first absent => rw [absent] at held; cases held
  | keep found _ _ same | freeze found _ same | recover found _ _ _ same =>
      obtain rfl := Option.mem_unique found held
      exact absurd same.1 changed
  | steal _ _ _ idle | replace _ _ idle | begin _ _ _ idle | commit _ _ _ idle =>
      exact absurd idle busy
  | rollback => exact ⟨_, rfl⟩

/-- Fencing over every interleaving. After any run `labels`:
every further step fences the record; every later state that shows the same
generation shows the same owner in the same ownership state; and a call that
changes the owner while a conversation is not idle is a `rollbackTransfer`. -/
theorem lease_generation_fences_holder (labels : List LeaseLabel) :
    (∀ label, Fenced (leaseMachine.run labels) (leaseMachine.run (labels ++ [label]))) ∧
    (∀ later record next,
      (leaseMachine.run labels).profile = some record →
      (leaseMachine.run (labels ++ later)).profile = some next →
      next.ownerGeneration = record.ownerGeneration →
      next.ownerInstanceId = record.ownerInstanceId ∧
        next.ownershipState = record.ownershipState) ∧
    (∀ label record next,
      (leaseMachine.run labels).profile = some record →
      (leaseMachine.run (labels ++ [label])).profile = some next →
      listNonIdle (leaseMachine.run labels) ≠ [] →
      next.ownerInstanceId ≠ record.ownerInstanceId →
      ∃ manager args clock atomicWriteJson,
        label = .call manager (.rollbackTransfer args) clock atomicWriteJson) := by
  refine ⟨fun label => ?_, fun later record next held heldLater sameGeneration => ?_,
    fun label record next held heldNext busy changed => ?_⟩
  · rw [Machine.run_snoc]
    exact leaseStep_fenced _ label
  · have fenced := runFrom_fenced (leaseMachine.run labels) later
    rw [Machine.run, Machine.runFrom_append] at heldLater
    obtain ⟨final, heldFinal, -, change⟩ := fenced record held
    obtain rfl := Option.mem_unique heldFinal heldLater
    by_contra different
    have grown := change (not_and_or.mp different)
    omega
  · rw [Machine.run_snoc] at heldNext
    rcases leaseStep_cases (leaseMachine.run labels) label with
      same | ⟨manager, operation, clock, atomicWriteJson, after, isCall, -, effect, stored⟩
    · obtain rfl := Option.some.inj ((same.trans held).symm.trans heldNext)
      exact absurd rfl changed
    · obtain rfl := Option.mem_unique stored heldNext
      obtain ⟨args, rfl⟩ := effect.owner_of_nonIdle held busy changed
      exact ⟨manager, args, clock, atomicWriteJson, isCall⟩

end Triangle.Lease
