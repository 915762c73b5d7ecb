import Triangle.Lease.Manager
import Triangle.Semantics.Machine

/-!
# What one lease operation can do

`LeaseEffect` lists, per operation, what a successful call may have found and
what it wrote, as far as owner, generation, ownership state and freeze are
concerned. `LeaseCall.perform_effect` is the one place that takes the operations
apart; the fencing results only do a case analysis on `LeaseEffect`.

The shared system is `leaseMachine`: any managers call any operation with any
arguments, clock and write outcome, and the conversations of the profile change
at any time in between.
-/

namespace Triangle.Lease

open Triangle.Std Triangle.Semantics

/-- One call of a lease operation. -/
inductive LeaseCall
  | acquire (args : AcquireArgs)
  | renew (args : RenewArgs)
  | replaceExpiredIdle (args : ReplaceArgs)
  | beginTransfer (args : BeginTransferArgs)
  | commitTransfer (args : CommitTransferArgs)
  | rollbackTransfer (args : RollbackTransferArgs)
  | freezeAdmissionAfterCommit (args : FreezeArgs)
  | clearAdmissionFreezeForRecover (args : ClearFreezeArgs)

/-- Run a call by `manager`. -/
def LeaseCall.perform (atomicWriteJson : ProfileRecord → Bool) (manager : LeaseManager)
    (clock : Clock) (store : ProfileStore) : LeaseCall → Outcome ProfileRecord
  | .acquire args => Lease.acquire atomicWriteJson manager args clock store
  | .renew args => Lease.renew atomicWriteJson manager args clock store
  | .replaceExpiredIdle args => Lease.replaceExpiredIdle atomicWriteJson manager args clock store
  | .beginTransfer args => Lease.beginTransfer atomicWriteJson manager args clock store
  | .commitTransfer args => Lease.commitTransfer atomicWriteJson manager args clock store
  | .rollbackTransfer args => Lease.rollbackTransfer atomicWriteJson manager args clock store
  | .freezeAdmissionAfterCommit args =>
      Lease.freezeAdmissionAfterCommit atomicWriteJson args store
  | .clearAdmissionFreezeForRecover args =>
      Lease.clearAdmissionFreezeForRecover atomicWriteJson manager args clock store

/-- A step of the system: a call, or new conversation records. -/
inductive LeaseLabel
  | call (manager : LeaseManager) (operation : LeaseCall) (clock : Clock)
      (atomicWriteJson : ProfileRecord → Bool)
  | conversations (records : List Conversation)

/-- A successful call replaces the record; one that throws leaves it. -/
def leaseStep (store : ProfileStore) : LeaseLabel → ProfileStore
  | .call manager operation clock atomicWriteJson =>
      match operation.perform atomicWriteJson manager clock store with
      | .ok record => { store with profile := some record }
      | .error _ => store
  | .conversations records => { store with conversations := records }

/-- Lease managers sharing one profile store, which starts empty. -/
def leaseMachine : Machine ProfileStore LeaseLabel where
  initial := { profile := none, conversations := [] }
  step := leaseStep

/-- Owner, generation and ownership state are the same in two records. -/
def SameHolder (before after : ProfileRecord) : Prop :=
  after.ownerInstanceId = before.ownerInstanceId ∧
    after.ownerGeneration = before.ownerGeneration ∧
    after.ownershipState = before.ownershipState

/-- What a successful call may do to the fenced fields of the record. -/
inductive LeaseEffect (store : ProfileStore) : LeaseCall → ProfileRecord → Prop
  | first {args after} (absent : store.profile = none) (generation : after.ownerGeneration = 1)
      (owned : after.ownershipState = .owned) (unfrozen : after.admissionFrozen = false) :
      LeaseEffect store (.acquire args) after
  | keep {call before after} (held : store.profile = some before)
      (owned : before.ownershipState = .owned) (unfrozen : before.admissionFrozen = false)
      (same : SameHolder before after) (stillUnfrozen : after.admissionFrozen = false)
      (admits : (∃ args, call = .acquire args) ∨ ∃ args, call = .renew args) :
      LeaseEffect store call after
  | steal {args before after} (held : store.profile = some before)
      (owned : before.ownershipState = .owned) (unfrozen : before.admissionFrozen = false)
      (idle : listNonIdle store = [])
      (generation : after.ownerGeneration = before.ownerGeneration + 1)
      (nowOwned : after.ownershipState = .owned) (nowUnfrozen : after.admissionFrozen = false) :
      LeaseEffect store (.acquire args) after
  | replace {args before after} (held : store.profile = some before)
      (matching : (before.ownerGeneration : Int) = args.expectedGeneration)
      (idle : listNonIdle store = [])
      (generation : after.ownerGeneration = before.ownerGeneration + 1)
      (nowOwned : after.ownershipState = .owned) (nowUnfrozen : after.admissionFrozen = false) :
      LeaseEffect store (.replaceExpiredIdle args) after
  | begin {args before after} (held : store.profile = some before)
      (owned : before.ownershipState = .owned) (unfrozen : before.admissionFrozen = false)
      (idle : listNonIdle store = [])
      (generation : after.ownerGeneration = before.ownerGeneration + 1)
      (nowTransferring : after.ownershipState = .transferring)
      (nowUnfrozen : after.admissionFrozen = false) :
      LeaseEffect store (.beginTransfer args) after
  | commit {args before after} (held : store.profile = some before)
      (transferring : before.ownershipState = .transferring)
      (matching : (before.ownerGeneration : Int) = args.expectedTransferGeneration)
      (idle : listNonIdle store = [])
      (generation : after.ownerGeneration = before.ownerGeneration + 1)
      (nowOwned : after.ownershipState = .owned) :
      LeaseEffect store (.commitTransfer args) after
  | rollback {args before after} (held : store.profile = some before)
      (transferring : before.ownershipState = .transferring)
      (matching : (before.ownerGeneration : Int) = args.expectedTransferGeneration)
      (generation : after.ownerGeneration = before.ownerGeneration + 1)
      (nowOwned : after.ownershipState = .owned) :
      LeaseEffect store (.rollbackTransfer args) after
  | freeze {args before after} (held : store.profile = some before)
      (owned : before.ownershipState = .owned) (same : SameHolder before after)
      (nowFrozen : after.admissionFrozen = true) :
      LeaseEffect store (.freezeAdmissionAfterCommit args) after
  | recover {args before after} (held : store.profile = some before)
      (owned : before.ownershipState = .owned)
      (owner : before.ownerInstanceId = args.expectedOwnerInstanceId)
      (matching : (before.ownerGeneration : Int) = args.expectedGeneration)
      (same : SameHolder before after) :
      LeaseEffect store (.clearAdmissionFreezeForRecover args) after

section

variable {atomicWriteJson : ProfileRecord → Bool} {manager : LeaseManager} {clock : Clock}
  {store : ProfileStore} {after : ProfileRecord}

/-- The record `commitFreshLease` writes on success. -/
theorem commitFreshLease_ok {profileInstanceId : String} {generation : Nat} {mode : RuntimeMode}
    {room : Option String} {now : Int}
    (written : commitFreshLease atomicWriteJson manager profileInstanceId generation mode room now
      = .ok after) :
    after.ownerGeneration = generation ∧ after.ownershipState = .owned ∧
      after.admissionFrozen = false := by
  simp only [commitFreshLease, bind_ok] at written
  obtain ⟨renewed, -, expires, -, stored⟩ := written
  have same := writeProfileUnlocked_ok stored
  subst same
  exact ⟨rfl, rfl, rfl⟩

/-- `commitRenewed` changes the lease times and nothing else. -/
theorem commitRenewed_ok {record : ProfileRecord} {now : Int}
    (written : commitRenewed atomicWriteJson manager record now = .ok after) :
    SameHolder record after ∧ after.admissionFrozen = record.admissionFrozen := by
  simp only [commitRenewed, bind_ok] at written
  obtain ⟨renewed, -, expires, -, stored⟩ := written
  have same := writeProfileUnlocked_ok stored
  subst same
  exact ⟨⟨rfl, rfl, rfl⟩, rfl⟩

/-- `requireLease` succeeds on a present record only. -/
theorem requireLease_ok {existing : Option ProfileRecord} {message : String}
    {record : ProfileRecord} (present : requireLease existing message = .ok record) :
    existing = some record := by
  cases existing with
  | none => cases present
  | some held => exact congrArg some (Except.ok.inj present)

private theorem owned_of_not_transferring {state : OwnershipState}
    (notTransferring : state ≠ .transferring) : state = .owned := by
  cases state with
  | owned => rfl
  | transferring => exact absurd rfl notTransferring

/-- `acquire` creates the first lease, renews its own, or steals an idle one. -/
theorem acquire_effect {args : AcquireArgs}
    (succeeded : acquire atomicWriteJson manager args clock store = .ok after) :
    LeaseEffect store (.acquire args) after := by
  rw [acquire, bind_ok] at succeeded
  obtain ⟨found, read, rest⟩ := succeeded
  have held := readProfile_ok read
  cases found with
  | none =>
      simp only [require_bind_ok] at rest
      obtain ⟨generation, owned, unfrozen⟩ := commitFreshLease_ok rest.2
      exact .first held generation owned unfrozen
  | some existing =>
      simp only [bind_ok (assertClockSane _ _ _), require_bind_ok] at rest
      obtain ⟨-, -, notTransferring, unfrozen, rest⟩ := rest
      have owned := owned_of_not_transferring notTransferring
      split at rest
      · simp only [require_bind_ok] at rest
        obtain ⟨same, frozen⟩ := commitRenewed_ok rest.2
        exact .keep held owned unfrozen same (frozen.trans unfrozen) (.inl ⟨args, rfl⟩)
      · simp only [require_bind_ok, bind_ok (readProfile _ _)] at rest
        obtain ⟨idle, -, -, latest, -, -, -, -, -, written⟩ := rest
        obtain ⟨generation, nowOwned, nowUnfrozen⟩ := commitFreshLease_ok written
        exact .steal held owned unfrozen idle generation nowOwned nowUnfrozen

/-- `renew` extends an owned, unfrozen lease. -/
theorem renew_effect {args : RenewArgs}
    (succeeded : renew atomicWriteJson manager args clock store = .ok after) :
    LeaseEffect store (.renew args) after := by
  simp only [renew, bind_ok (readProfile _ _), bind_ok (requireLease _ _),
    bind_ok (assertClockSane _ _ _), require_bind_ok] at succeeded
  obtain ⟨found, read, existing, present, -, -, notTransferring, unfrozen, -, written⟩ := succeeded
  have held := (readProfile_ok read).trans (requireLease_ok present)
  obtain ⟨same, frozen⟩ := commitRenewed_ok written
  exact .keep held (owned_of_not_transferring notTransferring) unfrozen same
    (frozen.trans unfrozen) (.inr ⟨args, rfl⟩)

/-- `replaceExpiredIdle` takes over an expired idle lease in any ownership state. -/
theorem replaceExpiredIdle_effect {args : ReplaceArgs}
    (succeeded : replaceExpiredIdle atomicWriteJson manager args clock store = .ok after) :
    LeaseEffect store (.replaceExpiredIdle args) after := by
  simp only [replaceExpiredIdle, requirePositive, bind_ok (readProfile _ _),
    bind_ok (requireLease _ _), bind_ok (assertClockSane _ _ _),
    require_bind_ok] at succeeded
  obtain ⟨-, found, read, existing, present, -, -, matching, -, idle, written⟩ := succeeded
  have held := (readProfile_ok read).trans (requireLease_ok present)
  obtain ⟨generation, nowOwned, nowUnfrozen⟩ := commitFreshLease_ok written
  exact .replace held matching idle generation nowOwned nowUnfrozen

/-- `beginTransfer` opens a transfer generation on an owned, unfrozen, idle lease. -/
theorem beginTransfer_effect {args : BeginTransferArgs}
    (succeeded : beginTransfer atomicWriteJson manager args clock store = .ok after) :
    LeaseEffect store (.beginTransfer args) after := by
  simp only [beginTransfer, requirePositive, bind_ok (readProfile _ _),
    bind_ok (requireLease _ _), bind_ok (assertClockSane _ _ _),
    require_bind_ok] at succeeded
  obtain ⟨-, -, found, read, existing, present, -, -, -, owned, unfrozen, idle, -, written⟩ :=
    succeeded
  have held := (readProfile_ok read).trans (requireLease_ok present)
  obtain ⟨⟨-, generation, state⟩, frozen⟩ := commitRenewed_ok written
  exact .begin held owned unfrozen idle generation state frozen

/-- `commitTransfer` closes the matching transfer generation. -/
theorem commitTransfer_effect {args : CommitTransferArgs}
    (succeeded : commitTransfer atomicWriteJson manager args clock store = .ok after) :
    LeaseEffect store (.commitTransfer args) after := by
  simp only [commitTransfer, requirePositive, bind_ok (readProfile _ _),
    bind_ok (requireLease _ _), require_bind_ok] at succeeded
  obtain ⟨-, -, found, read, existing, present, transferring, matching, idle, written⟩ := succeeded
  have held := (readProfile_ok read).trans (requireLease_ok present)
  obtain ⟨⟨-, generation, state⟩, -⟩ := commitRenewed_ok written
  exact .commit held transferring matching idle generation state

/-- `rollbackTransfer` closes the matching transfer generation, idle or not. -/
theorem rollbackTransfer_effect {args : RollbackTransferArgs}
    (succeeded : rollbackTransfer atomicWriteJson manager args clock store = .ok after) :
    LeaseEffect store (.rollbackTransfer args) after := by
  simp only [rollbackTransfer, requirePositive, bind_ok (readProfile _ _),
    bind_ok (requireLease _ _), require_bind_ok] at succeeded
  obtain ⟨-, found, read, existing, present, transferring, matching, rest⟩ := succeeded
  have held := (readProfile_ok read).trans (requireLease_ok present)
  split at rest
  · simp only [require_bind_ok] at rest
    obtain ⟨⟨-, generation, state⟩, -⟩ := commitRenewed_ok rest.2
    exact .rollback held transferring matching generation state
  · cases rest
  · cases rest

/-- `freezeAdmissionAfterCommit` freezes an owned lease in place. -/
theorem freezeAdmissionAfterCommit_effect {args : FreezeArgs}
    (succeeded : freezeAdmissionAfterCommit atomicWriteJson args store = .ok after) :
    LeaseEffect store (.freezeAdmissionAfterCommit args) after := by
  simp only [freezeAdmissionAfterCommit, bind_ok (readProfile _ _),
    bind_ok (requireLease _ _), require_bind_ok] at succeeded
  obtain ⟨found, read, existing, present, -, owned, written⟩ := succeeded
  have held := (readProfile_ok read).trans (requireLease_ok present)
  have same := writeProfileUnlocked_ok written
  subst same
  exact .freeze held owned ⟨rfl, rfl, rfl⟩ rfl

/-- `clearAdmissionFreezeForRecover` unfreezes the lease of the named owner and
generation in place. -/
theorem clearAdmissionFreezeForRecover_effect {args : ClearFreezeArgs}
    (succeeded : clearAdmissionFreezeForRecover atomicWriteJson manager args clock store
      = .ok after) :
    LeaseEffect store (.clearAdmissionFreezeForRecover args) after := by
  simp only [clearAdmissionFreezeForRecover, requirePositive, bind_ok (readProfile _ _),
    bind_ok (requireLease _ _), require_bind_ok] at succeeded
  obtain ⟨-, -, found, read, existing, present, -, owned, -, owner, matching, written⟩ := succeeded
  have held := (readProfile_ok read).trans (requireLease_ok present)
  obtain ⟨same, -⟩ := commitRenewed_ok written
  exact .recover held owned owner matching same

/-- Every successful call has one of the listed effects. -/
theorem LeaseCall.perform_effect {operation : LeaseCall}
    (succeeded : operation.perform atomicWriteJson manager clock store = .ok after) :
    LeaseEffect store operation after := by
  cases operation with
  | acquire args => exact acquire_effect succeeded
  | renew args => exact renew_effect succeeded
  | replaceExpiredIdle args => exact replaceExpiredIdle_effect succeeded
  | beginTransfer args => exact beginTransfer_effect succeeded
  | commitTransfer args => exact commitTransfer_effect succeeded
  | rollbackTransfer args => exact rollbackTransfer_effect succeeded
  | freezeAdmissionAfterCommit args => exact freezeAdmissionAfterCommit_effect succeeded
  | clearAdmissionFreezeForRecover args =>
      exact clearAdmissionFreezeForRecover_effect succeeded

end

/-- A step either keeps the record or is a call with a listed effect. -/
theorem leaseStep_cases (store : ProfileStore) (label : LeaseLabel) :
    (leaseStep store label).profile = store.profile ∨
      ∃ manager operation clock atomicWriteJson after,
        label = .call manager operation clock atomicWriteJson ∧
        operation.perform atomicWriteJson manager clock store = .ok after ∧
        LeaseEffect store operation after ∧ (leaseStep store label).profile = some after := by
  cases label with
  | conversations records => exact .inl rfl
  | call manager operation clock atomicWriteJson =>
      cases result : operation.perform atomicWriteJson manager clock store with
      | error problem => exact .inl (by simp [leaseStep, result])
      | ok after =>
          refine .inr ⟨manager, operation, clock, atomicWriteJson, after, rfl, result,
            LeaseCall.perform_effect result, ?_⟩
          simp [leaseStep, result]

end Triangle.Lease
