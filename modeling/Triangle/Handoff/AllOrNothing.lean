import Triangle.Handoff.Host
import Triangle.Lease.Fencing

/-!
# A handoff is all or nothing, and where it is not

Each phase of an operation is a predicate on the world that other parties keep:
either the record is still what the operation wrote last, or another party has
taken it over, and then the operation can change nothing any more because its
expected generation is gone. The calls that have no cleanup behind them are
`unguarded`; when none of them fails while the record is the operation's own,
every end of the operation is one of the two allowed ones.
-/

namespace Triangle.Handoff

open Triangle.Std Triangle.Lease Triangle.Semantics

/-! ## The condition -/

/-- The calls after which a failure leaves the record as it is: a rollback or a
freeze inside a failure path, the reopening of admission in `recoverDesktop`, and
every read and lease operation of `rollbackHeadless`. -/
def Operation.unguarded : Operation → Call → Bool
  | .handoffToDesktop _ _, .lease (.rollbackTransfer _) => true
  | .handoffToDesktop _ _, .lease (.freezeAdmissionAfterCommit _) => true
  | .handoffToHeadless _ _ _, .lease (.rollbackTransfer _) => true
  | .recoverDesktop _ _, .resumeAdmission => true
  | .rollbackHeadless _ _ _, .readProfile => true
  | .rollbackHeadless _ _ _, .lease _ => true
  | _, _ => false

/-- The call did not throw. -/
def succeeds : (request : Call) → Answer request → Bool
  | .readProfile, answer => answer.isOk
  | .lease _, answer => answer.isOk
  | .resumeAdmission, answer => answer.isOk
  | _, _ => true

/-- The stored record is the one that a copy was taken of. -/
def CopiesStored (store : ProfileStore) : Call → Prop
  | .writeProfile record => store.profile = some { record with admissionFrozen := true }
  | _ => True

instance (store : ProfileStore) (request : Call) : Decidable (CopiesStored store request) := by
  cases request <;> unfold CopiesStored <;> infer_instance

section

variable (controller : Controller) (manager : LeaseManager) (operation : Operation)

/-- No unguarded call fails while the record is the operation's own, and the
unfreezing copy of `rollbackHeadless` goes over the record it was taken of. -/
def Spared (world : World) (request : Call) (turn : Turn) : Prop :=
  (operation.unguarded request = true → ¬ world.Untouched →
    succeeds request (performNow controller manager world turn request).2 = true) ∧
  CopiesStored world.store request

instance (world : World) (request : Call) (turn : Turn) :
    Decidable (Spared controller manager operation world request turn) :=
  inferInstanceAs (Decidable (_ ∧ _))

/-- The runs whose steps all meet the condition. -/
abbrev sparedTurns : Program.Environment World Call Answer :=
  turnsWith controller manager (Spared controller manager operation)

end

/-! ## Predicates that others keep -/

variable {world : World} {store before : ProfileStore} {record : ProfileRecord}

theorem World.others_induction {holds : World → Prop}
    (step : ∀ world label, holds world → holds (world.otherStep label)) (labels : List LeaseLabel)
    (start : holds world) : holds (world.others labels) := by
  induction labels generalizing world with
  | nil => exact start
  | cons label rest ih => exact ih (step world label start)

/-- Kept by every step of another party, and about the record alone. -/
structure Steady (holds : World → Prop) : Prop where
  other : ∀ world label, holds world → holds (world.otherStep label)
  paused : ∀ world paused, holds world → holds { world with admissionPaused := paused }

theorem Steady.and {first second : World → Prop} (left : Steady first) (right : Steady second) :
    Steady fun world => first world ∧ second world where
  other world label holds := ⟨left.other world label holds.1, right.other world label holds.2⟩
  paused world paused holds := ⟨left.paused world paused holds.1, right.paused world paused holds.2⟩

/-- A step of another party keeps record and base, or both are what it wrote. -/
theorem World.otherStep_cases (world : World) (label : LeaseLabel) :
    ((world.otherStep label).store.profile = world.store.profile ∧
        (world.otherStep label).base = world.base) ∨
      ((world.otherStep label).base = (world.otherStep label).store.profile ∧
        (leaseStep world.store label).profile ≠ world.store.profile) := by
  by_cases same : (leaseStep world.store label).profile = world.store.profile
  · exact .inl ⟨same, if_pos same⟩
  · exact .inr ⟨if_neg same, same⟩

/-- The record has the standing that the operation gave it, unless others changed it. -/
def StandsAs (given : Standing) (world : World) : Prop :=
  world.Untouched ∨ world.store.profile.map standing = some given

/-- A generation was committed with a standing; others may have renewed or
frozen it since, or have gone on to a later generation. -/
def Committed (generation : Nat) (given : Standing) (world : World) : Prop :=
  ∃ now, world.store.profile = some now ∧
    ((now.ownerGeneration = generation ∧ now.ownerInstanceId = given.ownerInstanceId ∧
        now.runtimeMode = given.runtimeMode ∧
        (standing now = given ∨ world.base = some now)) ∨
      (world.base = some now ∧ generation < now.ownerGeneration))

theorem Grows.refl (record : Option ProfileRecord) : Grows record record :=
  fun held member => ⟨held, member, le_rfl⟩

theorem Grows.trans {first second third : Option ProfileRecord} (earlier : Grows first second)
    (later : Grows second third) : Grows first third := by
  intro record member
  obtain ⟨middle, isMiddle, firstLe⟩ := earlier record member
  obtain ⟨final, isFinal, secondLe⟩ := later middle isMiddle
  exact ⟨final, isFinal, firstLe.trans secondLe⟩

theorem Grows.of_fenced {before after : ProfileStore} (fenced : Fenced before after) :
    Grows before.profile after.profile := by
  intro record member
  obtain ⟨next, stored, atLeast, -⟩ := fenced record member
  exact ⟨next, stored, atLeast⟩

/-- What every step of a spared run keeps. -/
structure Kept (before : ProfileStore) (world : World) : Prop where
  fresh : ∀ write ∈ world.writes, write.Fresh
  grows : Grows before.profile world.store.profile
  present : world.store.profile = none → world.base = none

theorem Kept.other (kept : Kept before world) (label : LeaseLabel) :
    Kept before (world.otherStep label) where
  fresh := kept.fresh
  grows := kept.grows.trans (Grows.of_fenced (leaseStep_fenced world.store label))
  present absent := by
    rcases world.otherStep_cases label with ⟨sameRecord, sameBase⟩ | ⟨taken, -⟩
    · rw [sameBase]
      exact kept.present (sameRecord.symm.trans absent)
    · rw [taken, absent]

theorem Kept.write (kept : Kept before world) {copies : Bool}
    (fresh : ProfileWrite.Fresh ⟨world.store.profile, record, copies⟩) :
    Kept before (world.write record copies) where
  fresh write member := by
    rcases List.mem_append.mp member with earlier | last
    · exact kept.fresh write earlier
    · obtain rfl := List.mem_singleton.mp last
      exact fresh
  grows := kept.grows.trans fresh.1
  present absent := nomatch absent

section

variable {controller : Controller} {manager : LeaseManager} {operation : Operation}
  {world : World} {turn : Turn}

variable {record : ProfileRecord} {store : ProfileStore}

/-- A lease operation that succeeded wrote over a record of no later generation. -/
theorem lease_fresh {call : LeaseCall}
    (succeeded : call.perform turn.atomicWriteJson manager turn.clock store = .ok record) :
    ProfileWrite.Fresh ⟨store.profile, record, false⟩ :=
  ⟨Grows.of_fenced (LeaseCall.perform_effect succeeded).fenced, fun copies => nomatch copies⟩

/-- A copy over the record it was taken of changes the freeze only. -/
theorem copy_fresh (stored : store.profile = some { record with admissionFrozen := true }) :
    ProfileWrite.Fresh ⟨store.profile, record, true⟩ := by
  constructor
  · intro held member
    obtain rfl := Option.mem_unique stored member
    exact ⟨record, rfl, le_rfl⟩
  · intro _ held member
    obtain rfl := Option.mem_unique stored member
    rfl

theorem Kept.step {before : ProfileStore} {request : Call} {outcome : World × Answer request}
    (kept : Kept before world)
    (possible : sparedTurns controller manager operation world request outcome) :
    Kept before outcome.1 := by
  obtain ⟨turn, spared, rfl⟩ := possible
  have left : Kept before (world.others turn.others) :=
    World.others_induction (fun _ label holds => holds.other label) turn.others kept
  unfold perform
  generalize world.others turn.others = now at left spared
  cases request with
  | writeProfile record =>
      rw [performNow]
      cases written : writeProfileUnlocked turn.atomicWriteJson record with
      | error problem => exact left
      | ok stored =>
          obtain rfl := writeProfileUnlocked_ok written
          exact left.write (copy_fresh spared.2)
  | lease call =>
      rw [performNow]
      cases written : call.perform turn.atomicWriteJson manager turn.clock now.store with
      | error problem => exact left
      | ok stored => exact left.write (lease_fresh written)
  | resumeAdmission =>
      rw [performNow]
      cases turn.resumeAdmission with
      | error problem => exact ⟨left.fresh, left.grows, left.present⟩
      | ok _ => exact left
  | admissionPaused paused => exact ⟨left.fresh, left.grows, left.present⟩
  | readProfile | listConversations | readConversation _ | hasPendingApproval | isIdle
  | isAdmissionOpen | pauseAdmission | attachAndVerify _ | health | recoverAttachment _
  | verifyResume _ | now => exact left

end

end Triangle.Handoff
