import Triangle.Lease.Store

/-!
# Lease managers

A lease manager acts for one owner instance. Each operation reads the profile
record under the store's lock, checks it, and either throws or replaces the
record. The re-read inside `acquire` happens under the same lock, so it sees the
record that was read first; both reads are kept as the source has them.

An operation may read the clock several times. `Clock` gives each kind of
reading its own value, so nothing relates the readings of one call or of two
managers.
-/

namespace Triangle.Lease

open Triangle.Std Triangle.Std.Text

/-- A manager's configuration. -/
structure LeaseManager where
  ownerInstanceId : String
  leaseDurationMs : Int
  maxClockSkewMs : Int
  ownerNonempty : ownerInstanceId ≠ ""
  durationBound : 1000 ≤ leaseDurationMs

/-- The values `now()` returns inside one operation. -/
structure Clock where
  sane : Int
  expiry : Int
  renewed : Int
  deriving DecidableEq, Repr

/-- Arguments of `acquire`. -/
structure AcquireArgs where
  profileInstanceId : String
  runtimeMode : RuntimeMode := .headless
  expectedGeneration : Option Int := none
  afterRestart : Bool := false
  activeMeshRoomId : Option String := none

/-- Arguments of `renew`; the outer `none` is `undefined`. -/
structure RenewArgs where
  profileInstanceId : String
  activeMeshRoomId : Option (Option String) := none

/-- Arguments of `replaceExpiredIdle`. -/
structure ReplaceArgs where
  profileInstanceId : String
  expectedGeneration : Int
  activeMeshRoomId : Option String := none

/-- Arguments of `beginTransfer`. -/
structure BeginTransferArgs where
  profileInstanceId : String
  expectedGeneration : Int
  transferOwnerInstanceId : String
  targetRuntimeMode : RuntimeMode

/-- Arguments of `commitTransfer`. -/
structure CommitTransferArgs where
  profileInstanceId : String
  expectedTransferGeneration : Int
  ownerInstanceId : String
  runtimeMode : RuntimeMode
  desktopServerIdentity : Option String := none
  chatgptAttachmentState : Option AttachmentState := none
  boundCodexThreadId : Option String := none
  admissionFrozen : Bool := false

/-- Arguments of `rollbackTransfer`. -/
structure RollbackTransferArgs where
  profileInstanceId : String
  expectedTransferGeneration : Int
  ownerInstanceId : Option String := none
  runtimeMode : Option RuntimeMode := none

/-- Arguments of `freezeAdmissionAfterCommit`. -/
structure FreezeArgs where
  profileInstanceId : String
  expectedGeneration : Int

/-- Arguments of `clearAdmissionFreezeForRecover`. -/
structure ClearFreezeArgs where
  profileInstanceId : String
  expectedGeneration : Int
  expectedOwnerInstanceId : String
  desktopServerIdentity : Option String := none
  chatgptAttachmentState : Option AttachmentState := some .attached
  boundCodexThreadId : Option String := none

/-- `assertClockSane`. -/
def assertClockSane (manager : LeaseManager) (profile : ProfileRecord) (now : Int) :
    Outcome Unit :=
  require (profile.leaseRenewedAt - now ≤ manager.maxClockSkewMs)
    ⟨.leaseClockSkew, "lease renewed_at is too far in the future; admission frozen"⟩

/-- `isExpired`. -/
def isExpired (profile : ProfileRecord) (now : Int) : Bool :=
  profile.leaseExpiresAt ≤ now

/-- `Number.isSafeInteger(generation) && generation >= 1`, else a `TypeError`. -/
def requirePositive (generation : Int) (name : String) : Outcome Unit :=
  require (isSafeInteger generation = true ∧ 1 ≤ generation)
    ⟨.typeError, name ++ " must be a positive integer"⟩

/-- The record, or `lease_missing`. -/
def requireLease (existing : Option ProfileRecord) (message : String) : Outcome ProfileRecord :=
  match existing with
  | some record => .ok record
  | none => .error ⟨.leaseMissing, message⟩

section

variable (atomicWriteJson : ProfileRecord → Bool)

/-- `buildLeaseFields` with the profile id, then the write. -/
def commitFreshLease (manager : LeaseManager) (profileInstanceId : String) (generation : Nat)
    (runtimeMode : RuntimeMode) (activeMeshRoomId : Option String) (now : Int) :
    Outcome ProfileRecord := do
  let renewed ← isoFromMs now
  let expires ← isoFromMs (now + manager.leaseDurationMs)
  writeProfileUnlocked atomicWriteJson
    { profileInstanceId := profileInstanceId
      runtimeMode := runtimeMode
      ownerInstanceId := manager.ownerInstanceId
      ownerGeneration := generation
      ownershipState := .owned
      leaseRenewedAt := renewed
      leaseExpiresAt := expires
      activeMeshRoomId := activeMeshRoomId }

/-- Write `record` with the lease times of this moment. -/
def commitRenewed (manager : LeaseManager) (record : ProfileRecord) (now : Int) :
    Outcome ProfileRecord := do
  let renewed ← isoFromMs now
  let expires ← isoFromMs (now + manager.leaseDurationMs)
  writeProfileUnlocked atomicWriteJson
    { record with leaseRenewedAt := renewed, leaseExpiresAt := expires }

/-- `acquire`. -/
def acquire (manager : LeaseManager) (args : AcquireArgs) (clock : Clock) (store : ProfileStore) :
    Outcome ProfileRecord := do
  match ← readProfile store args.profileInstanceId with
  | none =>
      require (args.expectedGeneration = none ∨ args.expectedGeneration = some 0)
        ⟨.leaseCasConflict, "expected generation does not match empty profile"⟩
      commitFreshLease atomicWriteJson manager args.profileInstanceId 1 args.runtimeMode
        args.activeMeshRoomId clock.renewed
  | some existing =>
      assertClockSane manager existing clock.sane
      require (existing.ownershipState ≠ .transferring)
        ⟨.leaseTransferring, "profile ownership is transferring; cannot admit"⟩
      require (existing.admissionFrozen = false)
        ⟨.handoffAdmissionFrozen,
          "admission is frozen; cannot acquire until recover-desktop or rollback-headless"⟩
      if existing.ownerInstanceId = manager.ownerInstanceId ∧ args.afterRestart = false then
        require (∀ expected ∈ args.expectedGeneration, expected = existing.ownerGeneration)
          ⟨.leaseStaleGeneration, "owner generation mismatch on renew"⟩
        commitRenewed atomicWriteJson manager
          { existing with
            profileInstanceId := args.profileInstanceId
            activeMeshRoomId := args.activeMeshRoomId.orElse fun _ => existing.activeMeshRoomId }
          clock.renewed
      else
        require (listNonIdle store = [])
          ⟨.leaseNonIdleNoSteal, "cannot replace lease while conversations are non-idle"⟩
        require (isExpired existing clock.expiry = true ∨ args.afterRestart = true)
          ⟨.leaseConflict, "profile lease is held by another owner"⟩
        require (∀ expected ∈ args.expectedGeneration, expected = existing.ownerGeneration)
          ⟨.leaseCasConflict, "compare-and-swap generation mismatch"⟩
        let latest ← readProfile store args.profileInstanceId
        require (latest.map (·.ownerGeneration) = some existing.ownerGeneration)
          ⟨.leaseCasConflict, "owner generation changed during acquire"⟩
        require (latest.map (·.ownershipState) ≠ some .transferring)
          ⟨.leaseTransferring, "profile ownership became transferring"⟩
        require (latest.map (·.admissionFrozen) ≠ some true)
          ⟨.handoffAdmissionFrozen, "admission became frozen during acquire"⟩
        require (listNonIdle store = [])
          ⟨.leaseNonIdleNoSteal, "conversations became non-idle during acquire"⟩
        commitFreshLease atomicWriteJson manager args.profileInstanceId
          (existing.ownerGeneration + 1) ((latest.map (·.runtimeMode)).getD args.runtimeMode)
          args.activeMeshRoomId clock.renewed

/-- `renew`. -/
def renew (manager : LeaseManager) (args : RenewArgs) (clock : Clock) (store : ProfileStore) :
    Outcome ProfileRecord := do
  let existing ← requireLease (← readProfile store args.profileInstanceId)
    "no profile lease to renew"
  assertClockSane manager existing clock.sane
  require (existing.ownershipState ≠ .transferring)
    ⟨.leaseTransferring, "cannot renew while transferring"⟩
  require (existing.admissionFrozen = false)
    ⟨.handoffAdmissionFrozen,
      "admission is frozen; cannot renew until recover-desktop or rollback-headless"⟩
  require (existing.ownerInstanceId = manager.ownerInstanceId)
    ⟨.leaseConflict, "cannot renew lease owned by another instance"⟩
  commitRenewed atomicWriteJson manager
    { existing with
      profileInstanceId := args.profileInstanceId
      activeMeshRoomId := args.activeMeshRoomId.getD existing.activeMeshRoomId }
    clock.renewed

/-- `replaceExpiredIdle`. It looks at the generation, the expiry and idleness,
and at nothing else of the record. -/
def replaceExpiredIdle (manager : LeaseManager) (args : ReplaceArgs) (clock : Clock)
    (store : ProfileStore) : Outcome ProfileRecord := do
  requirePositive args.expectedGeneration "expectedGeneration"
  let existing ← requireLease (← readProfile store args.profileInstanceId)
    "no profile lease to replace"
  assertClockSane manager existing clock.sane
  require ((existing.ownerGeneration : Int) = args.expectedGeneration)
    ⟨.leaseCasConflict, "compare-and-swap generation mismatch"⟩
  require (isExpired existing clock.expiry = true)
    ⟨.leaseNotExpired, "idle lease has not expired"⟩
  require (listNonIdle store = [])
    ⟨.leaseNonIdleNoSteal, "expired lease cannot be stolen while non-idle"⟩
  commitFreshLease atomicWriteJson manager args.profileInstanceId (existing.ownerGeneration + 1)
    existing.runtimeMode args.activeMeshRoomId clock.renewed

/-- `beginTransfer`: compare-and-swap ownership into a transfer generation. -/
def beginTransfer (manager : LeaseManager) (args : BeginTransferArgs) (clock : Clock)
    (store : ProfileStore) : Outcome ProfileRecord := do
  requirePositive args.expectedGeneration "expectedGeneration"
  require (args.transferOwnerInstanceId ≠ "")
    ⟨.typeError, "transferOwnerInstanceId is required"⟩
  let existing ← requireLease (← readProfile store args.profileInstanceId)
    "no profile lease to transfer"
  assertClockSane manager existing clock.sane
  require ((existing.ownerGeneration : Int) = args.expectedGeneration)
    ⟨.leaseCasConflict, "compare-and-swap generation mismatch"⟩
  require (existing.ownershipState = .owned)
    ⟨.leaseTransferring, "ownership is already transferring"⟩
  require (existing.admissionFrozen = false)
    ⟨.handoffAdmissionFrozen,
      "admission is frozen; explicit recover-desktop or rollback-headless required"⟩
  require (listNonIdle store = [])
    ⟨.handoffNotIdle, "cannot begin handoff while non-idle"⟩
  require (store.conversations.filter (·.activeDeliveryId.isSome) = [])
    ⟨.handoffOpenDelivery, "cannot begin handoff with open delivery"⟩
  commitRenewed atomicWriteJson manager
    { existing with
      profileInstanceId := args.profileInstanceId
      ownerInstanceId := args.transferOwnerInstanceId
      ownerGeneration := existing.ownerGeneration + 1
      ownershipState := .transferring
      transferFromOwnerInstanceId := some existing.ownerInstanceId
      transferFromRuntimeMode := some existing.runtimeMode
      transferFromGeneration := some existing.ownerGeneration
      admissionFrozen := false }
    clock.renewed

/-- The record that `commitTransfer` and `rollbackTransfer` write, but for its times. -/
def settledTransfer (existing : ProfileRecord) (profileInstanceId owner : String)
    (mode : RuntimeMode) (identity : Option String) (attachment : Option AttachmentState)
    (thread : Option String) (frozen : Bool) : ProfileRecord :=
  { profileInstanceId := profileInstanceId
    runtimeMode := mode
    ownerInstanceId := owner
    ownerGeneration := existing.ownerGeneration + 1
    ownershipState := .owned
    leaseRenewedAt := existing.leaseRenewedAt
    leaseExpiresAt := existing.leaseExpiresAt
    activeMeshRoomId := existing.activeMeshRoomId
    desktopServerIdentity := identity
    chatgptAttachmentState := attachment
    boundCodexThreadId := thread
    admissionFrozen := frozen }

/-- `commitTransfer`. -/
def commitTransfer (manager : LeaseManager) (args : CommitTransferArgs) (clock : Clock)
    (store : ProfileStore) : Outcome ProfileRecord := do
  requirePositive args.expectedTransferGeneration "expectedTransferGeneration"
  require (args.ownerInstanceId ≠ "") ⟨.typeError, "ownerInstanceId is required"⟩
  let existing ← requireLease (← readProfile store args.profileInstanceId)
    "no profile lease to commit"
  require (existing.ownershipState = .transferring)
    ⟨.handoffNotTransferring, "ownership is not transferring"⟩
  require ((existing.ownerGeneration : Int) = args.expectedTransferGeneration)
    ⟨.leaseCasConflict, "transfer generation mismatch on commit"⟩
  require (listNonIdle store = [])
    ⟨.handoffNotIdle, "cannot commit handoff while non-idle"⟩
  commitRenewed atomicWriteJson manager
    (settledTransfer existing args.profileInstanceId args.ownerInstanceId args.runtimeMode
      args.desktopServerIdentity args.chatgptAttachmentState args.boundCodexThreadId
      args.admissionFrozen)
    clock.renewed

/-- `rollbackTransfer`: restore the prior owner under a new owned generation. It
is the one owner change that does not ask whether conversations are idle. -/
def rollbackTransfer (manager : LeaseManager) (args : RollbackTransferArgs) (clock : Clock)
    (store : ProfileStore) : Outcome ProfileRecord := do
  requirePositive args.expectedTransferGeneration "expectedTransferGeneration"
  let existing ← requireLease (← readProfile store args.profileInstanceId)
    "no profile lease to roll back"
  require (existing.ownershipState = .transferring)
    ⟨.handoffNotTransferring, "ownership is not transferring"⟩
  require ((existing.ownerGeneration : Int) = args.expectedTransferGeneration)
    ⟨.leaseCasConflict, "transfer generation mismatch on rollback"⟩
  match (args.ownerInstanceId.filter (· ≠ "")).orElse
      (fun _ => existing.transferFromOwnerInstanceId),
    args.runtimeMode.orElse fun _ => existing.transferFromRuntimeMode with
  | some owner, some mode =>
      require (owner ≠ "")
        ⟨.handoffRollbackIncomplete, "prior owner is missing for rollback"⟩
      commitRenewed atomicWriteJson manager
        (settledTransfer existing args.profileInstanceId owner mode
          (if mode = .desktop then existing.desktopServerIdentity else none)
          (if mode = .desktop then existing.chatgptAttachmentState else none)
          existing.boundCodexThreadId false)
        clock.renewed
  | none, _ =>
      .error ⟨.handoffRollbackIncomplete, "prior owner is missing for rollback"⟩
  | some _, none =>
      .error ⟨.handoffRollbackIncomplete, "prior runtime mode is missing"⟩

/-- `freezeAdmissionAfterCommit`. -/
def freezeAdmissionAfterCommit (args : FreezeArgs) (store : ProfileStore) :
    Outcome ProfileRecord := do
  let existing ← requireLease (← readProfile store args.profileInstanceId)
    "no profile lease to freeze"
  require ((existing.ownerGeneration : Int) = args.expectedGeneration)
    ⟨.leaseCasConflict, "generation mismatch on freeze"⟩
  require (existing.ownershipState = .owned)
    ⟨.handoffNotOwned, "can only freeze owned profiles"⟩
  writeProfileUnlocked atomicWriteJson
    { existing with
      profileInstanceId := args.profileInstanceId
      admissionFrozen := true
      chatgptAttachmentState := existing.chatgptAttachmentState.orElse fun _ => some .unknown }

/-- `clearAdmissionFreezeForRecover`. -/
def clearAdmissionFreezeForRecover (manager : LeaseManager) (args : ClearFreezeArgs)
    (clock : Clock) (store : ProfileStore) : Outcome ProfileRecord := do
  requirePositive args.expectedGeneration "expectedGeneration"
  require (args.expectedOwnerInstanceId ≠ "")
    ⟨.typeError, "expectedOwnerInstanceId is required"⟩
  let existing ← requireLease (← readProfile store args.profileInstanceId)
    "no profile lease to recover"
  require (existing.ownershipState ≠ .transferring)
    ⟨.leaseTransferring, "cannot recover-desktop while ownership is transferring"⟩
  require (existing.ownershipState = .owned)
    ⟨.handoffNotOwned, "recover-desktop requires owned profile"⟩
  require (existing.runtimeMode = .desktop)
    ⟨.handoffWrongMode, "recover-desktop requires desktop ownership"⟩
  require (existing.ownerInstanceId = args.expectedOwnerInstanceId)
    ⟨.leaseConflict, "desktop owner does not hold the lease"⟩
  require ((existing.ownerGeneration : Int) = args.expectedGeneration)
    ⟨.leaseCasConflict, "generation mismatch on recover-desktop"⟩
  commitRenewed atomicWriteJson manager
    { existing with
      profileInstanceId := args.profileInstanceId
      admissionFrozen := false
      chatgptAttachmentState := args.chatgptAttachmentState
      desktopServerIdentity :=
        args.desktopServerIdentity.orElse fun _ => existing.desktopServerIdentity
      boundCodexThreadId := args.boundCodexThreadId.orElse fun _ => existing.boundCodexThreadId }
    clock.renewed

end

end Triangle.Lease
