import Triangle.Lease.Effects
import Triangle.Semantics.Program

/-!
# The desktop handoff controller

The four operations of `createDesktopHandoffController` as programs. Their calls
are the reads and writes of the durable store, the operations of the lease
manager, and what the desktop owner and the headless runtime answer. A `try`
block is the outcome of its program, so each failure position keeps the cleanup
the source gives it.
-/

namespace Triangle.Handoff

open Triangle.Std Triangle.Lease Triangle.Semantics

/-- The codes that the controller itself throws. -/
inductive HandoffCode
  | handoffDisabled
  | handoffNotIdle
  | handoffOpenDelivery
  | handoffAdmissionFrozen
  | handoffApprovalPending
  | handoffThreadMissing
  | handoffWrongMode
  | handoffNotOwned
  | handoffThreadMismatch
  | handoffDesktopUnhealthy
  | handoffVerifyRequired
  | leaseMissing
  | leaseConflict
  | leaseTransferring
  | typeError
  deriving DecidableEq, Repr

/-- What an operation throws: its own error, one of the lease or the store, or
whatever the desktop owner or the headless runtime threw. -/
inductive HandoffError
  | coded (code : HandoffCode) (message : String)
  | lease (problem : LeaseError)
  | thrown (text : String)
  deriving DecidableEq, Repr

/-- A conversation record with its thread. -/
structure HandoffConversation extends Conversation where
  codexThreadId : Option String

/-- What the controller was created with. Neither owner is the empty string. -/
structure Controller where
  profileInstanceId : String
  headlessOwnerInstanceId : String
  desktopOwnerInstanceId : String
  desktopServerIdentity : String
  transferOwner : String
  enabled : Bool
  headlessNonempty : headlessOwnerInstanceId ≠ ""
  desktopNonempty : desktopOwnerInstanceId ≠ ""

/-! ## Calls -/

/-- The calls of the controller. `admissionPaused` is its own flag. -/
inductive Call
  | readProfile
  | listConversations
  | readConversation (meshRoomId : String)
  | writeProfile (record : ProfileRecord)
  | lease (operation : LeaseCall)
  | hasPendingApproval
  | isIdle
  | isAdmissionOpen
  | pauseAdmission
  | resumeAdmission
  | attachAndVerify (threadId : String)
  | health
  | recoverAttachment (threadId : String)
  | verifyResume (threadId : String)
  | admissionPaused (paused : Bool)
  | now

/-- What a call answers. `attachAndVerify` answers whether ChatGPT is attached,
`health` whether the App Server is healthy, and the verifications the thread
they found. -/
@[reducible] def Answer : Call → Type
  | .readProfile => Outcome (Option ProfileRecord)
  | .listConversations => Outcome (List HandoffConversation)
  | .readConversation _ => Outcome (Option HandoffConversation)
  | .writeProfile _ => Outcome ProfileRecord
  | .lease _ => Outcome ProfileRecord
  | .hasPendingApproval => Bool
  | .isIdle => Bool
  | .isAdmissionOpen => Bool
  | .pauseAdmission => Except String Unit
  | .resumeAdmission => Except String Unit
  | .attachAndVerify _ => Except String Bool
  | .health => Except String Bool
  | .recoverAttachment _ => Except String String
  | .verifyResume _ => Except String (Option String)
  | .admissionPaused _ => Unit
  | .now => Int

/-- An operation of the controller. -/
abbrev HandoffProgram := Program Call Answer HandoffError

/-- Throw an error of the controller. -/
def throwCoded {α : Type} (code : HandoffCode) (message : String) : HandoffProgram α :=
  Program.fail (.coded code message)

def ensure (condition : Prop) [Decidable condition] (code : HandoffCode) (message : String) :
    HandoffProgram Unit :=
  Program.ensure condition (.coded code message)

def readProfile : HandoffProgram (Option ProfileRecord) :=
  Program.attempt .readProfile id HandoffError.lease

def listConversations : HandoffProgram (List HandoffConversation) :=
  Program.attempt .listConversations id HandoffError.lease

def lease (operation : LeaseCall) : HandoffProgram ProfileRecord :=
  Program.attempt (.lease operation) id HandoffError.lease

def setAdmissionPaused (paused : Bool) : HandoffProgram Unit :=
  Program.request (Call.admissionPaused paused)

def pauseAdmission : HandoffProgram Unit :=
  Program.attempt .pauseAdmission id HandoffError.thrown

def resumeAdmission : HandoffProgram Unit :=
  Program.attempt .resumeAdmission id HandoffError.thrown

section

variable (controller : Controller)

/-! ## Preconditions -/

def assertEnabled : HandoffProgram Unit :=
  ensure (controller.enabled = true) .handoffDisabled
    "desktop handoff is feature-gated off; explicit shadow opt-in required"

def assertConversationsIdle (allowFrozen : Bool) : HandoffProgram Unit := do
  let rows ← listConversations
  ensure (rows.filter (·.executionState.isNonIdle) |>.isEmpty) .handoffNotIdle
    "handoff rejected while conversation non-idle"
  ensure (rows.filter (·.activeDeliveryId.isSome) |>.isEmpty) .handoffOpenDelivery
    "handoff rejected while delivery is open"
  let profile ← readProfile
  ensure ((profile.map (·.admissionFrozen)).getD false = false ∨ allowFrozen = true)
    .handoffAdmissionFrozen "admission frozen; use recover-desktop or rollback-headless"

def assertDesktopQuiesced : HandoffProgram Unit := do
  let pending ← Program.request .hasPendingApproval
  ensure (pending = false) .handoffApprovalPending
    "handoff rejected while desktop approval is outstanding"
  let idle ← Program.request .isIdle
  ensure (idle = true) .handoffNotIdle "handoff rejected while desktop turn is active"

/-- A text that is a nonempty string. -/
def nonempty (text : Option String) : Option String :=
  text.filter (· ≠ "")

/-- The only thread among the rows, else `handoff_thread_missing`. -/
def onlyThread : HandoffProgram String := do
  let rows ← listConversations
  match rows.filterMap fun row => nonempty row.codexThreadId with
  | [thread] => pure thread
  | _ => throwCoded .handoffThreadMissing "expected bound Codex thread id for handoff verify"

/-- The thread of a room, or the only one. -/
def roomThread (meshRoomId : Option String) : HandoffProgram String := do
  match nonempty meshRoomId with
  | none => onlyThread
  | some room =>
      let row ← Program.attempt (.readConversation room) id HandoffError.lease
      match row.bind fun found => nonempty found.codexThreadId with
      | some thread => pure thread
      | none => onlyThread

def resolveBoundThreadId (threadId meshRoomId : Option String) : HandoffProgram String := do
  match nonempty threadId with
  | some thread => pure thread
  | none =>
      let profile ← readProfile
      match profile.bind fun record => nonempty record.boundCodexThreadId with
      | some thread => pure thread
      | none => roomThread meshRoomId

/-- The record, or `lease_missing`. -/
def presentLease (found : Option ProfileRecord) (message : String) : HandoffProgram ProfileRecord :=
  match found with
  | some record => pure record
  | none => throwCoded .leaseMissing message

/-- The record of an owner that holds the lease in `mode`. -/
def ownedRecord (mode : RuntimeMode) (owner modeMessage ownerMessage : String) :
    HandoffProgram ProfileRecord := do
  let existing ← presentLease (← readProfile) "profile lease required before handoff"
  ensure (existing.runtimeMode = mode) .handoffWrongMode modeMessage
  ensure (existing.ownershipState = .owned) .handoffNotOwned
    "profile must be owned before handoff"
  ensure (existing.ownerInstanceId = owner) .leaseConflict ownerMessage
  pure existing

/-- `if (priorDesktopAdmission) desktopOwner.resumeAdmission()`, admission not paused. -/
def restoreAdmission (priorDesktopAdmission : Bool) : HandoffProgram Unit := do
  setAdmissionPaused false
  if priorDesktopAdmission = true then resumeAdmission else pure ()

/-- The thread that the headless runtime resumed is the bound one. -/
def verifyThread (boundThreadId message : String) : HandoffProgram Unit := do
  let resumed ← Program.attempt (.verifyResume boundThreadId) id HandoffError.thrown
  ensure (resumed = some boundThreadId) .handoffThreadMismatch message

/-! ## Transfers -/

def beginArgs (existing : ProfileRecord) (target : RuntimeMode) : LeaseCall :=
  .beginTransfer
    { profileInstanceId := controller.profileInstanceId
      expectedGeneration := existing.ownerGeneration
      transferOwnerInstanceId := controller.transferOwner
      targetRuntimeMode := target }

def commitDesktopArgs (transfer : ProfileRecord) (attached : Bool) (boundThreadId : String) :
    LeaseCall :=
  .commitTransfer
    { profileInstanceId := controller.profileInstanceId
      expectedTransferGeneration := transfer.ownerGeneration
      ownerInstanceId := controller.desktopOwnerInstanceId
      runtimeMode := .desktop
      desktopServerIdentity := some controller.desktopServerIdentity
      chatgptAttachmentState := some (if attached then .attached else .absent)
      boundCodexThreadId := some boundThreadId
      admissionFrozen := false }

def commitHeadlessArgs (transfer : ProfileRecord) (boundThreadId : String) : LeaseCall :=
  .commitTransfer
    { profileInstanceId := controller.profileInstanceId
      expectedTransferGeneration := transfer.ownerGeneration
      ownerInstanceId := controller.headlessOwnerInstanceId
      runtimeMode := .headless
      desktopServerIdentity := none
      chatgptAttachmentState := none
      boundCodexThreadId := some boundThreadId
      admissionFrozen := false }

def rollbackArgs (transfer : ProfileRecord) (owner : String) (mode : RuntimeMode) : LeaseCall :=
  .rollbackTransfer
    { profileInstanceId := controller.profileInstanceId
      expectedTransferGeneration := transfer.ownerGeneration
      ownerInstanceId := some owner
      runtimeMode := some mode }

/-- What an operation reports. -/
inductive Report
  | handedOff (runtimeMode : RuntimeMode) (ownerInstanceId : String) (ownerGeneration : Nat)
      (boundThreadId : String) (desktopServerIdentity : Option String) (durationMs : Int)
  | recovered (ownerInstanceId : String) (ownerGeneration : Nat) (boundThreadId : String)
  | rolledBack (ownerInstanceId : String) (ownerGeneration : Nat) (boundThreadId : String)
      (fromTransfer : Bool)

/-- The failure path of a handoff that is not committed: the transfer, if there
is one, goes back to the owner it came from. -/
def abortHandoff {α : Type} (transfer : Option ProfileRecord) (owner : String)
    (mode : RuntimeMode) (priorDesktopAdmission : Bool) (problem : HandoffError) : HandoffProgram α := do
  match transfer with
  | some opened =>
      let _ ← lease (rollbackArgs controller opened owner mode)
      restoreAdmission priorDesktopAdmission
  | none => restoreAdmission priorDesktopAdmission
  Program.fail problem

/-- Select the desktop App Server, then commit to it. -/
def attachAndCommit (transfer : ProfileRecord) (boundThreadId : String) :
    HandoffProgram ProfileRecord := do
  let attached ← Program.attempt (.attachAndVerify boundThreadId) id HandoffError.thrown
  lease (commitDesktopArgs controller transfer attached boundThreadId)

/-- Reopen admission through the desktop owner; a failure freezes the committed record. -/
def reopenOrFreeze (committed : ProfileRecord) : HandoffProgram Unit := do
  match ← resumeAdmission.outcome with
  | .ok _ => pure ()
  | .error problem =>
      let _ ← lease (.freezeAdmissionAfterCommit
        { profileInstanceId := controller.profileInstanceId
          expectedGeneration := committed.ownerGeneration })
      setAdmissionPaused true
      Program.fail problem

/-- The `try` block of `handoffToDesktop` and its `catch`. -/
def transferToDesktop (existing : ProfileRecord) (boundThreadId : String)
    (priorDesktopAdmission : Bool) (handoffStarted : Int) : HandoffProgram Report := do
  match ← (lease (beginArgs controller existing .desktop)).outcome with
  | .error problem =>
      abortHandoff controller none controller.headlessOwnerInstanceId .headless
        priorDesktopAdmission problem
  | .ok transfer =>
      match ← (attachAndCommit controller transfer boundThreadId).outcome with
      | .error problem =>
          abortHandoff controller (some transfer) controller.headlessOwnerInstanceId .headless
            priorDesktopAdmission problem
      | .ok committed =>
          -- Past the commit the outer `catch` only throws on.
          reopenOrFreeze controller committed
          setAdmissionPaused false
          let finished ← Program.request .now
          pure (.handedOff .desktop controller.desktopOwnerInstanceId committed.ownerGeneration
            boundThreadId (some controller.desktopServerIdentity) (finished - handoffStarted))

def handoffToDesktop (threadId meshRoomId : Option String) : HandoffProgram Report := do
  assertEnabled controller
  let handoffStarted ← Program.request .now
  assertConversationsIdle false
  assertDesktopQuiesced
  let boundThreadId ← resolveBoundThreadId threadId meshRoomId
  let existing ← ownedRecord .headless controller.headlessOwnerInstanceId
    "handoffToDesktop requires headless owner" "headless owner does not hold the lease"
  let priorDesktopAdmission ← Program.request .isAdmissionOpen
  setAdmissionPaused true
  pauseAdmission
  transferToDesktop controller existing boundThreadId priorDesktopAdmission handoffStarted

/-- Verify the thread on a headless slot if the caller can, then commit. -/
def verifyAndCommit (transfer : ProfileRecord) (boundThreadId : String) (canVerify : Bool) :
    HandoffProgram ProfileRecord := do
  if canVerify = true then
    verifyThread boundThreadId "headless thread/resume identity mismatch"
    lease (commitHeadlessArgs controller transfer boundThreadId)
  else lease (commitHeadlessArgs controller transfer boundThreadId)

/-- The `try` block of `handoffToHeadless` and its `catch`. -/
def transferToHeadless (existing : ProfileRecord) (boundThreadId : String) (canVerify : Bool)
    (priorDesktopAdmission : Bool) (handoffStarted : Int) : HandoffProgram Report := do
  match ← (lease (beginArgs controller existing .headless)).outcome with
  | .error problem =>
      abortHandoff controller none controller.desktopOwnerInstanceId .desktop
        priorDesktopAdmission problem
  | .ok transfer =>
      match ← (verifyAndCommit controller transfer boundThreadId canVerify).outcome with
      | .error problem =>
          abortHandoff controller (some transfer) controller.desktopOwnerInstanceId .desktop
            priorDesktopAdmission problem
      | .ok committed =>
          setAdmissionPaused false
          let finished ← Program.request .now
          pure (.handedOff .headless controller.headlessOwnerInstanceId committed.ownerGeneration
            boundThreadId none (finished - handoffStarted))

def handoffToHeadless (threadId meshRoomId : Option String) (canVerify : Bool) :
    HandoffProgram Report := do
  assertEnabled controller
  let handoffStarted ← Program.request .now
  assertConversationsIdle false
  assertDesktopQuiesced
  let boundThreadId ← resolveBoundThreadId threadId meshRoomId
  let existing ← ownedRecord .desktop controller.desktopOwnerInstanceId
    "handoffToHeadless requires desktop owner" "desktop owner does not hold the lease"
  let priorDesktopAdmission ← Program.request .isAdmissionOpen
  setAdmissionPaused true
  pauseAdmission
  transferToHeadless controller existing boundThreadId canVerify priorDesktopAdmission
    handoffStarted

/-! ## Operator recovery -/

/-- The record that `recoverDesktop` accepts. -/
def recoverableRecord : HandoffProgram ProfileRecord := do
  let existing ← presentLease (← readProfile) "no profile lease"
  ensure (existing.ownershipState ≠ .transferring) .leaseTransferring
    "cannot recover-desktop while ownership is transferring"
  ensure (existing.ownershipState = .owned) .handoffNotOwned
    "recover-desktop requires owned profile"
  ensure (existing.runtimeMode = .desktop) .handoffWrongMode
    "recover-desktop requires desktop ownership"
  ensure (existing.ownerInstanceId = controller.desktopOwnerInstanceId) .leaseConflict
    "desktop owner does not hold the lease"
  pure existing

/-- The end of `recoverDesktop`: lift the freeze, then reopen admission. -/
def liftFreeze (existing : ProfileRecord) (boundThreadId verifiedThreadId : String) :
    HandoffProgram Report := do
  let renewed ← lease (.clearAdmissionFreezeForRecover
    { profileInstanceId := controller.profileInstanceId
      expectedGeneration := existing.ownerGeneration
      expectedOwnerInstanceId := controller.desktopOwnerInstanceId
      desktopServerIdentity := some controller.desktopServerIdentity
      chatgptAttachmentState := some .attached
      boundCodexThreadId := some boundThreadId })
  resumeAdmission
  setAdmissionPaused false
  pure (.recovered renewed.ownerInstanceId renewed.ownerGeneration verifiedThreadId)

def recoverDesktop (threadId meshRoomId : Option String) : HandoffProgram Report := do
  assertEnabled controller
  let existing ← recoverableRecord controller
  assertConversationsIdle true
  assertDesktopQuiesced
  let boundThreadId ← resolveBoundThreadId threadId meshRoomId
  let healthy ← Program.attempt .health id HandoffError.thrown
  ensure (healthy = true) .handoffDesktopUnhealthy
    "App Server unhealthy; restore desktop or run rollback-headless"
  let verified ← Program.attempt (.recoverAttachment boundThreadId) id HandoffError.thrown
  liftFreeze controller existing boundThreadId verified

/-- `store.writeProfile({ ...existing, admission_frozen: false })` on a frozen record. -/
def unfreezeCopy (existing : ProfileRecord) : HandoffProgram Unit := do
  if existing.admissionFrozen = true then
    let _ ← Program.attempt (.writeProfile { existing with admissionFrozen := false }) id
      HandoffError.lease
    pure ()
  else pure ()

/-- The transfer of `rollbackHeadless`, which nothing rolls back. -/
def transferBack (boundThreadId : String) : HandoffProgram Report := do
  match ← readProfile with
  | none => throwCoded .typeError "Cannot read properties of null (reading 'owner_generation')"
  | some latest =>
      let transfer ← lease (beginArgs controller latest .headless)
      let committed ← lease (commitHeadlessArgs controller transfer boundThreadId)
      setAdmissionPaused false
      pure (.rolledBack committed.ownerInstanceId committed.ownerGeneration boundThreadId false)

/-- `rollbackHeadless` once the thread is verified. -/
def settleHeadless (existing : ProfileRecord) (boundThreadId : String) : HandoffProgram Report := do
  if existing.ownershipState = .transferring then
    let rolled ←
      lease (rollbackArgs controller existing controller.headlessOwnerInstanceId .headless)
    setAdmissionPaused false
    pure (.rolledBack rolled.ownerInstanceId rolled.ownerGeneration boundThreadId true)
  else
    unfreezeCopy existing
    transferBack controller boundThreadId

def rollbackHeadless (threadId meshRoomId : Option String) (canVerify : Bool) :
    HandoffProgram Report := do
  assertEnabled controller
  let existing ← presentLease (← readProfile) "no profile lease"
  ensure (existing.runtimeMode = .desktop ∨ existing.ownershipState = .transferring)
    .handoffWrongMode "rollback-headless requires desktop ownership or orphaned transfer"
  assertConversationsIdle true
  assertDesktopQuiesced
  pauseAdmission
  let boundThreadId ← resolveBoundThreadId threadId meshRoomId
  ensure (canVerify = true) .handoffVerifyRequired
    "rollback-headless requires headless verifyResume proving the exact thread"
  verifyThread boundThreadId "headless resume did not match bound thread"
  settleHeadless controller existing boundThreadId

/-- The four operations with their arguments. -/
inductive Operation
  | handoffToDesktop (threadId meshRoomId : Option String)
  | handoffToHeadless (threadId meshRoomId : Option String) (canVerify : Bool)
  | recoverDesktop (threadId meshRoomId : Option String)
  | rollbackHeadless (threadId meshRoomId : Option String) (canVerify : Bool)

/-- The program of an operation. -/
def code : Operation → HandoffProgram Report
  | .handoffToDesktop threadId meshRoomId => handoffToDesktop controller threadId meshRoomId
  | .handoffToHeadless threadId meshRoomId canVerify =>
      handoffToHeadless controller threadId meshRoomId canVerify
  | .recoverDesktop threadId meshRoomId => recoverDesktop controller threadId meshRoomId
  | .rollbackHeadless threadId meshRoomId canVerify =>
      rollbackHeadless controller threadId meshRoomId canVerify

end

end Triangle.Handoff
