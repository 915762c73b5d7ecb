import Triangle.LinuxRuntime.Transport

/-!
# The custodian

`custodian.cycle` and `store.retry`, under the store lock. The record is held in
memory and saved before each step that it names; inside the guarded block an
error carries the record as it was in memory, which is what the handler of the
block looks at.
-/

namespace Triangle.LinuxRuntime

open Triangle.Std Triangle.Semantics

/-- What a cycle returns. -/
inductive CycleState
  | idle
  | quarantined
  | failed
  | completed
  deriving DecidableEq

/-- A part of the guarded block of a cycle. -/
abbrev Try := Program Call Answer (CustodianError × Record)

/-- A computation of the guarded block while the record is in memory. -/
def within {α : Type} (record : Record) (task : Task α) : Try α :=
  task.mapError fun problem => (problem, record)

def health (state : Health) : Task Unit :=
  ask! (.writeHealth state) id

/-! ## The store -/

section

variable (custodian : Custodian)

/-- `store.get()`. -/
def get : Task (Option Record) := do
  let record? ← ask! .readJournal id
  match record? with
  | none => pure none
  | some record => do
      Program.ensure (record.Checked custodian) .invalidJournal
      pure (some record)

/-- `store.save(r)`. -/
def storeSave (record : Record) : Task Unit := do
  Program.ensure (record.Checked custodian) .invalidJournal
  ask! (.writeJournal record) id

/-- `store.withLock(fn)`. -/
def withLock {α : Type} (body : Task α) : Task α := do
  let locked ← ask .lock
  Program.ensure (locked = true) .storeLocked
  let result ← body.outcome
  ask .unlock
  Program.ofExcept result

/-! ## The guarded block -/

section

variable (record : Record)

/-- `save(r, phase, extra)`, with `extra` applied to the record. -/
def save (phase : Phase) : Try Record := do
  let now ← ask .now
  within (record.enter phase now) (storeSave custodian (record.enter phase now))
  pure (record.enter phase now)

/-- `assertOwner()`. -/
def assertOwner : Try Unit := do
  let owner ← ask .assertOwner
  Program.ensure (owner = true) (.ownershipLost, record)

/-- Save the quarantine and return it. -/
def quarantine (reason : Reason) : Try CycleState := do
  let quarantined ← save custodian { record with reason := some reason } .quarantined
  within quarantined (health .quarantined)
  pure .quarantined

/-- Acknowledge, and clear the journal. -/
def acknowledge : Try CycleState := do
  assertOwner record
  within record (ack record)
  assertOwner record
  within record (ask! .removeJournal id)
  within record (health .completed)
  pure .completed

/-- Go on from a reply that is in the room. -/
def confirm (eventId : String) : Try CycleState := do
  let replied ← save custodian { record with replyEventId := some eventId } .replied
  acknowledge replied

/-- Look whether the reply is in the room. -/
def lookUp : Try (Option String) :=
  if record.receiptOnly = some true then pure none else within record (findReply custodian record)

/-- A cycle that begins after the runner may have been started. -/
def recover : Try CycleState := do
  let found ← lookUp custodian record
  assertOwner record
  match found, record.replyDigest with
  | some eventId, some _ => confirm custodian record eventId
  | _, _ =>
      if record.phase ≠ .replied ∨ record.receiptOnly ≠ some true then
        quarantine custodian record .unknownExecution
      else acknowledge record

/-- `1000 * 2 ** count`, at most a minute. -/
def backoff (count : Nat) : Int :=
  min 60000 (1000 * 2 ^ count)

/-- Record a failure that the runner knows. -/
def recordFailure : Try CycleState := do
  let now ← ask .now
  let count := record.failureCount + 1
  let failed ← save custodian
    { record with
      failureCount := count, reason := some .runnerFailed, nextAttemptAt := some (now + backoff count) }
    (if 3 ≤ count then .quarantined else .failed)
  within failed (health (if 3 ≤ count then .quarantined else .failed))
  pure (if 3 ≤ count then .quarantined else .failed)

/-- A reply whose answer failed: look whether it is in the room. -/
def resolveReply : Try CycleState := do
  assertOwner record
  let found ← within record (findReply custodian record)
  match found with
  | none => quarantine custodian record .replyUnresolved
  | some eventId => do
      assertOwner record
      confirm custodian record eventId

/-- Reply with the text of the runner. -/
def deliver (text : String) : Try CycleState := do
  let replying ← save custodian { record with replyDigest := some (custodian.digest text) } .replying
  assertOwner replying
  let answered ← (within replying (reply custodian replying text)).outcome
  match answered with
  | .ok eventId => do
      assertOwner replying
      confirm custodian replying eventId
  | .error _ => resolveReply custodian replying

/-- What the cycle accepts as a result of the runner. -/
def acceptedText (status : String) (text : Option String) : Option String :=
  if status = "completed" then text.filter bounded else none

/-- What follows the run of the runner. -/
def settleRun : RunAnswer → Try CycleState
  | .failed knownFailure => do
      assertOwner record
      if knownFailure = true then recordFailure custodian record
      else quarantine custodian record .unknownExecution
  | .result status text => do
      assertOwner record
      match acceptedText status text with
      | none => quarantine custodian record .invalidRunnerResult
      | some accepted => deliver custodian record accepted

/-- Admit the execution, and run. -/
def admitRun (request : Inbound) : Try CycleState := do
  let executing ← save custodian record .executing
  assertOwner executing
  let answer ← ask (.run executing request)
  settleRun custodian executing answer

/-- A cycle that begins before the runner was started. -/
def execute : Try CycleState := do
  let claimed ← save custodian record .claimed
  let request ← within claimed (inbound custodian claimed)
  assertOwner claimed
  if request.replyRequired = false then do
    let replied ← save custodian { claimed with receiptOnly := some true } .replied
    acknowledge replied
  else admitRun custodian claimed request

/-- `["executing", "replying", "replied"].includes(r.phase)`. -/
def Phase.isRecovery (phase : Phase) : Bool :=
  phase ∈ [Phase.executing, .replying, .replied]

/-- The guarded block. -/
def guarded : Try CycleState := do
  assertOwner record
  within record (health .working)
  if record.phase.isRecovery = true then recover custodian record else execute custodian record

/-- The handler of the guarded block. -/
def handleError (problem : CustodianError × Record) : Task CycleState := do
  let (aborted, lost) ← ask .signals
  if aborted = false ∧ problem.1 = .invalidAuthorityResponse ∧ problem.2.phase.isRecovery = true then
    (quarantine custodian problem.2 .replyUnresolved).mapError Prod.fst
  else do
    health (if lost = true then .ownershipLost else .failed)
    Program.fail problem.1

/-- The block with its handler and its `finally`. -/
def owned (leaseExpiresAt : Int) : Task CycleState := do
  ask (.schedule record leaseExpiresAt)
  let result ← (guarded custodian record).outcome.mapError Prod.fst
  let handled ← (match result with
    | .ok state => (pure state : Task CycleState)
    | .error problem => handleError custodian problem).outcome
  ask .endLease
  Program.ofExcept handled

/-- Claim the delivery of a record, and go on with it. -/
def proceed : Task CycleState := do
  let claimed ← (claim record).outcome
  match claimed with
  | .error problem => do
      health .ownershipLost
      Program.fail problem
  | .ok leaseExpiresAt => owned custodian record leaseExpiresAt

/-- The record of a cycle is there: wait, stop, or go on with it. -/
def resume : Task CycleState := do
  if record.phase = .quarantined then do
    health .quarantined
    pure .quarantined
  else if record.phase = .failed then do
    let now ← ask .now
    if ∃ next ∈ record.nextAttemptAt, now < next then do
      health .failed
      pure .failed
    else proceed custodian record
  else proceed custodian record

end

/-- Take the first delivery of the mailbox. -/
def take : Task CycleState := do
  let listed ← list
  match listed with
  | [] => do
      health .idle
      pure .idle
  | delivery :: _ => do
      let createdAt ← ask .now
      let updatedAt ← ask .now
      let record := custodian.prepared delivery createdAt updatedAt
      storeSave custodian record
      resume custodian record

/-- The body of a cycle. -/
def cycleBody : Task CycleState := do
  let aborted ← ask .throwIfAborted
  Program.ensure (aborted = false) .aborted
  let verified ← verify.outcome
  match verified with
  | .error problem => do
      health .paused
      Program.fail problem
  | .ok _ => do
      let record? ← get custodian
      match record? with
      | none => take custodian
      | some record => resume custodian record

/-- `custodian.cycle()`. -/
def cycle : Task CycleState :=
  withLock (cycleBody custodian)

/-- A record that an operator may retry. -/
def Record.IsEligible (record : Record) (deliveryId : Int) : Prop :=
  record.deliveryId = deliveryId ∧ (record.phase = .failed ∨ record.phase = .quarantined)

instance (record : Record) (deliveryId : Int) : Decidable (record.IsEligible deliveryId) :=
  inferInstanceAs (Decidable (_ ∧ (_ ∨ _)))

/-- The body of a retry; it ends with `status()`. -/
def retryBody (deliveryId : Int) : Task Unit := do
  let record? ← get custodian
  match record? with
  | none => Program.fail .retryIneligible
  | some record => do
      Program.ensure (record.IsEligible deliveryId) .retryIneligible
      let now ← ask .now
      storeSave custodian (record.retried now)
      let _ ← get custodian
      ask! .readHealth id

/-- `store.retry(deliveryId)`. -/
def retry (deliveryId : Int) : Task Unit :=
  withLock (retryBody custodian deliveryId)

end

/-- What the processes on a store root run. -/
inductive Command
  | cycle
  | retry (deliveryId : Int)

/-- The program of a command. -/
def code (custodian : Custodian) : Command → Task Unit
  | .cycle => do let _ ← cycle custodian
  | .retry deliveryId => retry custodian deliveryId

end Triangle.LinuxRuntime
