import Mathlib.Data.List.Dedup
import Triangle.Mailbox.Store
import Triangle.Semantics.Program

/-!
# The transaction service

The claim, reply and ack orchestration of `MailboxTransactionService` as
programs whose calls are the store operations and the requests to the server.
Peer text passes through a reply and is kept nowhere.
-/

namespace Triangle.Mailbox

open Triangle.Std Triangle.Semantics

/-- `MailboxTransactionServiceError`, or an error of the store that passes through. -/
inductive ServiceError
  | invalidInput
  | protocolMismatch
  | nestedClaim
  | roomMismatch
  | unrelatedAcknowledgement
  | transactionStuck
  | notOpen
  | invalidState
  | claimConflict
  | upstreamUnavailable
  | invalidUpstreamResponse
  | unverifiedReplyConflict
  | store (problem : StoreError)
  deriving DecidableEq

/-- Metadata of a pending delivery. -/
structure DeliveryCandidate where
  deliveryID : Int
  roomID : RoomId
  eventID : EventId
  roomSequence : Int
  admitText : Option String
  replyRequired : Bool

structure ClaimTransportResult where
  claimed : Bool
  claimID : String
  idempotent : Bool

inductive ReplyTransportResult
  | created (eventID : String)
  | idempotencyConflict

/-! ## Policy -/

/-- `MailboxPolicyEvaluator.Evaluation`. -/
structure Evaluation where
  protocolOwnership : TransactionProtocol
  openTransaction : Option OpenTransaction
  actionable : List DeliveryCandidate
  suppressedDeliveryIDs : List Int
  transactionStuck : Bool
  shouldStartModel : Bool

/-- `Array(Set(ids)).sorted()`. -/
def sortedSet (ids : List Int) : List Int :=
  ids.dedup.insertionSort (· ≤ ·)

/-- `MailboxPolicyEvaluator.evaluate`. While a transaction is open only its
delivery may progress. -/
def evaluate (protocolOwnership : TransactionProtocol) (candidates : List DeliveryCandidate)
    (openTransaction : Option OpenTransaction) (quarantined : List Quarantined) :
    Except StoreError Evaluation :=
  let quarantinedIDs := sortedSet
    ((quarantined.filter fun entry => entry.protocolOwnership = protocolOwnership).map
      Quarantined.deliveryID)
  match openTransaction with
  | some current =>
      if current.protocolOwnership = protocolOwnership then
        let others := (candidates.map DeliveryCandidate.deliveryID).filter (· ≠ current.deliveryID)
        .ok
          { protocolOwnership
            openTransaction := some current
            actionable :=
              if current.isStuck then []
              else candidates.filter fun candidate =>
                candidate.deliveryID = current.deliveryID ∧ candidate.roomID = current.roomID
            suppressedDeliveryIDs := sortedSet (quarantinedIDs ++ others)
            transactionStuck := current.isStuck
            shouldStartModel := !current.isStuck && current.state ≠ .replied }
      else .error .protocolMismatch
  | none =>
      let actionable := candidates.filter fun candidate => candidate.deliveryID ∉ quarantinedIDs
      .ok
        { protocolOwnership
          openTransaction := none
          actionable
          suppressedDeliveryIDs := quarantinedIDs
          transactionStuck := false
          shouldStartModel := !actionable.isEmpty }

/-- `actionable.min(by: { $0.deliveryID < $1.deliveryID })`. -/
def nextActionable : List DeliveryCandidate → Option DeliveryCandidate
  | [] => none
  | first :: rest =>
      some (rest.foldl (fun least candidate =>
        if candidate.deliveryID < least.deliveryID then candidate else least) first)

/-- The secret-free payload of a command: the evaluation, and the fields that
commands add to it. -/
structure Status where
  evaluation : Evaluation
  quarantined : List Quarantined
  replyRequired : Option Bool := none
  actionableWorkPending : Bool := false
  receiptOnly : Bool := false
  admitText : Option String := none

/-! ## Calls -/

/-- The calls of the service. -/
inductive Call
  | readOpen
  | prepare (transaction : OpenTransaction)
  | replace (transaction : OpenTransaction)
  | clear (expectedDeliveryID : Option Int)
  | abandon
  | listQuarantined
  | now
  | listPendingCandidates
  | claim (deliveryID : Int) (claimID : String)
  | sendReply (roomID : RoomId) (idempotencyKey text : String) (inReplyToEventID : Option EventId)
  | lookupReplyEventID (roomID : RoomId) (idempotencyKey : String)
  | acknowledge (deliveryID : Int) (claimID : String)

/-- What a call answers; a transport error carries nothing that the service uses. -/
@[reducible] def Answer : Call → Type
  | .readOpen => Except StoreError (Option OpenTransaction)
  | .prepare _ => Except StoreError Unit
  | .replace _ => Except StoreError Unit
  | .clear _ => Except StoreError Unit
  | .abandon => Except StoreError Quarantined
  | .listQuarantined => Except StoreError (List Quarantined)
  | .now => String
  | .listPendingCandidates => Except Unit (List DeliveryCandidate)
  | .claim _ _ => Except Unit ClaimTransportResult
  | .sendReply _ _ _ _ => Except Unit ReplyTransportResult
  | .lookupReplyEventID _ _ => Except Unit (Option String)
  | .acknowledge _ _ => Except Unit Unit

/-- A command of the service. -/
abbrev Service := Program Call Answer ServiceError

def readOpen : Service (Option OpenTransaction) :=
  Program.attempt .readOpen id ServiceError.store

def listQuarantined : Service (List Quarantined) :=
  Program.attempt .listQuarantined id ServiceError.store

def replace (transaction : OpenTransaction) : Service Unit :=
  Program.attempt (.replace transaction) id ServiceError.store

def clear (expectedDeliveryID : Int) : Service Unit :=
  Program.attempt (.clear (some expectedDeliveryID)) id ServiceError.store

/-- A record operation or an evaluation; what it throws passes through. -/
def checked {α : Type} (result : Except StoreError α) : Service α :=
  Program.ofExcept (result.mapError ServiceError.store)

def listPendingCandidates : Service (List DeliveryCandidate) :=
  Program.attempt .listPendingCandidates id fun _ => .upstreamUnavailable

def acknowledgeUpstream (transaction : OpenTransaction) : Service Unit :=
  Program.attempt (.acknowledge transaction.deliveryID transaction.claimID) id
    fun _ => .upstreamUnavailable

section

variable (sha256Hex : String → String) (instanceID : ClientInstanceId)

/-! ## Commands -/

def finishClaim (prepared : OpenTransaction) : Service OpenTransaction := do
  let result ← Program.attempt (.claim prepared.deliveryID prepared.claimID) id
    fun _ => .upstreamUnavailable
  Program.ensure (result.claimed = true) .claimConflict
  Program.ensure (result.claimID = prepared.claimID) .invalidUpstreamResponse
  let claimed ← checked (prepared.markingClaimed sha256Hex)
  replace claimed
  pure claimed

/-- The first part of `claim`, with a record open already. -/
def resumeClaim (existing : OpenTransaction) (protocolOwnership : TransactionProtocol)
    (deliveryID : Int) (roomID : RoomId) : Service OpenTransaction := do
  Program.ensure (existing.protocolOwnership = protocolOwnership) .protocolMismatch
  Program.ensure (existing.deliveryID = deliveryID ∧ existing.roomID = roomID) .nestedClaim
  Program.ensure (existing.isStuck = false) .transactionStuck
  -- Idempotent resume of the same open claim.
  if existing.state = .prepared then finishClaim sha256Hex existing else pure existing

/-- The second part of `claim`: a new record. -/
def startClaim (protocolOwnership : TransactionProtocol) (deliveryID : Int) (roomID : RoomId)
    (inboundEventID : Option EventId) (inboundRoomSequence : Option Int) (replyRequired : Bool) :
    Service OpenTransaction := do
  let createdAt ← Program.request .now
  let prepared ← checked <| OpenTransaction.make sha256Hex
    { instanceID, protocolOwnership, deliveryID, roomID, inboundEventID, inboundRoomSequence,
      replyRequired, claimID := "", replyIdempotencyKey := "", state := .prepared,
      replyEventID := none, replyResolution := .none, failureCount := 0,
      lastFailureReason := none, createdAt }
  Program.attempt (.prepare prepared) id ServiceError.store
  finishClaim sha256Hex prepared

def claim (protocolOwnership : TransactionProtocol) (deliveryID : Int) (roomID : RoomId)
    (inboundEventID : Option EventId) (inboundRoomSequence : Option Int) (replyRequired : Bool) :
    Service OpenTransaction := do
  match ← readOpen with
  | some existing => resumeClaim sha256Hex existing protocolOwnership deliveryID roomID
  | none =>
      startClaim sha256Hex instanceID protocolOwnership deliveryID roomID inboundEventID
        inboundRoomSequence replyRequired

def settleReceiptOnly (transaction : OpenTransaction) (quarantined : List Quarantined)
    (remainingCandidates : List DeliveryCandidate) : Service Status := do
  Program.ensure (transaction.state = .claimed ∧ transaction.replyRequired = false) .invalidState
  acknowledgeUpstream transaction
  clear transaction.deliveryID
  let evaluation ←
    checked (evaluate transaction.protocolOwnership remainingCandidates none quarantined)
  pure { evaluation, quarantined, replyRequired := some false, receiptOnly := true }

/-- `drainReceipts` with a record open. -/
def drainOpen (current : OpenTransaction) (protocolOwnership : TransactionProtocol) :
    Service Status := do
  Program.ensure (current.protocolOwnership = protocolOwnership) .protocolMismatch
  Program.ensure (current.isStuck = false) .transactionStuck
  let quarantined ← listQuarantined
  if current.replyRequired = false then settleReceiptOnly current quarantined []
  else
    let evaluation ← checked (evaluate protocolOwnership [] (some current) quarantined)
    pure { evaluation, quarantined, replyRequired := some true, actionableWorkPending := true }

/-- `drainReceipts` without a record open. -/
def drainPending (protocolOwnership : TransactionProtocol) : Service Status := do
  let candidates ← listPendingCandidates
  let quarantined ← listQuarantined
  let evaluation ← checked (evaluate protocolOwnership candidates none quarantined)
  match nextActionable evaluation.actionable with
  | none => pure { evaluation, quarantined }
  | some next =>
      -- Single-claimer invariant: an item that requires a reply is not claimed here.
      if next.replyRequired then
        pure { evaluation, quarantined, replyRequired := some true, actionableWorkPending := true,
               admitText := next.admitText }
      else
        let claimed ← claim sha256Hex instanceID protocolOwnership next.deliveryID next.roomID
          (some next.eventID) (some next.roomSequence) false
        settleReceiptOnly claimed quarantined
          (candidates.filter fun candidate => candidate.deliveryID ≠ next.deliveryID)

def drainReceipts (protocolOwnership : TransactionProtocol) : Service Status := do
  match ← readOpen with
  | some current => drainOpen current protocolOwnership
  | none => drainPending sha256Hex instanceID protocolOwnership

/-- `claimNext` with a record open. -/
def resumeNext (current : OpenTransaction) (protocolOwnership : TransactionProtocol)
    (allowedRoomID : Option RoomId) : Service Status := do
  Program.ensure (current.protocolOwnership = protocolOwnership) .protocolMismatch
  Program.ensure (current.isStuck = false) .transactionStuck
  Program.ensure (∀ allowed ∈ allowedRoomID, current.roomID = allowed) .roomMismatch
  let quarantined ← listQuarantined
  if current.replyRequired = false then settleReceiptOnly current quarantined []
  else
    let evaluation ← checked (evaluate protocolOwnership [] (some current) quarantined)
    pure { evaluation, quarantined }

/-- `claimNext` without a record open. -/
def claimPending (protocolOwnership : TransactionProtocol) (allowedRoomID : Option RoomId) :
    Service Status := do
  let candidates ← listPendingCandidates
  let inScope := match allowedRoomID with
    | some allowed => candidates.filter fun candidate => candidate.roomID = allowed
    | none => candidates
  let quarantined ← listQuarantined
  let evaluation ← checked (evaluate protocolOwnership inScope none quarantined)
  match nextActionable evaluation.actionable with
  | none => pure { evaluation, quarantined }
  | some next =>
      let claimed ← claim sha256Hex instanceID protocolOwnership next.deliveryID next.roomID
        (some next.eventID) (some next.roomSequence) next.replyRequired
      if next.replyRequired = false then
        settleReceiptOnly claimed quarantined
          (inScope.filter fun candidate => candidate.deliveryID ≠ next.deliveryID)
      else
        let afterClaim ← checked (evaluate protocolOwnership inScope (some claimed) quarantined)
        pure { evaluation := afterClaim, quarantined, replyRequired := some true,
               admitText := next.admitText }

/-- List, preflight, claim the next actionable delivery, or resume an open claim. -/
def claimNext (protocolOwnership : TransactionProtocol) (allowedRoomID : Option RoomId) :
    Service Status := do
  match ← readOpen with
  | some current => resumeNext current protocolOwnership allowedRoomID
  | none => claimPending sha256Hex instanceID protocolOwnership allowedRoomID

/-- `text` of 1 to 32768 bytes. -/
def isReplyText (text : String) : Bool :=
  !text.isEmpty && text.utf8ByteSize ≤ 32 * 1024

/-- A committed reply of the server: one it created, or after a conflict the
one its room history holds under the key. -/
def commitReply (current : OpenTransaction) (text : String) (inReplyToEventID : Option EventId) :
    Service OpenTransaction := do
  let result ← Program.attempt
    (.sendReply current.roomID current.replyIdempotencyKey text
      (inReplyToEventID.orElse fun _ => current.inboundEventID))
    id fun _ => .upstreamUnavailable
  match result with
  | .created raw =>
      match EventId.ofRaw raw with
      | some eventID => checked (current.markingReplied sha256Hex eventID .created)
      | none => Program.fail .invalidUpstreamResponse
  | .idempotencyConflict =>
      let recovered ← Program.attempt
        (.lookupReplyEventID current.roomID current.replyIdempotencyKey) id
        fun _ => .unverifiedReplyConflict
      match recovered.bind EventId.ofRaw with
      | some eventID => checked (current.markingReplied sha256Hex eventID .idempotencyConflict)
      | none => Program.fail .unverifiedReplyConflict

def reply (protocolOwnership : TransactionProtocol) (roomID : RoomId) (text : String)
    (inReplyToEventID : Option EventId) : Service OpenTransaction := do
  Program.ensure (isReplyText text = true) .invalidInput
  match ← readOpen with
  | none => Program.fail .notOpen
  | some current =>
      Program.ensure (current.protocolOwnership = protocolOwnership) .protocolMismatch
      Program.ensure (current.roomID = roomID) .roomMismatch
      Program.ensure
        (∀ inbound ∈ current.inboundEventID, ∀ given ∈ inReplyToEventID, given = inbound)
        .invalidInput
      Program.ensure (current.isStuck = false) .transactionStuck
      if current.state = .replied then pure current
      else
        Program.ensure (current.state = .claimed) .invalidState
        let next ← commitReply sha256Hex current text inReplyToEventID
        replace next
        pure next

def acknowledge (protocolOwnership : TransactionProtocol) (deliveryID : Option Int) :
    Service Unit := do
  match ← readOpen with
  | none => Program.fail .notOpen
  | some current =>
      Program.ensure (current.protocolOwnership = protocolOwnership) .protocolMismatch
      Program.ensure (∀ delivery ∈ deliveryID, delivery = current.deliveryID)
        .unrelatedAcknowledgement
      -- A general ack requires a verified committed reply.
      Program.ensure (current.state = .replied ∧ current.replyEventID.isSome = true) .invalidState
      acknowledgeUpstream current
      clear current.deliveryID

def recordFailure (protocolOwnership : TransactionProtocol) (reason : String) :
    Service OpenTransaction := do
  match ← readOpen with
  | none => Program.fail .notOpen
  | some current =>
      Program.ensure (current.protocolOwnership = protocolOwnership) .protocolMismatch
      let next ← checked (current.recordingFailure sha256Hex reason)
      replace next
      Program.ensure (next.isStuck = false) .transactionStuck
      pure next

def abandon (protocolOwnership : TransactionProtocol) : Service Quarantined := do
  match ← readOpen with
  | none => Program.fail .notOpen
  | some current =>
      Program.ensure (current.protocolOwnership = protocolOwnership) .protocolMismatch
      Program.attempt .abandon id ServiceError.store

/-- The commands with their arguments. -/
inductive Command
  | claimNext (protocolOwnership : TransactionProtocol) (allowedRoomID : Option RoomId)
  | drainReceipts (protocolOwnership : TransactionProtocol)
  | claim (protocolOwnership : TransactionProtocol) (deliveryID : Int) (roomID : RoomId)
      (inboundEventID : Option EventId) (inboundRoomSequence : Option Int) (replyRequired : Bool)
  | reply (protocolOwnership : TransactionProtocol) (roomID : RoomId) (text : String)
      (inReplyToEventID : Option EventId)
  | acknowledge (protocolOwnership : TransactionProtocol) (deliveryID : Option Int)
  | recordFailure (protocolOwnership : TransactionProtocol) (reason : String)
  | abandon (protocolOwnership : TransactionProtocol)

/-- What a command returns. -/
inductive Outcome
  | status (payload : Status)
  | transaction (record : OpenTransaction)
  | acknowledged
  | quarantined (entry : Quarantined)

/-- The program of a command. -/
def code : Command → Service Outcome
  | .claimNext protocolOwnership allowedRoomID => do
      pure (.status (← claimNext sha256Hex instanceID protocolOwnership allowedRoomID))
  | .drainReceipts protocolOwnership => do
      pure (.status (← drainReceipts sha256Hex instanceID protocolOwnership))
  | .claim protocolOwnership deliveryID roomID inboundEventID inboundRoomSequence replyRequired =>
      do pure (.transaction (← claim sha256Hex instanceID protocolOwnership deliveryID roomID
        inboundEventID inboundRoomSequence replyRequired))
  | .reply protocolOwnership roomID text inReplyToEventID => do
      pure (.transaction (← reply sha256Hex protocolOwnership roomID text inReplyToEventID))
  | .acknowledge protocolOwnership deliveryID => do
      acknowledge protocolOwnership deliveryID
      pure .acknowledged
  | .recordFailure protocolOwnership reason => do
      pure (.transaction (← recordFailure sha256Hex protocolOwnership reason))
  | .abandon protocolOwnership => do
      pure (.quarantined (← abandon protocolOwnership))

end

end Triangle.Mailbox
