import Triangle.Std.Outcome
import Triangle.Std.Text

/-!
# Mailbox transaction records

The record of the one open transaction of a client instance, its three states,
and the changes the service makes to it. Each change builds the record anew, so
all checks of the initialiser run again. The identifiers of a claim and of a
reply are digests of the instance and the delivery; SHA-256 stays a parameter.
-/

namespace Triangle.Mailbox

open Triangle.Std

/-- Protocol ownership of an open transaction. -/
inductive TransactionProtocol
  | selfServeDrain
  | coordinatorDeliveryV1
  deriving DecidableEq

inductive TransactionState
  | prepared
  | claimed
  | replied
  deriving DecidableEq

inductive ReplyResolution
  | none
  | created
  | idempotencyConflict
  deriving DecidableEq

/-- `MailboxTransactionStoreError`. -/
inductive StoreError
  | notFound
  | alreadyOpen
  | unsafeStorage
  | invalidRecord
  | invalidTransition
  | protocolMismatch
  | nestedClaim
  | unrelatedAcknowledgement
  | transactionStuck
  deriving DecidableEq

/-- `/^[a-f0-9]{64}$/`. -/
structure ClientInstanceId where
  value : String
  valid : Text.isHex64 value = true
  deriving DecidableEq

/-- `/^room_[a-f0-9]{32}$/`. -/
structure RoomId where
  value : String
  valid : Text.matchesLedClass "room_" Text.isLowerHex 32 32 value = true
  deriving DecidableEq

/-- `/^event_[a-f0-9]{32}$/`. -/
structure EventId where
  value : String
  valid : Text.matchesLedClass "event_" Text.isLowerHex 32 32 value = true
  deriving DecidableEq

/-- `MailboxEventID(rawValue:)`. -/
def EventId.ofRaw (raw : String) : Option EventId :=
  if valid : Text.matchesLedClass "event_" Text.isLowerHex 32 32 raw = true then some ⟨raw, valid⟩
  else none

@[simp] theorem EventId.ofRaw_value (event : EventId) : EventId.ofRaw event.value = some event := by
  simp [EventId.ofRaw, event.valid]

/-- `/^[a-z][a-z0-9_]{0,63}$/`. -/
def isFailureReason (text : String) : Bool :=
  match text.toList with
  | first :: rest =>
      first.isLower && rest.length ≤ 63 && rest.all fun c => c.isLower || c.isDigit || c = '_'
  | [] => false

/-- `/^\d{4}-\d{2}-\d{2}T\d{2}:\d{2}:\d{2}(?:\.\d+)?Z$/`. -/
def isTimestamp (text : String) : Bool :=
  let chars := text.toList
  Text.matchesTemplate "dddd-dd-ddTdd:dd:dd".toList (chars.take 19) &&
    match chars.drop 19 with
    | '.' :: rest => !(rest.takeWhile Char.isDigit).isEmpty && rest.dropWhile Char.isDigit = ['Z']
    | rest => rest = ['Z']

section

variable (sha256Hex : String → String)

/-- The digest of an instance and a delivery under a domain. -/
def prefixedDigest (lead domain : String) (instanceID : ClientInstanceId) (deliveryID : Int) :
    String :=
  let separator := String.singleton (Char.ofNat 0)
  lead ++ String.ofList
    ((sha256Hex (domain ++ separator ++ instanceID.value ++ separator ++
      toString deliveryID)).toList.take 32)

def claimId (instanceID : ClientInstanceId) (deliveryID : Int) : String :=
  prefixedDigest sha256Hex "claim_" "triangle-claim-v1" instanceID deliveryID

def replyIdempotencyKey (instanceID : ClientInstanceId) (deliveryID : Int) : String :=
  prefixedDigest sha256Hex "reply_" "triangle-reply-v1" instanceID deliveryID

end

/-- Non-secret open transaction record (`open.json`). -/
structure OpenTransaction where
  instanceID : ClientInstanceId
  protocolOwnership : TransactionProtocol
  deliveryID : Int
  roomID : RoomId
  inboundEventID : Option EventId
  inboundRoomSequence : Option Int
  replyRequired : Bool
  claimID : String
  replyIdempotencyKey : String
  state : TransactionState
  replyEventID : Option EventId
  replyResolution : ReplyResolution
  failureCount : Nat
  lastFailureReason : Option String
  createdAt : String
  deriving DecidableEq

namespace OpenTransaction

/-- `maximumFailureCountBeforeStuck`. -/
def isStuck (transaction : OpenTransaction) : Bool :=
  5 ≤ transaction.failureCount

variable (sha256Hex : String → String)

/-- What the initialiser checks of the fields that a change may set. -/
def HasValidFields (transaction : OpenTransaction) : Prop :=
  0 < transaction.deliveryID ∧
    (transaction.inboundEventID.isNone = transaction.inboundRoomSequence.isNone ∧
      ∀ sequence ∈ transaction.inboundRoomSequence, 0 < sequence) ∧
    transaction.failureCount ≤ 10000 ∧
    (∀ reason ∈ transaction.lastFailureReason, isFailureReason reason = true) ∧
    isTimestamp transaction.createdAt = true

/-- The identifiers are those of the instance and the delivery. -/
def HasDerivedIds (transaction : OpenTransaction) : Prop :=
  transaction.claimID = claimId sha256Hex transaction.instanceID transaction.deliveryID ∧
    transaction.replyIdempotencyKey =
      Mailbox.replyIdempotencyKey sha256Hex transaction.instanceID transaction.deliveryID ∧
    Text.matchesLedClass "claim_" Text.isLowerHex 32 32 transaction.claimID = true ∧
    Text.matchesLedClass "reply_" Text.isLowerHex 32 32 transaction.replyIdempotencyKey = true

/-- A reply event stands exactly on a replied record, with how it was resolved. -/
def hasConsistentReply (transaction : OpenTransaction) : Bool :=
  match transaction.state, transaction.replyResolution, transaction.replyEventID with
  | .prepared, .none, none => true
  | .claimed, .none, none => true
  | .replied, .created, some _ => true
  | .replied, .idempotencyConflict, some _ => true
  | _, _, _ => false

instance (transaction : OpenTransaction) : Decidable transaction.HasValidFields :=
  inferInstanceAs (Decidable (_ ∧ _ ∧ _ ∧ _ ∧ _))

instance (transaction : OpenTransaction) : Decidable (transaction.HasDerivedIds sha256Hex) :=
  inferInstanceAs (Decidable (_ ∧ _ ∧ _ ∧ _))

/-- What decoding `open.json` checks. -/
def WellFormed (transaction : OpenTransaction) : Prop :=
  transaction.HasValidFields ∧ transaction.HasDerivedIds sha256Hex ∧
    transaction.hasConsistentReply = true

instance (transaction : OpenTransaction) : Decidable (transaction.WellFormed sha256Hex) :=
  inferInstanceAs (Decidable (_ ∧ _ ∧ _))

/-- The initialiser on the fields of a draft: it derives the identifiers. -/
def make (draft : OpenTransaction) : Except StoreError OpenTransaction := do
  require draft.HasValidFields .invalidRecord
  let transaction := { draft with
    claimID := claimId sha256Hex draft.instanceID draft.deliveryID
    replyIdempotencyKey := Mailbox.replyIdempotencyKey sha256Hex draft.instanceID draft.deliveryID }
  require (transaction.HasDerivedIds sha256Hex) .invalidRecord
  pure transaction

def markingClaimed (transaction : OpenTransaction) : Except StoreError OpenTransaction := do
  require (transaction.state = .prepared) .invalidTransition
  make sha256Hex { transaction with
    state := .claimed, replyEventID := none, replyResolution := .none }

def markingReplied (transaction : OpenTransaction) (eventID : EventId)
    (resolution : ReplyResolution) : Except StoreError OpenTransaction := do
  require (transaction.state = .claimed ∨ transaction.state = .replied) .invalidTransition
  require (resolution = .created ∨ resolution = .idempotencyConflict) .invalidRecord
  make sha256Hex { transaction with
    state := .replied, replyEventID := some eventID, replyResolution := resolution }

def recordingFailure (transaction : OpenTransaction) (reason : String) :
    Except StoreError OpenTransaction := do
  require (isFailureReason reason = true) .invalidRecord
  make sha256Hex { transaction with
    failureCount := min (transaction.failureCount + 1) 10000, lastFailureReason := some reason }

variable {sha256Hex} {transaction next : OpenTransaction}

/-- A record that was made is its draft with the derived identifiers. -/
theorem make_ok {draft : OpenTransaction} (made : make sha256Hex draft = .ok transaction) :
    transaction = { draft with
      claimID := claimId sha256Hex draft.instanceID draft.deliveryID
      replyIdempotencyKey := Mailbox.replyIdempotencyKey sha256Hex draft.instanceID draft.deliveryID } ∧
      transaction.HasValidFields ∧ transaction.HasDerivedIds sha256Hex := by
  unfold make at made
  rw [require_bind_ok] at made
  obtain ⟨fields, made⟩ := made
  rw [require_bind_ok, pure_ok] at made
  obtain ⟨derived, rfl⟩ := made
  exact ⟨rfl, fields, derived⟩

/-- Making a draft that carries derived identifiers already changes nothing. -/
theorem make_of_derived {draft : OpenTransaction} (fields : draft.HasValidFields)
    (derived : draft.HasDerivedIds sha256Hex) : make sha256Hex draft = .ok draft := by
  have same : { draft with
      claimID := claimId sha256Hex draft.instanceID draft.deliveryID
      replyIdempotencyKey :=
        Mailbox.replyIdempotencyKey sha256Hex draft.instanceID draft.deliveryID } = draft := by
    rw [← derived.1, ← derived.2.1]
  unfold make
  rw [require_bind_ok, require_bind_ok, pure_ok, same]
  exact ⟨fields, derived, rfl⟩

end OpenTransaction

end Triangle.Mailbox
