import Triangle.Mailbox.Models

/-!
# The journal of the linux custodian

One transaction record in `transaction.json`, the checks `store.mjs` makes on it
whenever it is read or saved, and the record that an operator's retry writes.
The record names a delivery, and its identifiers are the digests of the
instance and that delivery. SHA-256 stays a parameter.
-/

namespace Triangle.LinuxRuntime

open Triangle.Std

/-- `new RegExp("^" + lead + "_[a-f0-9]{32}$").test(value)`. -/
def ident (lead value : String) : Bool :=
  Text.matchesLedClass (lead ++ "_") Text.isLowerHex 32 32 value

/-- `Number.isSafeInteger(n) && n > 0`. -/
def positive (n : Int) : Bool :=
  0 < n && n ≤ 9007199254740991

/-- What a custodian is created with. -/
structure Custodian where
  sha256Hex : String → String
  agentId : String
  instanceId : Mailbox.ClientInstanceId
  isAgent : ident "agent" agentId = true

/-- `replyDigest(text)`. -/
def Custodian.digest (custodian : Custodian) (text : String) : String :=
  custodian.sha256Hex text

/-- `deriveTrustedClaimId(instanceId, deliveryId)`. -/
def Custodian.deriveTrustedClaimId (custodian : Custodian) (deliveryId : Int) : String :=
  Mailbox.claimId custodian.sha256Hex custodian.instanceId deliveryId

/-- `deriveTrustedReplyIdempotencyKey(instanceId, deliveryId)`. -/
def Custodian.deriveTrustedReplyIdempotencyKey (custodian : Custodian) (deliveryId : Int) :
    String :=
  Mailbox.replyIdempotencyKey custodian.sha256Hex custodian.instanceId deliveryId

inductive Phase
  | prepared
  | claimed
  | executing
  | failed
  | replying
  | replied
  | quarantined
  deriving DecidableEq

inductive Reason
  | unknownExecution
  | runnerFailed
  | invalidRunnerResult
  | replyUnresolved
  deriving DecidableEq

/-- The record of the open transaction. A field that is `null` or missing is `none`. -/
structure Record where
  schema : Nat
  agentId : String
  instanceId : String
  deliveryId : Int
  roomId : String
  eventId : String
  roomSequence : Int
  claimId : String
  replyKey : String
  phase : Phase
  replyDigest : Option String
  replyEventId : Option String
  failureCount : Nat
  reason : Option Reason
  createdAt : Int
  updatedAt : Int
  nextAttemptAt : Option Int
  receiptOnly : Option Bool
  deriving DecidableEq

/-- The record names this delivery of this custodian and carries its identifiers. -/
structure Record.IsBound (custodian : Custodian) (record : Record) : Prop where
  schema : record.schema = 1
  agent : record.agentId = custodian.agentId
  client : record.instanceId = custodian.instanceId.value
  delivery : positive record.deliveryId = true
  room : ident "room" record.roomId = true
  event : ident "event" record.eventId = true
  sequence : positive record.roomSequence = true
  claim : record.claimId = custodian.deriveTrustedClaimId record.deliveryId
  reply : record.replyKey = custodian.deriveTrustedReplyIdempotencyKey record.deliveryId

instance (custodian : Custodian) (record : Record) : Decidable (record.IsBound custodian) :=
  decidable_of_iff
    (record.schema = 1 ∧ record.agentId = custodian.agentId ∧
      record.instanceId = custodian.instanceId.value ∧ positive record.deliveryId = true ∧
      ident "room" record.roomId = true ∧ ident "event" record.eventId = true ∧
      positive record.roomSequence = true ∧
      record.claimId = custodian.deriveTrustedClaimId record.deliveryId ∧
      record.replyKey = custodian.deriveTrustedReplyIdempotencyKey record.deliveryId)
    ⟨fun ⟨schema, agent, client, delivery, room, event, sequence, claim, reply⟩ =>
      ⟨schema, agent, client, delivery, room, event, sequence, claim, reply⟩,
      fun ⟨schema, agent, client, delivery, room, event, sequence, claim, reply⟩ =>
      ⟨schema, agent, client, delivery, room, event, sequence, claim, reply⟩⟩

/-- `check(r)`: whenever the journal is read or saved. -/
structure Record.Checked (custodian : Custodian) (record : Record) : Prop where
  bound : record.IsBound custodian
  failures : record.failureCount ≤ 9007199254740991
  digest : ∀ digest ∈ record.replyDigest, Text.isHex64 digest = true
  replyEvent : ∀ eventId ∈ record.replyEventId, ident "event" eventId = true

instance (custodian : Custodian) (record : Record) : Decidable (record.Checked custodian) :=
  decidable_of_iff
    (record.IsBound custodian ∧ record.failureCount ≤ 9007199254740991 ∧
      (∀ digest ∈ record.replyDigest, Text.isHex64 digest = true) ∧
      ∀ eventId ∈ record.replyEventId, ident "event" eventId = true)
    ⟨fun ⟨bound, failures, digest, replyEvent⟩ => ⟨bound, failures, digest, replyEvent⟩,
      fun ⟨bound, failures, digest, replyEvent⟩ => ⟨bound, failures, digest, replyEvent⟩⟩

/-- A delivery as the mailbox lists it. -/
structure Delivery where
  deliveryId : Int
  roomId : String
  eventId : String
  roomSequence : Int
  deriving DecidableEq

/-- What `list` checks of an item. -/
def Delivery.IsValid (delivery : Delivery) : Prop :=
  positive delivery.deliveryId = true ∧ ident "room" delivery.roomId = true ∧
    ident "event" delivery.eventId = true ∧ positive delivery.roomSequence = true

instance (delivery : Delivery) : Decidable delivery.IsValid :=
  inferInstanceAs (Decidable (_ ∧ _ ∧ _ ∧ _))

/-- The first record of a delivery. -/
def Custodian.prepared (custodian : Custodian) (delivery : Delivery) (createdAt updatedAt : Int) :
    Record where
  schema := 1
  agentId := custodian.agentId
  instanceId := custodian.instanceId.value
  deliveryId := delivery.deliveryId
  roomId := delivery.roomId
  eventId := delivery.eventId
  roomSequence := delivery.roomSequence
  claimId := custodian.deriveTrustedClaimId delivery.deliveryId
  replyKey := custodian.deriveTrustedReplyIdempotencyKey delivery.deliveryId
  phase := .prepared
  replyDigest := none
  replyEventId := none
  failureCount := 0
  reason := none
  createdAt := createdAt
  updatedAt := updatedAt
  nextAttemptAt := none
  receiptOnly := none

/-- The record that a retry writes: the failures and `receiptOnly` stay. -/
def Record.retried (record : Record) (now : Int) : Record :=
  { record with
    phase := .prepared, reason := none, nextAttemptAt := some 0, replyDigest := none,
    replyEventId := none, updatedAt := now }

/-- The record changed by `save(r, phase, extra)`, where `extra` has been applied. -/
def Record.enter (record : Record) (phase : Phase) (now : Int) : Record :=
  { record with phase, updatedAt := now }

variable {custodian : Custodian} {record : Record}

/-- The first record of a valid delivery can be saved. -/
theorem prepared_checked {delivery : Delivery} (valid : delivery.IsValid)
    (createdAt updatedAt : Int) :
    (custodian.prepared delivery createdAt updatedAt).Checked custodian where
  bound := ⟨rfl, rfl, rfl, valid.1, valid.2.1, valid.2.2.1, valid.2.2.2, rfl, rfl⟩
  failures := Nat.zero_le _
  digest _ member := nomatch member
  replyEvent _ member := nomatch member

/-- The fields that name the delivery. -/
def Record.SameDelivery (record other : Record) : Prop :=
  other.schema = record.schema ∧ other.agentId = record.agentId ∧
    other.instanceId = record.instanceId ∧ other.deliveryId = record.deliveryId ∧
    other.roomId = record.roomId ∧ other.eventId = record.eventId ∧
    other.roomSequence = record.roomSequence ∧ other.claimId = record.claimId ∧
    other.replyKey = record.replyKey

/-- A record that is saved in another phase is of the same delivery. -/
theorem Record.enter_same (record : Record) (phase : Phase) (now : Int) :
    record.SameDelivery (record.enter phase now) :=
  ⟨rfl, rfl, rfl, rfl, rfl, rfl, rfl, rfl, rfl⟩

/-- A retried record is of the same delivery. -/
theorem Record.retried_same (record : Record) (now : Int) :
    record.SameDelivery (record.retried now) :=
  ⟨rfl, rfl, rfl, rfl, rfl, rfl, rfl, rfl, rfl⟩

/-- A record of the same delivery is bound as well. -/
theorem Record.IsBound.same {other : Record} (bound : record.IsBound custodian)
    (same : record.SameDelivery other) : other.IsBound custodian := by
  obtain ⟨schema, agent, client, delivery, room, event, sequence, claim, reply⟩ := same
  constructor
  · rw [schema, bound.schema]
  · rw [agent, bound.agent]
  · rw [client, bound.client]
  · rw [delivery, bound.delivery]
  · rw [room, bound.room]
  · rw [event, bound.event]
  · rw [sequence, bound.sequence]
  · rw [claim, delivery, bound.claim]
  · rw [reply, delivery, bound.reply]

/-- A retried record can be saved. -/
theorem Record.Checked.retried (checked : record.Checked custodian) (now : Int) :
    (record.retried now).Checked custodian where
  bound := checked.bound.same (record.retried_same now)
  failures := checked.failures
  digest _ member := nomatch member
  replyEvent _ member := nomatch member

end Triangle.LinuxRuntime
