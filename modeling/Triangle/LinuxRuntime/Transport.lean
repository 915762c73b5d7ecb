import Triangle.LinuxRuntime.Store
import Triangle.Semantics.Program

/-!
# The trusted transport

The calls of a custodian, and the functions of `transport.mjs` over them: each
checks what it sends and what it gets back. A call is an HTTP request, a step of
the journal, the lock or the lease, a clock reading, or a run of the runner.
-/

namespace Triangle.LinuxRuntime

open Triangle.Std Triangle.Semantics

/-- Why a cycle or a retry throws. The first is the error with the code
`invalid_authority_response`. -/
inductive CustodianError
  | invalidAuthorityResponse
  | requestFailed
  | invalidTransactionBinding
  | unverifiedAck
  | ownershipLost
  | aborted
  | storeLocked
  | storeFailed
  | invalidJournal
  | retryIneligible
  deriving DecidableEq

/-- `body.replyRequired` of an event. -/
inductive ReplyRequired
  | missing
  | flag (value : Bool)
  | other
  deriving DecidableEq

/-- An event of a room, as far as the transport reads it. -/
structure Event where
  id : String
  roomId : String
  sequence : Int
  type : String
  senderAgentId : String
  idempotency_key : Option String
  idempotencyKey : Option String
  text : Option String
  replyRequired : ReplyRequired
  inReplyToEventId : Option String
  deriving DecidableEq

/-- What the runner is given. -/
structure Inbound where
  messageId : String
  taskId : String
  contextId : String
  senderId : String
  recipientId : String
  text : String
  replyRequired : Bool

/-- How a run of the runner ends: with a result, or with an error that it knows to
be a failure or not. -/
inductive RunAnswer
  | result (status : String) (text : Option String)
  | failed (knownFailure : Bool)

/-- `state` of the health file. -/
inductive Health
  | idle
  | working
  | completed
  | quarantined
  | failed
  | paused
  | ownershipLost

/-! ## Calls -/

/-- The calls of a custodian. -/
inductive Call
  | lock
  | unlock
  | throwIfAborted
  | now
  | readJournal
  | writeJournal (record : Record)
  | removeJournal
  | writeHealth (state : Health)
  | readHealth
  | verify
  | listMailbox
  | claimDelivery (record : Record)
  | schedule (record : Record) (leaseExpiresAt : Int)
  | assertOwner
  | signals
  | endLease
  | history (record : Record) (after : Int) (limit : Nat)
  | postEvent (record : Record) (text : String)
  | ackDelivery (record : Record)
  | run (record : Record) (inbound : Inbound)

/-- What a call answers: `assertOwner` whether the lease is still held, `signals`
whether the signals of the cycle and of the lease are aborted. -/
@[reducible] def Answer : Call → Type
  | .lock => Bool
  | .unlock => Unit
  | .throwIfAborted => Bool
  | .now => Int
  | .readJournal => Except CustodianError (Option Record)
  | .writeJournal _ => Except CustodianError Unit
  | .removeJournal => Except CustodianError Unit
  | .writeHealth _ => Except CustodianError Unit
  | .readHealth => Except CustodianError Unit
  | .verify => Except CustodianError Unit
  | .listMailbox => Except CustodianError (List Delivery)
  | .claimDelivery _ => Except CustodianError Int
  | .schedule _ _ => Unit
  | .assertOwner => Bool
  | .signals => Bool × Bool
  | .endLease => Unit
  | .history _ _ _ => Except CustodianError (List Event)
  | .postEvent _ _ => Except CustodianError (Option Event)
  | .ackDelivery _ => Except CustodianError Int
  | .run _ _ => RunAnswer

/-- A part of a cycle or a retry. -/
abbrev Task := Program Call Answer CustodianError

/-- One call. -/
def ask {ε : Type} (request : Call) : Program Call Answer ε (Answer request) :=
  Program.request request

/-- One call that may throw. -/
def ask! {α : Type} (request : Call) (read : Answer request → Except CustodianError α) : Task α :=
  Program.attempt request read id

/-! ## What the transport checks -/

/-- `t.trim() && Buffer.byteLength(t) <= 32768`. -/
def bounded (text : String) : Bool :=
  !Text.isBlank text && text.utf8ByteSize ≤ 32768

/-- `eventKey(event)`: it throws when the two spellings differ. -/
def Event.eventKey (event : Event) : Except CustodianError (Option String) :=
  match event.idempotency_key, event.idempotencyKey with
  | some first, some second => if first = second then .ok (some first) else .error .invalidAuthorityResponse
  | some first, none => .ok (some first)
  | none, second => .ok second

/-- The idempotency key of an event, when it has one. -/
def Event.key? (event : Event) : Option String :=
  match event.eventKey with
  | .ok key => key
  | .error _ => none

/-- `bound(r)`. -/
def Record.Transmits (record : Record) : Prop :=
  positive record.deliveryId = true ∧ ident "room" record.roomId = true ∧
    ident "event" record.eventId = true ∧ positive record.roomSequence = true ∧
    ident "claim" record.claimId = true ∧ ident "reply" record.replyKey = true

instance (record : Record) : Decidable record.Transmits :=
  inferInstanceAs (Decidable (_ ∧ _ ∧ _ ∧ _ ∧ _ ∧ _))

section

variable (custodian : Custodian) (record : Record)

/-- The event is the reply of this delivery with the journalled text. -/
structure IsReply (event : Event) : Prop where
  id : ident "event" event.id = true
  room : event.roomId = record.roomId
  sequence : positive event.sequence = true
  later : record.roomSequence < event.sequence
  type : event.type = "message.created"
  sender : event.senderAgentId = custodian.agentId
  key : event.eventKey = .ok (some record.replyKey)
  replyRequired : event.replyRequired = .flag false
  inReplyTo : event.inReplyToEventId = some record.eventId
  text : ∃ text ∈ event.text, bounded text = true ∧ record.replyDigest = some (custodian.digest text)

/-- The event is one a delivery can hand to the runner. -/
structure IsInbound (event : Event) : Prop where
  id : event.id = record.eventId
  room : event.roomId = record.roomId
  sequence : event.sequence = record.roomSequence
  type : event.type = "message.created"
  sender : ident "agent" event.senderAgentId = true
  foreign : event.senderAgentId ≠ custodian.agentId
  text : ∃ text ∈ event.text, bounded text = true
  replyRequired : event.replyRequired ≠ .other

end

instance (custodian : Custodian) (record : Record) (event : Event) :
    Decidable (IsReply custodian record event) :=
  decidable_of_iff
    (ident "event" event.id = true ∧ event.roomId = record.roomId ∧
      positive event.sequence = true ∧ record.roomSequence < event.sequence ∧
      event.type = "message.created" ∧ event.senderAgentId = custodian.agentId ∧
      event.eventKey.toOption = some (some record.replyKey) ∧ event.replyRequired = .flag false ∧
      event.inReplyToEventId = some record.eventId ∧
      ∃ text ∈ event.text, bounded text = true ∧ record.replyDigest = some (custodian.digest text))
    ⟨fun ⟨id, room, sequence, later, type, sender, key, required, inReplyTo, text⟩ =>
      ⟨id, room, sequence, later, type, sender, by
        cases isKey : event.eventKey with
        | error problem => rw [isKey] at key; cases key
        | ok value => rw [isKey] at key; rw [Option.some.inj key], required, inReplyTo, text⟩,
      fun ⟨id, room, sequence, later, type, sender, key, required, inReplyTo, text⟩ =>
      ⟨id, room, sequence, later, type, sender, by rw [key]; rfl, required, inReplyTo, text⟩⟩

instance (custodian : Custodian) (record : Record) (event : Event) :
    Decidable (IsInbound custodian record event) :=
  decidable_of_iff
    (event.id = record.eventId ∧ event.roomId = record.roomId ∧
      event.sequence = record.roomSequence ∧ event.type = "message.created" ∧
      ident "agent" event.senderAgentId = true ∧ event.senderAgentId ≠ custodian.agentId ∧
      (∃ text ∈ event.text, bounded text = true) ∧ event.replyRequired ≠ .other)
    ⟨fun ⟨id, room, sequence, type, sender, foreign, text, required⟩ =>
      ⟨id, room, sequence, type, sender, foreign, text, required⟩,
      fun ⟨id, room, sequence, type, sender, foreign, text, required⟩ =>
      ⟨id, room, sequence, type, sender, foreign, text, required⟩⟩

section

variable (custodian : Custodian) (record : Record)

/-- `matchReply(r, e)`. -/
def matchReply (event : Option Event) : Except CustodianError String :=
  match event with
  | none => .error .invalidAuthorityResponse
  | some event =>
      if IsReply custodian record event then .ok event.id else .error .invalidAuthorityResponse

/-- The request for the runner out of an inbound event. -/
def inboundOf (event : Event) : Inbound where
  messageId := record.eventId
  taskId := record.eventId
  contextId := record.roomId
  senderId := event.senderAgentId
  recipientId := custodian.agentId
  text := event.text.getD ""
  replyRequired := event.replyRequired ≠ .flag false

/-- One page of a search for the reply: the event when it is there, else the last
sequence of the page. -/
def scanPage : Int → List Event → Except CustodianError (Option String × Int)
  | last, [] => .ok (none, last)
  | last, event :: rest =>
      if positive event.sequence = true ∧ last < event.sequence then
        match event.eventKey with
        | .error problem => .error problem
        | .ok key =>
            if key = some record.replyKey then
              (matchReply custodian record (some event)).map fun eventId => (some eventId, event.sequence)
            else scanPage event.sequence rest
      else .error .invalidAuthorityResponse

end

/-! ## Requests -/

/-- `verify()`. -/
def verify : Task Unit :=
  ask! .verify id

/-- `list()`. -/
def list : Task (List Delivery) := do
  let items ← ask! .listMailbox id
  Program.ensure (items.length ≤ 1 ∧ ∀ delivery ∈ items, delivery.IsValid) .invalidAuthorityResponse
  pure items

/-- `claim(r)`: the end of the lease. -/
def claim (record : Record) : Task Int := do
  Program.ensure record.Transmits .invalidTransactionBinding
  ask! (.claimDelivery record) id

/-- `history(r, after, limit)`. -/
def history (record : Record) (after : Int) (limit : Nat) : Task (List Event) := do
  let items ← ask! (.history record after limit) id
  Program.ensure (items.length ≤ limit) .invalidAuthorityResponse
  pure items

section

variable (custodian : Custodian) (record : Record)

/-- `inbound(r)`. -/
def inbound : Task Inbound := do
  Program.ensure record.Transmits .invalidTransactionBinding
  let items ← history record (record.roomSequence - 1) 1
  match items with
  | [] => Program.fail .invalidAuthorityResponse
  | event :: _ => do
      Program.ensure (IsInbound custodian record event) .invalidAuthorityResponse
      pure (inboundOf custodian record event)

/-- The pages of a search for the reply. -/
def findPages : Nat → Int → Task (Option String)
  | 0, _ => Program.fail .invalidAuthorityResponse
  | pages + 1, after => do
      let items ← history record after 100
      let (found, last) ← Program.ofExcept (scanPage custodian record after items)
      match found with
      | some eventId => pure (some eventId)
      | none => if items.length < 100 then pure none else findPages pages last

/-- `findReply(r)`. -/
def findReply : Task (Option String) := do
  Program.ensure record.Transmits .invalidTransactionBinding
  findPages custodian record 100 record.roomSequence

/-- `reply(r, text)`. -/
def reply (text : String) : Task String := do
  Program.ensure record.Transmits .invalidTransactionBinding
  Program.ensure (bounded text = true ∧ record.replyDigest = some (custodian.digest text))
    .invalidAuthorityResponse
  let event ← ask! (.postEvent record text) id
  Program.ofExcept (matchReply custodian record event)

/-- What `ack` asks of the record. -/
def Record.MayAck : Prop :=
  record.phase = .replied ∧
    (record.receiptOnly = some true ∨
      (∃ eventId ∈ record.replyEventId, ident "event" eventId = true) ∧ record.replyDigest.isSome = true)

instance : Decidable record.MayAck :=
  inferInstanceAs (Decidable (_ ∧ (_ ∨ _ ∧ _)))

/-- `ack(r)`. -/
def ack : Task Unit := do
  Program.ensure record.Transmits .invalidTransactionBinding
  Program.ensure record.MayAck .unverifiedAck
  let acknowledged ← ask! (.ackDelivery record) id
  Program.ensure (0 ≤ acknowledged ∧ acknowledged ≤ 1) .invalidAuthorityResponse

end

end Triangle.LinuxRuntime
