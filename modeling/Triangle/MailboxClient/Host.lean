import Triangle.MailboxClient.Client
import Triangle.Std.Table

/-!
# One client and its server

The memory that the operations of a client share, the server as the client
relies on it, and the machine of all interleavings. The server numbers
deliveries in the order of their arrival and lists exactly the pending ones
above a cursor; other workers claim and acknowledge there too, and a claim that
expires makes its delivery pending again. `acknowledged` is the history of the
acknowledgements that the server confirmed to this client.
-/

namespace Triangle.MailboxClient

open Triangle.Std Triangle.Semantics

/-! ## Memory -/

/-- An entry of `retryDeliveries`. -/
structure Retry where
  deliveryId : Nat
  message : Nat
  deriving DecidableEq

/-- An entry of `quarantinedDeliveries`. -/
structure Quarantined where
  deliveryId : Nat
  reason : String
  quarantinedAt : String
  message : Option Nat

/-- The variables of `createMailboxClient`, and the messages it has created. -/
structure Memory where
  listAfterCursor : Nat
  retryDeliveries : Table Retry.deliveryId
  quarantinedDeliveries : Table Quarantined.deliveryId
  listFailureCounts : Nat → Nat
  discardClaims : Nat → Option String
  activeDeliveries : Nat → Bool
  messages : List Message

namespace Memory

variable (memory : Memory)

def advanceListCursor (deliveryId : Nat) : Memory :=
  if memory.listAfterCursor < deliveryId then { memory with listAfterCursor := deliveryId }
  else memory

def isQuarantined (deliveryId : Nat) : Bool :=
  (memory.quarantinedDeliveries.find? deliveryId).isSome

def deleteRetry (deliveryId : Nat) : Memory :=
  { memory with
    retryDeliveries := memory.retryDeliveries.delete fun retry => retry.deliveryId = deliveryId }

def setRetry (deliveryId message : Nat) : Memory :=
  { memory with retryDeliveries := memory.retryDeliveries.upsert ⟨deliveryId, message⟩ }

def clearListFailures (deliveryId : Nat) : Memory :=
  { memory with listFailureCounts := Function.update memory.listFailureCounts deliveryId 0 }

def quarantineDelivery (deliveryId : Nat) (reason : String) (message : Option Nat)
    (quarantinedAt : String) : Memory :=
  let advanced :=
    ((memory.deleteRetry deliveryId).clearListFailures deliveryId).advanceListCursor deliveryId
  { advanced with quarantinedDeliveries :=
      advanced.quarantinedDeliveries.upsert { deliveryId, reason, quarantinedAt, message } }

/-- The messages in custody whose delivery is not quarantined. -/
def retries : List Nat :=
  (memory.retryDeliveries.rows.map Retry.message).filter fun ref =>
    match memory.messages[ref]? with
    | some message => !memory.isQuarantined message.id
    | none => false

def createMessage (recipientId : String) (delivery : Delivery) (event : RoomEvent)
    (claimId : String) : Memory :=
  { memory with messages := memory.messages ++
      [{ messageId := event.id, taskId := event.id, contextId := event.roomId,
         senderId := event.senderId, recipientId, text := event.text,
         replyRequired := event.replyRequired, metadata := { delivery, claimId } }] }

def changeMetadata (ref : Nat) (change : MetadataChange) : Memory :=
  { memory with messages := memory.messages.modify ref fun message =>
      { message with metadata := change.apply message.metadata } }

end Memory

/-! ## Server -/

inductive Standing
  | pending
  | claimed (claimId : String)
  | acknowledged
  deriving DecidableEq

structure Server where
  issued : List Delivery
  standing : Nat → Standing

namespace Server

variable (server : Server)

/-- The pending deliveries above the cursor, ascending. -/
def list (after limit : Nat) : List Delivery :=
  (server.issued.filter fun delivery =>
    after < delivery.id ∧ server.standing delivery.id = .pending).take limit

def setStanding (id : Nat) (standing : Standing) : Server :=
  { server with standing := Function.update server.standing id standing }

def conflict (mailboxError : String) : Failure where
  message := "Mailbox request failed with status 409"
  status := some 409
  mailboxError := some mailboxError

def claim (id : Nat) (claimId : String) (leaseExpiresAt : Option String) :
    Server × Except Failure (Option String) :=
  match server.standing id with
  | .pending => (server.setStanding id (.claimed claimId), .ok leaseExpiresAt)
  | .claimed holder =>
      (server, if holder = claimId then .ok leaseExpiresAt
        else .error (conflict "delivery_claim_conflict"))
  | .acknowledged => (server, .error (conflict "delivery_not_pending"))

/-- Acknowledge a delivery under its claim. A claim that does not hold it
acknowledges nothing. -/
def ack (id : Nat) (claimId : String) : Server :=
  if server.standing id = .claimed claimId then server.setStanding id .acknowledged else server

def act : ServerAction → Server
  | .arrive roomId eventId roomSequence malformed =>
      { issued := server.issued ++
          [{ id := server.issued.length + 1, roomId, eventId, roomSequence, malformed }]
        standing := Function.update server.standing (server.issued.length + 1) .pending }
  | .claimElsewhere id claimId =>
      if server.standing id = .pending then server.setStanding id (.claimed claimId) else server
  | .acknowledgeElsewhere id => server.setStanding id .acknowledged
  | .expireClaim id =>
      match server.standing id with
      | .claimed _ => server.setStanding id .pending
      | _ => server

end Server

/-! ## The machine -/

/-- How a request ends: answered, refused without effect, or with its answer
lost after the effect. -/
inductive Fate
  | answered
  | refused
  | lost
  deriving DecidableEq

/-- What the environment decides about one call. -/
structure Choice where
  fate : Fate
  failure : Failure
  event : RoomEvent
  claimId : String
  leaseExpiresAt : Option String
  found : Bool
  text : String
  aborted : Bool
  now : String

structure World where
  memory : Memory
  server : Server
  acknowledged : List Nat

/-- The answer of a request without effect on the deliveries. -/
def Choice.answer {α : Type} (choice : Choice) (value : α) : Except Failure α :=
  if choice.fate = .answered then .ok value else .error choice.failure

def World.withMemory (world : World) (memory : Memory) : World :=
  { world with memory }

/-- Carry out one call. -/
def perform (world : World) : (request : Call) → Choice → World × Answer request
  | .ensureActorIdentity, choice => (world, choice.answer ())
  | .retries, _ => (world, world.memory.retries)
  | .listAfterCursor, _ => (world, world.memory.listAfterCursor)
  | .listMailbox after limit, choice => (world, choice.answer (world.server.list after limit))
  | .isQuarantined id, _ => (world, world.memory.isQuarantined id)
  | .advanceListCursor id, _ => (world.withMemory (world.memory.advanceListCursor id), ())
  | .quarantineDelivery id reason message, choice =>
      (world.withMemory (world.memory.quarantineDelivery id reason message choice.now), ())
  | .listRoomEvent _, choice => (world, choice.answer choice.event)
  | .clearListFailures id, _ => (world.withMemory (world.memory.clearListFailures id), ())
  | .countListFailure id, _ =>
      let failures := world.memory.listFailureCounts id + 1
      (world.withMemory { world.memory with
        listFailureCounts := Function.update world.memory.listFailureCounts id failures }, failures)
  | .discardClaim id, choice =>
      let claimId := (world.memory.discardClaims id).getD choice.claimId
      (world.withMemory { world.memory with
        discardClaims := Function.update world.memory.discardClaims id (some claimId) }, claimId)
  | .dropDiscardClaim id, _ =>
      (world.withMemory { world.memory with
        discardClaims := Function.update world.memory.discardClaims id none }, ())
  | .claim id claimId, choice =>
      let (server, answer) := world.server.claim id claimId choice.leaseExpiresAt
      match choice.fate with
      | .answered => ({ world with server }, answer)
      | .lost => ({ world with server }, .error choice.failure)
      | .refused => (world, .error choice.failure)
  | .ack id claimId, choice =>
      match choice.fate with
      | .answered =>
          ({ world with
              server := world.server.ack id claimId, acknowledged := id :: world.acknowledged },
            .ok ())
      | .lost => ({ world with server := world.server.ack id claimId }, .error choice.failure)
      | .refused => (world, .error choice.failure)
  | .createMessage recipientId delivery event, choice =>
      (world.withMemory (world.memory.createMessage recipientId delivery event choice.claimId),
        world.memory.messages.length)
  | .beginDelivery id, _ =>
      if world.memory.activeDeliveries id then (world, false)
      else
        (world.withMemory { world.memory with
          activeDeliveries := Function.update world.memory.activeDeliveries id true }, true)
  | .endDelivery id, _ =>
      (world.withMemory { world.memory with
        activeDeliveries := Function.update world.memory.activeDeliveries id false }, ())
  | .message ref, _ => (world, world.memory.messages[ref]?)
  | .changeMetadata ref change, _ =>
      let memory := world.memory.changeMetadata ref change
      (world.withMemory memory, memory.messages[ref]?)
  | .setRetry id ref, _ => (world.withMemory (world.memory.setRetry id ref), ())
  | .deleteRetry id, _ => (world.withMemory (world.memory.deleteRetry id), ())
  | .signalAborted, choice => (world, choice.aborted)
  | .findExistingReply _ _ _, choice => (world, choice.answer choice.found)
  | .generate _, choice => (world, choice.answer choice.text)
  | .appendReply _ _ _, choice => (world, choice.answer ())
  | .others action, _ => ({ world with server := world.server.act action }, ())

/-- The operations of one client, and the other parties. -/
def operations (options : Options) :
    Interleaving Nat Command Call Answer Failure Outcome World Choice where
  code := code options
  enter _ world := world
  perform _ := perform

/-- A new client, and no delivery yet. -/
def emptyWorld : World where
  memory :=
    { listAfterCursor := 0, retryDeliveries := .empty, quarantinedDeliveries := .empty,
      listFailureCounts := fun _ => 0, discardClaims := fun _ => none,
      activeDeliveries := fun _ => false, messages := [] }
  server := { issued := [], standing := fun _ => .pending }
  acknowledged := []

abbrev ClientState := Interleaving.State Nat Call Answer Failure Outcome World

abbrev ClientEvent := Interleaving.Event Nat Command Choice

def clientMachine (options : Options) : Machine ClientState ClientEvent :=
  (operations options).machine emptyWorld

end Triangle.MailboxClient
