import Triangle.Semantics.Program

/-!
# The mailbox client

`createMailboxClient`: listing unread deliveries, claiming one, running the
model on it, replying, and acknowledging. The operations are programs whose
calls are the requests to the server and the accesses to the memory that all
operations of one client share. Each synchronous block of the source is one
call at most, so two operations interleave here wherever they can interleave
in the source, and at the ends of synchronous blocks besides.
-/

namespace Triangle.MailboxClient

open Triangle.Semantics

/-- What an operation throws: the fields of an error by which the client tells
errors apart. -/
structure Failure where
  message : String
  isRequestError : Bool := true
  isOwnershipError : Bool := false
  status : Option Nat := none
  mailboxError : Option String := none
  deriving DecidableEq

/-- `MailboxOwnershipError`. -/
def ownershipLost : Failure where
  message := "Mailbox claim ownership was lost"
  isOwnershipError := true

def requestAborted : Failure where
  message := "Mailbox request aborted"

def missingMetadata : Failure where
  message := "Mailbox message is missing delivery metadata"
  isRequestError := false

def isSkipEventError (error : Failure) : Bool :=
  error.isRequestError &&
    (error.message = "Mailbox event type is unsupported" ||
      error.message = "Mailbox event body is invalid" ||
      error.message = "Mailbox event body has no reply text")

def isDefinitiveClaimDenial (error : Failure) : Bool :=
  error.isRequestError &&
    (error.status = some 401 || error.status = some 403 ||
      (error.status = some 400 && error.mailboxError = some "invalid_request") ||
      (error.status = some 404 && error.mailboxError = some "delivery_not_found") ||
      (error.status = some 409 && error.mailboxError = some "delivery_not_pending"))

def isClaimConflict (error : Failure) : Bool :=
  error.isRequestError && error.status = some 409 &&
    error.mailboxError = some "delivery_claim_conflict"

/-- An item of a mailbox page. `malformed` is what `validateMailboxDelivery`
throws on it, if anything. -/
structure Delivery where
  id : Nat
  roomId : String
  eventId : String
  roomSequence : Nat
  malformed : Option Failure := none
  deriving DecidableEq

/-- The event of a delivery as `validateRoomEvent` returns it. -/
structure RoomEvent where
  id : String
  roomId : String
  senderId : String
  text : String
  replyRequired : Bool

/-- The mutable delivery metadata of a message. `renewing` says that its lease
renewal timer runs. -/
structure Metadata where
  delivery : Delivery
  claimId : String
  owned : Bool := false
  ownershipLost : Bool := false
  replyPersisted : Bool := false
  processingAttempts : Nat := 0
  ackAttempts : Nat := 0
  leaseExpiresAt : Option String := none
  renewing : Bool := false

/-- A message that `listUnread` returned. -/
structure Message where
  messageId : String
  taskId : String
  contextId : String
  senderId : String
  recipientId : String
  text : String
  replyRequired : Bool
  metadata : Metadata

/-- The delivery that a message is about. -/
def Message.id (message : Message) : Nat :=
  message.metadata.delivery.id

/-- The assignments to delivery metadata. -/
inductive MetadataChange
  | owned (leaseExpiresAt : Option String)
  | lease (leaseExpiresAt : Option String)
  | lost
  | replyPersisted
  | processingAttempt
  | ackAttempt
  | renewing (runs : Bool)

def MetadataChange.apply (metadata : Metadata) : MetadataChange → Metadata
  | .owned leaseExpiresAt =>
      { metadata with
        owned := true, leaseExpiresAt := leaseExpiresAt.orElse fun _ => metadata.leaseExpiresAt }
  | .lease leaseExpiresAt =>
      { metadata with leaseExpiresAt := leaseExpiresAt.orElse fun _ => metadata.leaseExpiresAt }
  | .lost => { metadata with owned := false, ownershipLost := true, renewing := false }
  | .replyPersisted => { metadata with replyPersisted := true }
  | .processingAttempt => { metadata with processingAttempts := metadata.processingAttempts + 1 }
  | .ackAttempt => { metadata with ackAttempts := metadata.ackAttempts + 1 }
  | .renewing runs => { metadata with renewing := runs && metadata.leaseExpiresAt.isSome }

/-- What the rest of the world does to the deliveries of the worker. -/
inductive ServerAction
  | arrive (roomId eventId : String) (roomSequence : Nat) (malformed : Option Failure)
  | claimElsewhere (id : Nat) (claimId : String)
  | acknowledgeElsewhere (id : Nat)
  | expireClaim (id : Nat)

/-- Requests, accesses to the client's memory, and actions of others. A message
is named by its place in the order of creation. -/
inductive Call
  | ensureActorIdentity
  | retries
  | listAfterCursor
  | listMailbox (after limit : Nat)
  | isQuarantined (id : Nat)
  | advanceListCursor (id : Nat)
  | quarantineDelivery (id : Nat) (reason : String) (message : Option Nat)
  | listRoomEvent (delivery : Delivery)
  | clearListFailures (id : Nat)
  | countListFailure (id : Nat)
  | discardClaim (id : Nat)
  | dropDiscardClaim (id : Nat)
  | claim (id : Nat) (claimId : String)
  | ack (id : Nat) (claimId : String)
  | createMessage (recipientId : String) (delivery : Delivery) (event : RoomEvent)
  | beginDelivery (id : Nat)
  | endDelivery (id : Nat)
  | message (ref : Nat)
  | changeMetadata (ref : Nat) (change : MetadataChange)
  | setRetry (id ref : Nat)
  | deleteRetry (id : Nat)
  | signalAborted
  | findExistingReply (roomId replyMessageId : String) (startSequence : Nat)
  | generate (message : Message)
  | appendReply (message : Message) (text replyMessageId : String)
  | others (action : ServerAction)

@[reducible] def Answer : Call → Type
  | .ensureActorIdentity => Except Failure Unit
  | .retries => List Nat
  | .listAfterCursor => Nat
  | .listMailbox _ _ => Except Failure (List Delivery)
  | .isQuarantined _ => Bool
  | .advanceListCursor _ => Unit
  | .quarantineDelivery _ _ _ => Unit
  | .listRoomEvent _ => Except Failure RoomEvent
  | .clearListFailures _ => Unit
  | .countListFailure _ => Nat
  | .discardClaim _ => String
  | .dropDiscardClaim _ => Unit
  | .claim _ _ => Except Failure (Option String)
  | .ack _ _ => Except Failure Unit
  | .createMessage _ _ _ => Nat
  | .beginDelivery _ => Bool
  | .endDelivery _ => Unit
  | .message _ => Option Message
  | .changeMetadata _ _ => Option Message
  | .setRetry _ _ => Unit
  | .deleteRetry _ => Unit
  | .signalAborted => Bool
  | .findExistingReply _ _ _ => Except Failure Bool
  | .generate _ => Except Failure String
  | .appendReply _ _ _ => Except Failure Unit
  | .others _ => Unit

abbrev Client := Program Call Answer Failure

def call (request : Call) : Client (Answer request) :=
  Program.request request

/-- The options of a client. `replyMessageId` is `deterministicMailboxReplyMessageId`. -/
structure Options where
  recipientId : String
  pageLimit : Nat
  maxDeliveryAttempts : Nat
  maxAckAttempts : Nat
  maxListAttempts : Nat
  replyMessageId : Message → String

/-- What `completeAndAcknowledge` resolves to. -/
structure Completion where
  claimed : Option Bool := none
  reconciled : Bool
  acknowledged : Bool
  quarantined : Bool := false
  ownershipLost : Bool := false

/-! ## Shared helpers -/

def message (ref : Nat) : Client Message := do
  match ← call (.message ref) with
  | some message => pure message
  | none => Program.fail missingMetadata

def changeMetadata (ref : Nat) (change : MetadataChange) : Client Message := do
  match ← call (.changeMetadata ref change) with
  | some message => pure message
  | none => Program.fail missingMetadata

def ensureActorIdentity : Client Unit :=
  Program.attempt .ensureActorIdentity id id

/-- The lease of a won claim, or nothing when another worker holds the claim. -/
def claimDelivery (id : Nat) (claimId : String) : Client (Option (Option String)) := do
  match ← call (.claim id claimId) with
  | .ok leaseExpiresAt => pure (some leaseExpiresAt)
  | .error error => if isClaimConflict error then pure none else Program.fail error

def ackDelivery (deliveryId : Nat) (claimId : String) : Client Unit :=
  Program.attempt (.ack deliveryId claimId) id id

/-! ## Listing -/

section

variable (options : Options)

/-- An event that needs no model turn: claimed, acknowledged and passed over. -/
def discardEvent (id : Nat) : Client Unit := do
  let claimId ← call (.discardClaim id)
  if (← claimDelivery id claimId).isSome then ackDelivery id claimId
  call (.dropDiscardClaim id)
  call (.advanceListCursor id)

/-- One item of a page: the message it becomes, if any. -/
def listDelivery (delivery : Delivery) : Client (Option Nat) := do
  match delivery.malformed with
  | some error => Program.fail error
  | none =>
      if ← call (.isQuarantined delivery.id) then
        call (.advanceListCursor delivery.id)
        pure none
      else
        match ← call (.listRoomEvent delivery) with
        | .ok event =>
            call (.clearListFailures delivery.id)
            pure (some (← call (.createMessage options.recipientId delivery event)))
        | .error error =>
            if isSkipEventError error then
              discardEvent delivery.id
              pure none
            else
              let failures ← call (.countListFailure delivery.id)
              if options.maxListAttempts ≤ failures then
                call (.quarantineDelivery delivery.id error.message none)
                pure none
              else Program.fail error

def listPage : List Delivery → Client (List Nat)
  | [] => pure []
  | delivery :: rest => do
      let listed ← listDelivery options delivery
      let others ← listPage rest
      pure (listed.toList ++ others)

/-- The deliveries in custody first, else a page of the mailbox. -/
def listUnread : Client (List Nat) := do
  ensureActorIdentity
  let retries ← call .retries
  if retries.isEmpty then
    let after ← call .listAfterCursor
    let page ← Program.attempt (.listMailbox after options.pageLimit) id id
    listPage options page
  else pure (retries.take options.pageLimit)

/-! ## Execution of one delivery -/

def assertStillOwner (ref : Nat) : Client Unit := do
  let current ← message ref
  Program.ensure (current.metadata.ownershipLost = false ∧ current.metadata.owned = true)
    ownershipLost

/-- `assertStillOwner` with the signal of the custody. -/
def assertStillOwnerAndLive (ref : Nat) : Client Unit := do
  assertStillOwner ref
  let aborted ← call .signalAborted
  Program.ensure (aborted = false) requestAborted

/-- The claim of a delivery. The message is kept for a retry before the request,
because the answer can be lost after the server has committed. -/
def establishClaim (ref : Nat) : Client Bool := do
  let current ← message ref
  call (.setRetry current.id ref)
  match ← (claimDelivery current.id current.metadata.claimId).outcome with
  | .ok none =>
      call (.deleteRetry current.id)
      pure false
  | .ok (some leaseExpiresAt) =>
      let _ ← changeMetadata ref (.owned leaseExpiresAt)
      pure true
  | .error error =>
      if isDefinitiveClaimDenial error then call (.deleteRetry current.id)
      Program.fail error

/-- Whether the delivery is acknowledged; it is quarantined if not. -/
def acknowledgeOwned (ref : Nat) : Client Bool := do
  assertStillOwner ref
  let current ← message ref
  match ← (ackDelivery current.id current.metadata.claimId).outcome with
  | .ok _ =>
      call (.deleteRetry current.id)
      call (.advanceListCursor current.id)
      pure true
  | .error error =>
      let counted ← changeMetadata ref .ackAttempt
      if options.maxAckAttempts ≤ counted.metadata.ackAttempts then
        call (.quarantineDelivery current.id "ack_retry_exhausted" none)
        pure false
      else Program.fail error

def completion (reconciled acknowledged : Bool) : Completion :=
  if acknowledged then { reconciled, acknowledged }
  else { claimed := some false, reconciled, acknowledged, quarantined := true }

/-- A durable reply: one that the room holds already, or a new one. The result
says whether it was there already. -/
def persistReply (ref : Nat) : Client Bool := do
  let current ← message ref
  if current.metadata.replyPersisted then pure true
  else
    let replyMessageId := options.replyMessageId current
    let found ← Program.attempt (.findExistingReply current.contextId replyMessageId
      current.metadata.delivery.roomSequence) id id
    if found then
      let _ ← changeMetadata ref .replyPersisted
      pure true
    else
      assertStillOwnerAndLive ref
      -- Runner calls are at-least-once.
      let replyText ← Program.attempt (.generate current) id id
      assertStillOwnerAndLive ref
      Program.attempt (.appendReply current replyText replyMessageId) id id
      let _ ← changeMetadata ref .replyPersisted
      pure false

/-- What runs under the custody of a claim. -/
def settleDelivery (ref : Nat) : Client Completion := do
  let current ← message ref
  if current.replyRequired then
    let reconciled ← persistReply options ref
    assertStillOwnerAndLive ref
    pure (completion reconciled (← acknowledgeOwned options ref))
  else
    assertStillOwnerAndLive ref
    pure (completion false (← acknowledgeOwned options ref))

/-- `work` while the lease is renewed. -/
def withClaimCustody {α : Type} (ref : Nat) (work : Client α) : Client α := do
  let _ ← changeMetadata ref (.renewing true)
  let result ← work.outcome
  let _ ← changeMetadata ref (.renewing false)
  Program.ofExcept result

def claimAndSettle (ref : Nat) : Client Completion := do
  if ← establishClaim ref then withClaimCustody ref (settleDelivery options ref)
  else pure { claimed := some false, reconciled := false, acknowledged := false }

/-- The `catch` of `executeDelivery`. -/
def recoverDelivery (ref : Nat) (error : Failure) : Client Completion := do
  let current ← message ref
  if error.isOwnershipError || current.metadata.ownershipLost then
    -- Never acknowledge after ownership loss.
    call (.deleteRetry current.id)
    pure { claimed := some false, reconciled := current.metadata.replyPersisted,
           acknowledged := false, ownershipLost := true }
  else if isDefinitiveClaimDenial error then
    call (.deleteRetry current.id)
    Program.fail error
  else if current.metadata.replyPersisted then
    call (.setRetry current.id ref)
    Program.fail error
  else
    let counted ← changeMetadata ref .processingAttempt
    if options.maxDeliveryAttempts ≤ counted.metadata.processingAttempts then
      call (.quarantineDelivery current.id error.message (some ref))
      pure { claimed := some false, reconciled := false, acknowledged := false,
             quarantined := true }
    else
      call (.setRetry current.id ref)
      Program.fail error

def executeDelivery (ref : Nat) : Client Completion := do
  let current ← message ref
  ensureActorIdentity
  if ← call (.isQuarantined current.id) then
    pure { claimed := some false, reconciled := false, acknowledged := false, quarantined := true }
  else
    match ← (claimAndSettle options ref).outcome with
    | .ok completed => pure completed
    | .error error => recoverDelivery options ref error

/-- One execution of a delivery at a time; a second call joins the first. -/
def completeAndAcknowledge (ref : Nat) : Client (Option Completion) := do
  let current ← message ref
  if ← call (.beginDelivery current.id) then
    let result ← (executeDelivery options ref).outcome
    call (.endDelivery current.id)
    pure (some (← Program.ofExcept result))
  else pure none

/-- The renewal timer of a message fires. -/
def renewLease (ref : Nat) : Client Unit := do
  let current ← message ref
  if current.metadata.renewing then
    match ← (claimDelivery current.id current.metadata.claimId).outcome with
    | .ok (some leaseExpiresAt) =>
        let _ ← changeMetadata ref (.lease leaseExpiresAt)
    | _ =>
        let _ ← changeMetadata ref .lost

/-! ## Commands -/

inductive Command
  | listUnread
  | completeAndAcknowledge (message : Nat)
  | renewLease (message : Nat)
  | others (action : ServerAction)

inductive Outcome
  | listed (messages : List Nat)
  | completed (completion : Option Completion)
  | nothing

def code : Command → Client Outcome
  | .listUnread => do pure (.listed (← listUnread options))
  | .completeAndAcknowledge ref => do pure (.completed (← completeAndAcknowledge options ref))
  | .renewLease ref => do
      renewLease ref
      pure .nothing
  | .others action => do
      call (.others action)
      pure .nothing

end

end Triangle.MailboxClient
