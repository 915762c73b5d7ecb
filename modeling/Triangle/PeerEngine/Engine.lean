import Triangle.PeerEngine.Operations
import Triangle.Semantics.Machine

/-!
# Two peer engines and the network between them

`packages/peer-engine/src/engine.rs` and `protocol.rs`: sending with a durable
enqueue, the retry loop, the handling of a reply, and the handling of an
incoming message.

`deliveryMachine` runs a sending and a receiving engine. Frames and replies are
kept once sent, so a run can deliver any of them late, twice, in any order or
never. A failed append may leave part of its record behind, and an engine can
be restarted from its journal file at any point; what it had in flight is then
gone. The clock of an attempt starts when the journal hands the message out,
and a reply counts within `attempt_timeout`.
-/

namespace Triangle.PeerEngine

open Triangle.Semantics (Machine)

/-- A message on the wire. -/
structure PeerMessage where
  messageId : String
  payloadHash : String
  payload : String
  senderEndpointId : String
  createdAtUnixMs : Nat
  deriving DecidableEq, Repr

/-- The answer of a recipient that accepted a message. -/
structure PeerReceipt where
  messageId : String
  payloadHash : String
  status : String
  receiverEndpointId : String
  duplicate : Bool
  receivedAtUnixMs : Nat
  deriving DecidableEq, Repr

/-- The answer of a recipient that did not accept a message. -/
structure PeerReject where
  messageId : String
  code : String
  reason : String
  deriving DecidableEq, Repr

/-- What travels on a stream. -/
inductive WireEnvelope where
  | message (message : PeerMessage)
  | receipt (receipt : PeerReceipt)
  | reject (reject : PeerReject)
  deriving DecidableEq, Repr

/-- `MAX_MESSAGE_ID_BYTES`. -/
def maxMessageIdBytes : Nat := 256

/-- `MAX_PAYLOAD_BYTES`. -/
def maxPayloadBytes : Nat := 256 * 1024

/-- `MAX_FRAME_BYTES`. -/
def maxFrameBytes : Nat := maxPayloadBytes + 64 * 1024

/-- Whether the sender keeps the message queued and tries again. -/
def PeerReject.isRetryable (reject : PeerReject) : Bool :=
  reject.code = "quota_exceeded"

/-- Bounded retry and expiry of outbound messages, in milliseconds. -/
structure RetryPolicy where
  initialBackoff : Nat
  maxBackoff : Nat
  expiry : Nat
  attemptTimeout : Nat
  deriving DecidableEq, Repr

/-- Exponential backoff after `attempts` failures. -/
def RetryPolicy.backoff (policy : RetryPolicy) (attempts : Nat) : Nat :=
  min (policy.initialBackoff * 2 ^ min (attempts - 1) 20) policy.maxBackoff

/-- An engine: its journal's crates and limits, its identity and its roster.
`addrId` is the endpoint id of a dialable address, `encodedFrameLen` the length
of a message's JSON. -/
structure EngineConfig (Addr : Type) where
  runtime : JournalRuntime Addr
  encodedFrameLen : PeerMessage → Nat
  addrId : Addr → String
  endpointIdHex : String
  limits : JournalLimits
  retry : RetryPolicy
  roster : List String

/-- Why a send did not settle. -/
inductive DeliveryError where
  | invalid (reason : String)
  | conflict (messageId : String)
  | outboxFull (reason : String)
  | terminal (reason : String)
  | refused (code reason : String)
  | pending (reason : String)
  | internal (error : JournalError)
  deriving DecidableEq, Repr

section

variable {Addr : Type} (config : EngineConfig Addr)

/-- `PeerMessage::new`. -/
def PeerMessage.new (messageId payload senderEndpointId : String) (now : Nat) :
    Except String PeerMessage :=
  if maxPayloadBytes < payload.utf8ByteSize then
    .error ("payload exceeds MAX_PAYLOAD_BYTES (" ++ toString maxPayloadBytes ++ "): " ++
      toString payload.utf8ByteSize)
  else
    .ok ⟨messageId, config.runtime.payloadHashHex payload, payload, senderEndpointId, now⟩

/-- Whether the message fits one frame. -/
def PeerMessage.checkFrameSize (message : PeerMessage) : Except String Unit :=
  if maxFrameBytes < config.encodedFrameLen message then
    .error ("encoded message frame is " ++ toString (config.encodedFrameLen message) ++
      " bytes, exceeds MAX_FRAME_BYTES (" ++ toString maxFrameBytes ++
      "); JSON escaping can expand control characters up to 6x")
  else .ok ()

/-- `PeerReceipt::for_message`. -/
def PeerReceipt.forMessage (message : PeerMessage) (receiverEndpointId : String)
    (duplicate : Bool) (now : Nat) : PeerReceipt where
  messageId := message.messageId
  payloadHash := message.payloadHash
  status := "received_peer"
  receiverEndpointId := receiverEndpointId
  duplicate := duplicate
  receivedAtUnixMs := now

/-- A receipt must name our message, our exact payload, and the peer we dialed. -/
def verifyReceipt (receipt : PeerReceipt) (message : PeerMessage) (peer : String) :
    Except String Unit :=
  if receipt.messageId ≠ message.messageId then
    .error ("message_id " ++ receipt.messageId ++ " != " ++ message.messageId)
  else if receipt.status ≠ "received_peer" then
    .error ("unexpected status " ++ receipt.status)
  else if receipt.payloadHash ≠ message.payloadHash then
    .error "payload_hash does not match the sent payload"
  else if receipt.receiverEndpointId ≠ peer then
    .error ("receiver_endpoint_id " ++ receipt.receiverEndpointId ++ " != dialed peer " ++ peer)
  else .ok ()

/-- One delivery attempt in flight, since the time its message was handed out. -/
structure Attempt (Addr : Type) where
  peer : Addr
  message : PeerMessage
  since : Nat

/-- What `send_message` does before its first attempt. -/
inductive SendStart where
  | refused (error : DeliveryError)
  | settled (receipt : PeerReceipt)
  | attempt (message : PeerMessage)
  deriving DecidableEq, Repr

/-- The text of an enqueue error that `send_message` reports. -/
def enqueueDeliveryError : EnqueueError → DeliveryError
  | .conflict messageId => .conflict messageId
  | .terminal messageId state =>
      .terminal ("message_id " ++ messageId ++ " is terminal (" ++
        (match state with
          | .queued => "Queued"
          | .settled => "Settled"
          | .refused => "Refused"
          | .expired => "Expired") ++
        "); use a new message_id")
  | .outboxFull reason => .outboxFull ("outbox full (" ++ reason ++ ")")

/-- `send_message` up to its first attempt: check, then enqueue durably. -/
def sendMessage [DecidableEq Addr] (journal : Journal Addr) (io : Io) (peer : Addr)
    (messageId payload : String) : Journal Addr × SendStart :=
  if messageId.utf8ByteSize = 0 ∨ maxMessageIdBytes < messageId.utf8ByteSize then
    (journal, .refused (.invalid ("message_id must be 1..=" ++ toString maxMessageIdBytes ++
      " bytes")))
  else
    match PeerMessage.new config messageId payload config.endpointIdHex io.now with
    | .error reason => (journal, .refused (.invalid reason))
    | .ok message =>
        match message.checkFrameSize config with
        | .error reason => (journal, .refused (.invalid reason))
        | .ok () =>
            let lease := io.now + config.retry.attemptTimeout * 2
            let enqueued := journal.enqueueOutbound config.runtime io messageId payload
              (config.addrId peer) peer lease
            match enqueued.2 with
            | .error error => (enqueued.1, .refused (.internal error))
            | .ok (.error error) => (enqueued.1, .refused (enqueueDeliveryError error))
            | .ok (.ok (.existing .settled)) =>
                (enqueued.1, .settled ⟨messageId, message.payloadHash, "received_peer",
                  config.addrId peer, true, io.now⟩)
            | .ok (.ok _) =>
                match enqueued.1.index.outbound.find? messageId with
                | none => (enqueued.1, .attempt message)
                | some record =>
                    (enqueued.1, .attempt { message with createdAtUnixMs := record.queuedAtUnixMs })

/-- Schedule the next try of a message. -/
def scheduleRetry (journal : Journal Addr) (now : Nat) (messageId : String) : Journal Addr :=
  let attempts := ((journal.index.outbound.find? messageId).map OutboundRecord.attempts).getD 0 + 1
  journal.noteAttemptFailed messageId (now + config.retry.backoff attempts)

/-- `attempt` once its exchange is over: no reply is a timeout or a transport
error. -/
def finishAttempt (journal : Journal Addr) (io : Io) (attempt : Attempt Addr)
    (reply : Option WireEnvelope) : Journal Addr × Except DeliveryError PeerReceipt :=
  let messageId := attempt.message.messageId
  match reply with
  | some (.receipt receipt) =>
      match verifyReceipt receipt attempt.message (config.addrId attempt.peer) with
      | .error reason =>
          let refused := journal.recordRefused config.runtime io messageId
            ("invalid_receipt: " ++ reason)
          match refused.2 with
          | .error error => (refused.1, .error (.internal error))
          | .ok _ => (refused.1, .error (.refused "invalid_receipt" reason))
      | .ok () =>
          match journal.index.outbound.find? messageId with
          | none => (journal, .error (.terminal ("message " ++ messageId ++ " is None")))
          | some record =>
              match record.state with
              | .queued =>
                  let settled := journal.recordSettled config.runtime io messageId
                  (settled.1, match settled.2 with
                    | .error error => .error (.internal error)
                    | .ok _ => .ok receipt)
              | .settled => (journal, .ok receipt)
              | .refused =>
                  (journal, .error (.terminal ("message " ++ messageId ++ " is Some(Refused)")))
              | .expired =>
                  (journal, .error (.terminal ("message " ++ messageId ++ " is Some(Expired)")))
  | some (.reject reject) =>
      if reject.messageId ≠ messageId then
        (scheduleRetry config journal io.now messageId, .error (.pending "unexpected reply"))
      else if reject.isRetryable then
        (scheduleRetry config journal io.now messageId,
          .error (.pending (reject.code ++ ": " ++ reject.reason)))
      else
        let refused := journal.recordRefused config.runtime io messageId
          (reject.code ++ ": " ++ reject.reason)
        match refused.2 with
        | .error error => (refused.1, .error (.internal error))
        | .ok _ => (refused.1, .error (.refused reject.code reject.reason))
  | some (.message _) =>
      (scheduleRetry config journal io.now messageId, .error (.pending "unexpected reply"))
  | none =>
      (scheduleRetry config journal io.now messageId, .error (.pending "attempt failed"))

/-- The attempts that the retry loop starts for due messages. -/
def retryAttempts (now : Nat) (due : List (DueOutbound Addr)) : List (Attempt Addr) :=
  due.filterMap fun item =>
    match PeerMessage.new config item.messageId item.payload config.endpointIdHex now with
    | .error _ => none
    | .ok message => some ⟨item.peerAddr, { message with createdAtUnixMs := item.queuedAtUnixMs }, now⟩

/-- An explicit refusal. -/
def rejectMessage (message : PeerMessage) (code reason : String) : WireEnvelope :=
  .reject ⟨message.messageId, code, reason⟩

/-- `handle_incoming` from the admitted connection of `remote` to its reply. -/
def handleIncoming (journal : Journal Addr) (io : Io) (remote : String) (message : PeerMessage) :
    Journal Addr × Option WireEnvelope :=
  if remote ∉ config.roster then (journal, none)
  else if message.messageId.utf8ByteSize = 0 ∨ maxMessageIdBytes < message.messageId.utf8ByteSize then
    (journal, some (rejectMessage message "invalid_message_id" "message_id must be 1..=256 bytes"))
  else if message.senderEndpointId ≠ remote then
    (journal, some (rejectMessage message "sender_mismatch"
      "sender_endpoint_id does not match connection identity"))
  else if maxPayloadBytes < message.payload.utf8ByteSize then
    (journal, some (rejectMessage message "payload_too_large" "payload exceeds MAX_PAYLOAD_BYTES"))
  else if config.runtime.payloadHashHex message.payload ≠ message.payloadHash then
    (journal, some (rejectMessage message "hash_mismatch" "payload_hash does not match payload"))
  else
    let accepted := journal.acceptInbound config.runtime io remote message.messageId message.payload
    match accepted.2 with
    | .error _ => (accepted.1, none)
    | .ok .accepted =>
        (accepted.1, some (.receipt
          (PeerReceipt.forMessage message config.endpointIdHex false io.compactedAt)))
    | .ok .duplicate =>
        (accepted.1, some (.receipt
          (PeerReceipt.forMessage message config.endpointIdHex true io.compactedAt)))
    | .ok .conflict =>
        (accepted.1, some (rejectMessage message "conflict"
          "message_id already accepted from this sender with a different payload"))
    | .ok .quotaExceeded =>
        (accepted.1, some (rejectMessage message "quota_exceeded"
          "per-peer unconsumed inbox quota exceeded; retry later"))

/-- How far the clock of an engine moves during a step, and how its writes end. -/
structure Timing where
  waited : Nat
  toStamp : Nat
  toCompact : Nat
  append : AppendIo
  rewrite : RewriteIo
  deriving DecidableEq, Repr

/-- What the system answers during a step that starts at time `clock`. -/
def Timing.io (timing : Timing) (clock : Nat) : Io where
  now := clock + timing.waited
  stampedAt := clock + timing.waited + timing.toStamp
  compactedAt := clock + timing.waited + timing.toStamp + timing.toCompact
  append := timing.append
  rewrite := timing.rewrite

theorem Timing.ordered (timing : Timing) (clock : Nat) :
    clock ≤ (timing.io clock).now ∧ (timing.io clock).now ≤ (timing.io clock).stampedAt ∧
      (timing.io clock).stampedAt ≤ (timing.io clock).compactedAt := by
  simp only [Timing.io]
  omega

/-- The sending engine: its journal, its clock, its attempts in flight and the
messages its retry loop is about to expire. -/
structure Sender (Addr : Type) where
  journal : Journal Addr
  clock : Nat
  attempts : List (Attempt Addr)
  expiring : List String

/-- The receiving engine: its journal, its clock and the replies its handlers
are about to write. -/
structure Receiver (Addr : Type) where
  journal : Journal Addr
  clock : Nat
  answering : List WireEnvelope

/-- Both engines, every frame the sender ever wrote to the receiver, and every
reply the receiver ever wrote to the sender. -/
structure World (Addr : Type) where
  sender : Sender Addr
  receiver : Receiver Addr
  frames : List PeerMessage
  replies : List WireEnvelope

/-- The two engines. The sender forgets a closed message only after every
attempt that it made before has timed out. -/
structure Delivery (Addr : Type) where
  sender : EngineConfig Addr
  receiver : EngineConfig Addr
  retention_exceeds_timeout : sender.retry.attemptTimeout < sender.limits.retentionMs

/-- One step of the two engines. Attempts, frames and replies are named by their
position. -/
inductive DeliveryLabel (Addr : Type) where
  | send (timing : Timing) (peer : Addr) (messageId payload : String)
  | tick (timing : Timing) (order : List String) (slots : Nat)
  | expire (timing : Timing) (messageId : String)
  | answered (timing : Timing) (attempt reply : Nat)
  | answeredByOther (timing : Timing) (attempt : Nat) (reply : WireEnvelope)
  | failed (timing : Timing) (attempt : Nat)
  | senderCall (timing : Timing) (operation : Operation Addr)
  | restartSender (waited : Nat)
  | deliver (timing : Timing) (frame : Nat)
  | reply (position : Nat)
  | receiverCall (timing : Timing) (operation : Operation Addr)
  | restartReceiver (waited : Nat)

/-- The calls an engine's inbox and upkeep make, apart from sending. -/
def Operation.isInboxCall : Operation Addr → Bool
  | .acceptInbound .. => true
  | .consume .. => true
  | .compact => true
  | _ => false

/-- Whether a call accepts a message of `sender`. -/
def Operation.acceptsFrom (sender : String) : Operation Addr → Bool
  | .acceptInbound other _ _ => other = sender
  | _ => false

variable (delivery : Delivery Addr)

/-- The frames that new attempts write to the receiver. -/
def framesOf (attempts : List (Attempt Addr)) : List PeerMessage :=
  (attempts.filter fun attempt =>
    delivery.sender.addrId attempt.peer = delivery.receiver.endpointIdHex).map Attempt.message

/-- Start attempts: they are in flight, and their frames are on their way. -/
def World.start (world : World Addr) (journal : Journal Addr) (clock : Nat)
    (attempts : List (Attempt Addr)) : World Addr :=
  { world with
    sender :=
      { world.sender with
        journal := journal
        clock := clock
        attempts := world.sender.attempts ++ attempts }
    frames := world.frames ++ framesOf delivery attempts }

/-- End an attempt with what came back. -/
def World.finish (world : World Addr) (io : Io) (position : Nat) (reply : Option WireEnvelope) :
    World Addr :=
  match world.sender.attempts[position]? with
  | none => world
  | some attempt =>
      { world with
        sender :=
          { world.sender with
            journal := (finishAttempt delivery.sender world.sender.journal io attempt reply).1
            clock := io.compactedAt
            attempts := world.sender.attempts.eraseIdx position } }

/-- Whether a reply can reach the attempt now: it is within its time. -/
def Attempt.inTime (config : EngineConfig Addr) (attempt : Attempt Addr) (now : Nat) : Bool :=
  now ≤ attempt.since + config.retry.attemptTimeout

variable [DecidableEq Addr]

/-- A step of the two engines. -/
def deliveryStep (world : World Addr) (label : DeliveryLabel Addr) : World Addr :=
  match label with
  | .send timing peer messageId payload =>
      let io := timing.io world.sender.clock
      let sent := sendMessage delivery.sender world.sender.journal io peer messageId payload
      match sent.2 with
      | .attempt message =>
          world.start delivery sent.1 io.compactedAt [⟨peer, message, io.compactedAt⟩]
      | _ => world.start delivery sent.1 io.compactedAt []
  | .tick timing order slots =>
      let io := timing.io world.sender.clock
      let lease := io.now + delivery.sender.retry.attemptTimeout * 2
      let taken := world.sender.journal.takeDue order io.now delivery.sender.retry.expiry lease slots
      let started := world.start delivery taken.journal io.compactedAt
        (retryAttempts delivery.sender io.compactedAt taken.due)
      { started with sender := { started.sender with expiring := taken.expired } }
  | .expire timing messageId =>
      let io := timing.io world.sender.clock
      if messageId ∈ world.sender.expiring then
        world.start delivery
          (world.sender.journal.recordExpired delivery.sender.runtime io messageId).1
          io.compactedAt []
      else world
  | .answered timing position reply =>
      let io := timing.io world.sender.clock
      match world.sender.attempts[position]?, world.replies[reply]? with
      | some attempt, some envelope =>
          if delivery.sender.addrId attempt.peer = delivery.receiver.endpointIdHex ∧
              attempt.inTime delivery.sender io.now then
            world.finish delivery io position (some envelope)
          else world
      | _, _ => world
  | .answeredByOther timing position envelope =>
      let io := timing.io world.sender.clock
      match world.sender.attempts[position]? with
      | none => world
      | some attempt =>
          if delivery.sender.addrId attempt.peer ≠ delivery.receiver.endpointIdHex ∧
              attempt.inTime delivery.sender io.now then
            world.finish delivery io position (some envelope)
          else world
  | .failed timing position => world.finish delivery (timing.io world.sender.clock) position none
  | .senderCall timing operation =>
      let io := timing.io world.sender.clock
      if operation.isInboxCall then
        world.start delivery (operation.perform delivery.sender.runtime io world.sender.journal)
          io.compactedAt []
      else world
  | .restartSender waited =>
      let now := world.sender.clock + waited
      match Journal.openWith delivery.sender.runtime delivery.sender.limits
          (some world.sender.journal.file) now .replaced with
      | .error _ => world
      | .ok journal => { world with sender := ⟨journal, now, [], []⟩ }
  | .deliver timing frame =>
      let io := timing.io world.receiver.clock
      match world.frames[frame]? with
      | none => world
      | some message =>
          let handled := handleIncoming delivery.receiver world.receiver.journal io
            delivery.sender.endpointIdHex message
          { world with
            receiver :=
              { journal := handled.1
                clock := io.compactedAt
                answering := world.receiver.answering ++ handled.2.toList } }
  | .reply position =>
      match world.receiver.answering[position]? with
      | none => world
      | some envelope =>
          { world with
            receiver :=
              { world.receiver with answering := world.receiver.answering.eraseIdx position }
            replies := world.replies ++ [envelope] }
  | .receiverCall timing operation =>
      let io := timing.io world.receiver.clock
      if operation.acceptsFrom delivery.sender.endpointIdHex then world
      else
        { world with
          receiver :=
            { world.receiver with
              journal := operation.perform delivery.receiver.runtime io world.receiver.journal
              clock := io.compactedAt } }
  | .restartReceiver waited =>
      let now := world.receiver.clock + waited
      match Journal.openWith delivery.receiver.runtime delivery.receiver.limits
          (some world.receiver.journal.file) now .replaced with
      | .error _ => world
      | .ok journal => { world with receiver := ⟨journal, now, []⟩ }

/-- Both engines from empty state directories. -/
def deliveryMachine : Machine (World Addr) (DeliveryLabel Addr) where
  initial :=
    { sender := ⟨Journal.fresh delivery.sender.limits, 0, [], []⟩
      receiver := ⟨Journal.fresh delivery.receiver.limits, 0, []⟩
      frames := []
      replies := [] }
  step := deliveryStep delivery

end

end Triangle.PeerEngine
