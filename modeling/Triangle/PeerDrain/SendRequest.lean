import Triangle.PeerDrain.Step
import Triangle.PeerEngine.Engine

/-!
# Sending a request through the engine

`sendRequest` of `packages/agent-worker/src/peer-drain-service.mjs` and the
engine that it sends through, on one clock. A call checks its arguments and the
row of its message id, inserts the row when there is none, and hands a `send`
to the engine; it writes the row again after the engine has answered. Between
these statements anything else may happen: other calls, the engine's own work,
compactions and restarts. A `send` is handled late, or never.
-/

namespace Triangle.PeerDrain

open Triangle.Std
open Triangle.Semantics (Machine)
open Triangle.PeerEngine (EngineConfig EnqueueError EnqueueOutcome Io Journal JournalError Operation
  PeerMessage Timing sendMessage)

/-- `TOMBSTONE_WINDOW_MS`. -/
def tombstoneWindowMs : Nat := 7 * 24 * 60 * 60 * 1000

/-- A call of `sendRequest`, with the ids that it was given or drew. -/
structure RequestCall where
  toEndpointId : String
  text : String
  requestId : String
  messageId : String
  deriving DecidableEq, Repr

/-- Why `sendRequest` refuses before it asks the engine. -/
inductive RequestRefusal where
  | invalidIdentity
  | invalidText
  | invalidIdentifier
  | routeUnavailable
  | invalidParams
  | conflict
  | correlationClosed
  | retryWindowExpired
  deriving DecidableEq, Repr

/-- The service, the routes it knows and its engine, which keeps tombstones for
its default time. -/
structure RequestHost (Addr : Type) where
  engine : EngineConfig Addr
  routes : String → Option Addr
  default_retention : engine.limits.tombstoneRetention = tombstoneWindowMs

/-- A `send` on its way to the engine. -/
structure SendFrame (Addr : Type) where
  messageId : String
  payload : String
  peerAddr : Addr

/-- The payload of a request. -/
def requestEnvelope (call : RequestCall) : String :=
  Json.text (.obj
    [("protocol", .str peerEnvelopeProtocol), ("kind", .str "request"),
      ("request_id", .str call.requestId), ("text", .str call.text)])

section

variable {Addr : Type} (host : RequestHost Addr)

/-- The digest of a payload; the engine computes the same one. -/
def RequestHost.digest (payload : String) : String :=
  host.engine.runtime.payloadHashHex payload

/-- The checks of `sendRequest` on its arguments, up to the route it dials. -/
def checkRequest (call : RequestCall) (now : Nat) : Except RequestRefusal Addr :=
  if !isEndpoint call.toEndpointId then .error .invalidIdentity
  else if !isText call.text then .error .invalidText
  else if !isIdentifier call.requestId || !isIdentifier call.messageId then
    .error .invalidIdentifier
  else
    match host.routes call.toEndpointId with
    | none => .error .routeUnavailable
    | some route =>
        if host.engine.addrId route ≠ call.toEndpointId then .error .routeUnavailable
        else if checkPayloadAndFrame host.digest (requestEnvelope call) call.messageId
            call.toEndpointId now then .ok route
        else .error .invalidParams

/-- The row that `sendRequest` inserts. -/
def pendingRow (call : RequestCall) (payloadHash : String) (createdAt updatedAt : Nat) :
    Outbound where
  messageId := call.messageId
  toEndpointId := call.toEndpointId
  requestId := call.requestId
  payloadHash := payloadHash
  state := "pending"
  createdAt := createdAt
  updatedAt := updatedAt
  terminalAt := none
  closedAt := none
  closeReason := none

/-- What `sendRequest` does with the row of its message id: an open row inside
the idempotency window stays, and a new one is inserted. -/
def admitRequest (outbound : Table Outbound.messageId) (call : RequestCall) (payloadHash : String)
    (now updatedAt : Nat) : Except RequestRefusal (Table Outbound.messageId) :=
  match found : outbound.find? call.messageId with
  | some existing =>
      if existing.toEndpointId ≠ call.toEndpointId ∨ existing.payloadHash ≠ payloadHash then
        .error .conflict
      else if existing.closedAt.isSome then .error .correlationClosed
      else if tombstoneWindowMs < now - existing.createdAt then .error .retryWindowExpired
      else .ok outbound
  | none => .ok (outbound.insert (pendingRow call payloadHash now updatedAt) found)

/-- The clock readings of `sendRequest` up to its `send`. -/
structure RequestTimes where
  waited : Nat
  toAdmit : Nat
  toUpdate : Nat
  deriving DecidableEq, Repr

/-- `sendRequest` up to its `send`. -/
def sendRequest (outbound : Table Outbound.messageId) (call : RequestCall) (clock : Nat)
    (times : RequestTimes) :
    Except RequestRefusal (Table Outbound.messageId × SendFrame Addr) := do
  let now := clock + times.waited
  let route ← checkRequest host call now
  let payload := requestEnvelope call
  let admitted ← admitRequest outbound call (host.digest payload) (now + times.toAdmit)
    (now + times.toAdmit + times.toUpdate)
  return (admitted, ⟨call.messageId, payload, route⟩)

/-- What a call awaits. -/
inductive RequestPoint where
  | send
  | status
  deriving DecidableEq, Repr

/-- A call that waits for the engine. -/
structure RequestTurn where
  call : RequestCall
  point : RequestPoint
  deriving DecidableEq, Repr

/-- `UPDATE outbound SET state=?, updated_at=? WHERE message_id=?`. -/
def setRequestState (outbound : Table Outbound.messageId) (messageId state : String) (now : Nat) :
    Table Outbound.messageId :=
  outbound.update (fun row => row.messageId = messageId)
    (fun row => { row with state := state, updatedAt := now }) (fun _ _ => rfl)

/-- The same, with the first time at which the message was seen closed. -/
def setRequestTerminal (outbound : Table Outbound.messageId) (messageId state : String)
    (now : Nat) : Table Outbound.messageId :=
  outbound.update (fun row => row.messageId = messageId)
    (fun row =>
      { row with
        state := state
        terminalAt := some (row.terminalAt.getD now)
        updatedAt := now })
    (fun _ _ => rfl)

/-- `closed_at` of a request whose reply arrived, or that an operator closed. -/
def closeRequest (outbound : Table Outbound.messageId) (messageId reason : String) (now : Nat) :
    Table Outbound.messageId :=
  outbound.update (fun row => row.messageId = messageId)
    (fun row =>
      { row with
        closedAt := some now
        closeReason := some reason
        updatedAt := now })
    (fun _ _ => rfl)

/-- Whether the retention sweep of `step` deletes the row. -/
def Outbound.isSwept (now : Nat) (row : Outbound) : Bool :=
  match row.closedAt with
  | none => false
  | some closedAt => closedAt + retentionMs ≤ now

/-- What `sendRequest` writes after its `send`, and whether it goes on to ask for
the status. -/
def writeAfterSend (outbound : Table Outbound.messageId) (call : RequestCall) (now : Nat)
    (aborted : Bool) (error : Option String) : Table Outbound.messageId × Bool :=
  if aborted then (outbound, false)
  else if error = some "outbox_full" then (outbound, false)
  else
    match error with
    | some "conflict" => (setRequestState outbound call.messageId "conflict" now, false)
    | some "invalid_params" =>
        (setRequestState outbound call.messageId "invalid_params" now, false)
    | _ => (outbound, true)

/-- What `sendRequest` writes after the status; no answer is a failed call. -/
def writeAfterStatus (outbound : Table Outbound.messageId) (call : RequestCall) (now : Nat)
    (answer : Option MessageStatus) : Table Outbound.messageId :=
  match answer with
  | none => outbound
  | some status =>
      if status.messageId ≠ call.messageId ∨ status.peerEndpointId ≠ call.toEndpointId ∨
          status.payloadHash ≠ host.digest (requestEnvelope call) then outbound
      else if status.state = "refused" ∨ status.state = "expired" then
        setRequestTerminal outbound call.messageId status.state now
      else if status.state ∉ ["queued_local", "settled"] then outbound
      else setRequestState outbound call.messageId status.state now

/-- The service and its engine. `news` lists the ids for which `enqueue_outbound`
has returned `New`. -/
structure RequestWorld (Addr : Type) where
  outbound : Table Outbound.messageId
  turns : List RequestTurn
  frames : List (SendFrame Addr)
  engine : Journal Addr
  clock : Nat
  news : List String

/-- One step of the service and its engine. Calls and frames are named by their
position. -/
inductive RequestLabel (Addr : Type) where
  | request (times : RequestTimes) (call : RequestCall)
  | sent (waited position : Nat) (aborted : Bool) (error : Option String)
  | status (waited position : Nat) (answer : Option MessageStatus)
  | close (waited : Nat) (messageId reason : String)
  | sweep (waited : Nat)
  | restartDrain
  | handle (timing : Timing) (position : Nat)
  | lose (position : Nat)
  | engineCall (timing : Timing) (operation : Operation Addr)
  | restartEngine (waited : Nat)

variable [DecidableEq Addr]

/-- What `enqueue_outbound` answers in `send_message`, when the checks before it
pass. -/
def enqueueAnswer (config : EngineConfig Addr) (journal : Journal Addr) (io : Io) (peer : Addr)
    (messageId payload : String) :
    Option (Except JournalError (Except EnqueueError EnqueueOutcome)) :=
  if messageId.utf8ByteSize = 0 ∨ PeerEngine.maxMessageIdBytes < messageId.utf8ByteSize then none
  else
    match PeerMessage.new config messageId payload config.endpointIdHex io.now with
    | .error _ => none
    | .ok message =>
        match message.checkFrameSize config with
        | .error _ => none
        | .ok () =>
            some (journal.enqueueOutbound config.runtime io messageId payload (config.addrId peer)
              peer (io.now + config.retry.attemptTimeout * 2)).2

/-- The engine handles a `send`. -/
def RequestWorld.handle (world : RequestWorld Addr) (io : Io) (position : Nat)
    (frame : SendFrame Addr) : RequestWorld Addr :=
  let answer := enqueueAnswer host.engine world.engine io frame.peerAddr frame.messageId
    frame.payload
  { world with
    engine := (sendMessage host.engine world.engine io frame.peerAddr frame.messageId
      frame.payload).1
    clock := io.compactedAt
    frames := world.frames.eraseIdx position
    news := match answer with
      | some (.ok (.ok .new)) => world.news ++ [frame.messageId]
      | _ => world.news }

/-- A step of the service and its engine. -/
def requestStep (world : RequestWorld Addr) (label : RequestLabel Addr) : RequestWorld Addr :=
  match label with
  | .request times call =>
      let clock := world.clock + times.waited + times.toAdmit + times.toUpdate
      match sendRequest host world.outbound call world.clock times with
      | .error _ => { world with clock := clock }
      | .ok (outbound, frame) =>
          { world with
            outbound := outbound
            clock := clock
            frames := world.frames ++ [frame]
            turns := world.turns ++ [⟨call, .send⟩] }
  | .sent waited position aborted error =>
      match world.turns[position]? with
      | some ⟨call, .send⟩ =>
          let now := world.clock + waited
          let written := writeAfterSend world.outbound call now aborted error
          { world with
            outbound := written.1
            clock := now
            turns :=
              if written.2 then world.turns.set position ⟨call, .status⟩
              else world.turns.eraseIdx position }
      | _ => world
  | .status waited position answer =>
      match world.turns[position]? with
      | some ⟨call, .status⟩ =>
          let now := world.clock + waited
          { world with
            outbound := writeAfterStatus host world.outbound call now answer
            clock := now
            turns := world.turns.eraseIdx position }
      | _ => world
  | .close waited messageId reason =>
      { world with
        outbound := closeRequest world.outbound messageId reason (world.clock + waited)
        clock := world.clock + waited }
  | .sweep waited =>
      { world with
        outbound := world.outbound.delete (Outbound.isSwept (world.clock + waited))
        clock := world.clock + waited }
  | .restartDrain => { world with turns := [] }
  | .handle timing position =>
      match world.frames[position]? with
      | none => world
      | some frame => world.handle host (timing.io world.clock) position frame
  | .lose position => { world with frames := world.frames.eraseIdx position }
  | .engineCall timing operation =>
      let io := timing.io world.clock
      { world with
        engine := operation.perform host.engine.runtime io world.engine
        clock := io.compactedAt }
  | .restartEngine waited =>
      let now := world.clock + waited
      match Journal.openWith host.engine.runtime host.engine.limits (some world.engine.file) now
          .replaced with
      | .error _ => world
      | .ok journal => { world with engine := journal, clock := now }

/-- The service and its engine, from empty state directories. -/
def requestMachine : Machine (RequestWorld Addr) (RequestLabel Addr) where
  initial :=
    { outbound := Table.empty
      turns := []
      frames := []
      engine := Journal.fresh host.engine.limits
      clock := 0
      news := [] }
  step := requestStep host

end

end Triangle.PeerDrain
