import Triangle.PeerDrain.Service
import Triangle.Semantics.Machine

/-!
# The drain service, one effect at a time

`step`, `executeRunnerTurn`, `deliverReply`, `ackItem` and `sendOutcome` of
`peer-drain-service.mjs` as a machine. A `Point` is what the step in flight does
next; every step of the machine makes at most one database statement, sends one
request or takes one answer, so a run may stop the process between any two of
them. Operator calls happen where the source waits.

The engine lists an item until it has handled an ack for it. Requests and
answers travel apart: an ack that was sent may be handled late or never, and the
page that a poll brings may be out of date. A runner that reports its start
(`signalsStart`) starts while its turn waits for it, and any other one when it is
called. `hook` is for tests and left out; where the source waits for it, the
step waits.
-/

namespace Triangle.PeerDrain

open Triangle.Std
open Triangle.Semantics (Machine)

/-- An item of the engine's inbox; a field that is not a string is `none`. -/
structure InboxItem where
  fromEndpointId : String
  messageId : String
  payload : Option String
  payloadHash : Option String
  deriving DecidableEq, Repr

/-- The message that an item is about. -/
def InboxItem.key (item : InboxItem) : MessageKey :=
  (item.fromEndpointId, item.messageId)

/-- A dialable route. -/
structure Route where
  id : String
  addrs : List String
  deriving DecidableEq, Repr

/-- The answer to `message_status`. -/
structure MessageStatus where
  messageId : String
  peerEndpointId : String
  payloadHash : String
  state : String
  reason : Option String
  deriving DecidableEq, Repr

/-- The work of a runner turn. -/
structure Work where
  key : MessageKey
  inputHash : String
  inputPayload : Option String
  requestId : Option String
  executionAttempt : Nat
  isNew : Bool
  deriving DecidableEq, Repr

/-- What follows a successful ack. -/
inductive AfterAck where
  | finish
  | close
  | outcome (state reason : String)
  | replyView
  deriving DecidableEq, Repr

/-- What the step in flight does next. -/
inductive Point where
  | retention
  | sweepOutbound
  | choose
  | resume (key : MessageKey)
  | rerun (work : Work)
  | deliver (row : Record)
  | failReply (key : MessageKey) (reason : String)
  | sending (row : Record)
  | checking (row : Record)
  | markAdmitted (key : MessageKey)
  | admitted (key : MessageKey)
  | ack (key : MessageKey) (next : AfterAck)
  | acking (key : MessageKey) (next : AfterAck)
  | markAcked (key : MessageKey) (next : AfterAck)
  | close (key : MessageKey)
  | stampTerminal (key : MessageKey)
  | outcome (row : Record) (state reason : String)
  | sendingOutcome (key : MessageKey)
  | markOutcome (key : MessageKey)
  | polling (page : Option (Option InboxItem))
  | reject (item : InboxItem) (reason : String)
  | closeOutbound (item : InboxItem) (requestId inReplyTo : String)
  | storeReply (item : InboxItem) (requestId inReplyTo : String)
  | replyAcked
  | insertExecuting (work : Work)
  | executing (work : Work)
  | running (work : Work) (started : Bool)
  | notStarted (work : Work)
  | hold (work : Work) (reason : String)
  | storeResult (work : Work) (text : String)
  | resultStored (key : MessageKey)
  deriving DecidableEq, Repr

/-- Where the source waits, so that other calls can come in between. -/
def Point.waits : Point → Bool
  | .sending _ | .checking _ | .admitted _ | .acking .. | .sendingOutcome _ | .polling _
  | .replyAcked | .executing _ | .running .. | .resultStored _ => true
  | _ => false

/-- The step in flight, and whether its signal is aborted. -/
structure Flight where
  aborted : Bool
  point : Point
  deriving DecidableEq, Repr

/-- What the outside saw. -/
inductive DrainEvent where
  | started (key : MessageKey)
  | retried (key : MessageKey)
  | discarded (key : MessageKey)
  deriving DecidableEq, Repr

/-- The service, its engine's inbox and what happened so far. -/
structure DrainWorld where
  journal : DrainJournal
  clock : Nat
  routes : List (String × Route)
  signalsStart : Bool
  flight : Option Flight
  activeExecutions : List MessageKey
  inbox : List InboxItem
  arrived : List MessageKey
  acksSent : List MessageKey
  log : List DrainEvent

/-- How a runner's turn ends for the step: a timeout, an abort and a thrown
error are failures. -/
inductive RunnerOutcome where
  | completed (text : String)
  | failed (reason : String)
  deriving DecidableEq, Repr

/-- The answer to a request of the step in flight. -/
inductive IpcAnswer where
  | failed (code : Option String)
  | done
  | status (status : Option MessageStatus)
  | acked (verified : Bool)
  | page
  deriving DecidableEq, Repr

/-- One step of the service or of what is around it. -/
inductive DrainLabel where
  | step (aborted : Bool)
  | advance (tie : Nat)
  | abort
  | answer (answer : IpcAnswer)
  | runnerStarts
  | runnerEnds (outcome : RunnerOutcome)
  | runnerSettles (key : MessageKey)
  | engineLists (item : InboxItem)
  | engineAcks (key : MessageKey)
  | enginePolls
  | resolve (call : ResolveCall)
  | consumeReply (key : MessageKey)
  | writeOutbound (outbound : Table Outbound.messageId)
  | setClock (now : Nat)
  | restart (routes : List (String × Route)) (signalsStart : Bool)

namespace DrainWorld

/-- Go on at another point. -/
def goTo (world : DrainWorld) (point : Point) : DrainWorld :=
  { world with flight := world.flight.map fun flight => { flight with point := point } }

/-- The step returns or throws. -/
def finish (world : DrainWorld) : DrainWorld :=
  { world with flight := none }

/-- Make a statement on the journal. -/
def write (world : DrainWorld) (journal : DrainJournal) : DrainWorld :=
  { world with journal := journal }

/-- The dialable route of a sender. -/
def hasRoute (world : DrainWorld) (sender : String) : Bool :=
  match (world.routes.find? fun route => route.1 = sender).map Prod.snd with
  | none => false
  | some route => route.id = sender

/-- The runner starts. -/
def started (world : DrainWorld) (key : MessageKey) : DrainWorld :=
  { world with log := world.log ++ [.started key] }

end DrainWorld

section

variable (digest : String → String)

/-- The turn of a record that an operator retries. -/
def Record.work (row : Record) : Work :=
  ⟨row.key, row.inputHash, row.inputPayload, row.requestId, row.executionAttempt, false⟩

/-- Steps 1 to 6 of `step`: what there is to do. `tie` decides between rows that
were updated at the same time. -/
def chooseNext (world : DrainWorld) (tie : Nat) : DrainWorld :=
  match oldest world.journal tie fun row => row.phase = .resendPending with
  | some row => world.goTo (.resume row.key)
  | none =>
      match oldest world.journal tie fun row => row.phase = .retryPending with
      | some row => world.goTo (.rerun row.work)
      | none =>
          match oldest world.journal tie fun row => row.phase = .result || row.phase = .admitted with
          | some row => world.goTo (.deliver row)
          | none =>
              match oldest world.journal tie fun row =>
                  !row.outcomeSent && (row.phase = .held ||
                    (row.phase = .replyFailed && row.reason = some "result_too_large")) with
              | some row =>
                  let state := if row.phase = .held then "held" else "failed"
                  world.goTo (.outcome row state (row.reason.getD state))
              | none =>
                  if maxRecordsCap ≤ world.journal.records.rows.length then world.finish
                  else world.goTo (.polling none)

/-- `deliverReply` up to its `send` request. -/
def deliverReply (world : DrainWorld) (row : Record) : DrainWorld :=
  if !world.hasRoute row.sender then world.goTo (.failReply row.key "route_unavailable")
  else if !checkPayloadAndFrame digest (row.replyPayload.getD "") (row.replyId.getD "") row.sender
      world.clock then
    world.goTo (.failReply row.key "result_too_large")
  else world.goTo (.sending row)

/-- `deliverReply` after its `send` request. -/
def afterSend (world : DrainWorld) (aborted : Bool) (row : Record) (error : Option String) :
    DrainWorld :=
  if aborted then world.finish
  else if error = some "outbox_full" then world.finish
  else if error = some "conflict" ∨ error = some "invalid_params" then
    world.goTo (.failReply row.key (error.getD ""))
  else world.goTo (.checking row)

/-- `deliverReply` after its `message_status` request. -/
def afterStatus (world : DrainWorld) (row : Record) (status : Option MessageStatus) : DrainWorld :=
  match status with
  | none => world.goTo (.failReply row.key "admission_mismatch")
  | some status =>
      if some status.messageId ≠ row.replyId ∨ status.peerEndpointId ≠ row.sender ∨
          status.payloadHash ≠ digest (row.replyPayload.getD "") then
        world.goTo (.failReply row.key "admission_mismatch")
      else if status.state = "expired" ∨ status.state = "refused" then
        world.goTo (.failReply row.key
          (match status.reason with
            | some reason => if reason = "" then status.state else reason
            | none => status.state))
      else if status.state ≠ "queued_local" ∧ status.state ≠ "settled" then
        world.goTo (.failReply row.key "admission_unverified")
      else world.goTo (.markAdmitted row.key)

/-- After `ackItem` returned. -/
def afterAck (world : DrainWorld) (key : MessageKey) (next : AfterAck) : DrainWorld :=
  match next with
  | .finish => world.finish
  | .close => world.goTo (.close key)
  | .outcome state reason =>
      match world.journal.getRow key with
      | none => world.finish
      | some row => world.goTo (.outcome row state reason)
  | .replyView => world.goTo .replyAcked

/-- `ackItem` up to its request. -/
def ackItem (world : DrainWorld) (key : MessageKey) (next : AfterAck) : DrainWorld :=
  if (world.journal.getRow key).any Record.inputAcked then afterAck world key next
  else
    { world with acksSent := key :: world.acksSent }.goTo (.acking key next)

/-- Steps after the poll: what to do with the item. -/
def handleItem (world : DrainWorld) (item : InboxItem) : DrainWorld :=
  let named := isEndpoint item.fromEndpointId && isIdentifier item.messageId
  let row := if named then world.journal.getRow item.key else none
  if row.any fun row => row.phase.isTerminal then world.goTo (.ack item.key .finish)
  else
    match row.filter fun row => row.phase = .result || row.phase = .admitted with
    | some row => world.goTo (.deliver row)
    | none =>
        match item.payload with
        | none => world.goTo (.reject item "invalid_envelope")
        | some payload =>
            if !named then world.goTo (.reject item "invalid_envelope")
            else if item.payloadHash ≠ some (digest payload) then
              world.goTo (.reject item "hash_mismatch")
            else if !checkPayloadAndFrame digest payload item.messageId item.fromEndpointId
                world.clock then
              world.goTo (.reject item "payload_too_large")
            else
              match parsePeerEnvelope payload with
              | .error _ => world.goTo (.reject item "invalid_envelope")
              | .ok envelope =>
                  if !world.hasRoute item.fromEndpointId then
                    world.goTo (.reject item "unroutable_sender")
                  else if row.any fun row => some row.inputHash ≠ item.payloadHash then
                    world.goTo (.reject item "input_conflict")
                  else
                    match envelope with
                    | .request requestId _ =>
                        world.goTo (.insertExecuting
                          ⟨item.key, item.payloadHash.getD "", some payload, some requestId, 1,
                            true⟩)
                    | .reply requestId inReplyTo _ =>
                        correlate requestId inReplyTo (.closeOutbound item requestId inReplyTo)
                    | .outcome requestId inReplyTo _ _ =>
                        correlate requestId inReplyTo (.storeReply item requestId inReplyTo)
where
  /-- A reply or an outcome answers an open request to its sender. -/
  correlate (requestId inReplyTo : String) (next : Point) : DrainWorld :=
    match world.journal.outbound.find? inReplyTo with
    | none => world.goTo (.reject item "unsolicited_reply")
    | some outbound =>
        if outbound.toEndpointId ≠ item.fromEndpointId ∨ outbound.requestId ≠ requestId then
          world.goTo (.reject item "unsolicited_reply")
        else if outbound.closedAt.isSome then world.goTo (.reject item "correlation_closed")
        else world.goTo next

/-- The statement of `rejectAndAck`. -/
def rejectItem (world : DrainWorld) (item : InboxItem) (reason : String) : DrainWorld :=
  let ack : Point := .ack item.key .finish
  if isEndpoint item.fromEndpointId && isIdentifier item.messageId then
    match world.journal.insertRow
        { sender := item.fromEndpointId
          messageId := item.messageId
          inputHash := item.payloadHash.getD ""
          phase := .rejected
          reason := some reason
          terminalAt := some world.clock
          createdAt := world.clock
          updatedAt := world.clock } with
    | some journal => (world.write journal).goTo ack
    | none =>
        (world.write (world.journal.updateRow item.key fun row =>
          { row with
            phase := .rejected
            reason := some reason
            terminalAt := some world.clock
            updatedAt := world.clock })).goTo ack
  else world.goTo ack

/-- The row of a received reply or outcome. -/
def replyRow (item : InboxItem) (requestId inReplyTo : String) (now : Nat) : Record where
  sender := item.fromEndpointId
  messageId := item.messageId
  inputHash := item.payloadHash.getD ""
  phase := .replyReceived
  inReplyTo := some inReplyTo
  requestId := some requestId
  replyPayload := item.payload
  inputPayload := item.payload
  createdAt := now
  updatedAt := now

/-- The row of a new request. -/
def executingRow (work : Work) (now : Nat) : Record where
  sender := work.key.1
  messageId := work.key.2
  inputHash := work.inputHash
  phase := .executing
  requestId := work.requestId
  inputPayload := work.inputPayload
  executionAttempt := work.executionAttempt
  createdAt := now
  updatedAt := now

/-- `executeRunnerTurn` from its abort check to the call of the runner. -/
def callRunner (world : DrainWorld) (aborted : Bool) (work : Work) : DrainWorld :=
  if aborted then world.goTo (.notStarted work)
  else if !readsAsEnvelope work.inputPayload then
    if world.signalsStart then world.goTo (.notStarted work)
    else world.goTo (.hold work "invalid_envelope")
  else
    let called := { world with activeExecutions := work.key :: world.activeExecutions }
    if world.signalsStart then called.goTo (.running work false)
    else (called.started work.key).goTo (.running work true)

/-- `executeRunnerTurn` once the runner's race is over. -/
def afterRunner (world : DrainWorld) (aborted : Bool) (work : Work) (started : Bool)
    (outcome : RunnerOutcome) : DrainWorld :=
  match outcome with
  | .completed text =>
      if aborted then failed "runner_failed"
      else if Text.isBlank text then failed "invalid_runner_result"
      else world.goTo (.storeResult work text)
  | .failed reason => failed reason
where
  /-- The turn did not complete. -/
  failed (reason : String) : DrainWorld :=
    if started then world.goTo (.hold work reason) else world.goTo (.notStarted work)

/-- The statement that stores a result, and what follows it. -/
def storeResult (world : DrainWorld) (work : Work) (text : String) : DrainWorld :=
  let replyId := derivePeerReplyId digest work.key.1 work.key.2
  let payload := replyPayload (work.requestId.getD "") work.key.2 text
  if maxPayloadBytes < text.utf8ByteSize ||
      !checkPayloadAndFrame digest payload replyId work.key.1 world.clock then
    (world.write (world.journal.updateRow work.key fun row =>
      { row with
        phase := .replyFailed
        replyId := some replyId
        replyPayload := some payload
        resultPayload := some text
        reason := some "result_too_large"
        terminalAt := some world.clock
        updatedAt := world.clock })).goTo (.ack work.key (.outcome "failed" "result_too_large"))
  else
    (world.write (world.journal.updateRow work.key fun row =>
      { row with
        phase := .result
        replyId := some replyId
        replyPayload := some payload
        resultPayload := some text
        updatedAt := world.clock })).goTo (.resultStored work.key)

/-- The statement for a turn whose runner never started. -/
def dropTurn (world : DrainWorld) (work : Work) : DrainWorld :=
  let unfinished : Record → Bool := fun row => row.key = work.key && row.phase = .executing
  if work.isNew then (world.write (world.journal.deleteWhere unfinished)).finish
  else
    (world.write (world.journal.updateWhere unfinished fun row =>
      { row with
        phase := .held
        updatedAt := world.clock })).finish

/-- The next effect of the step in flight. -/
def advance (world : DrainWorld) (tie : Nat) : DrainWorld :=
  match world.flight with
  | none => world
  | some flight =>
      match flight.point with
      | .retention =>
          (world.write (world.journal.deleteWhere (Record.isExpired world.clock))).goTo .sweepOutbound
      | .sweepOutbound =>
          (world.write
            { world.journal with
              outbound := world.journal.outbound.delete fun row =>
                row.closedAt.any fun closedAt => closedAt + retentionMs ≤ world.clock }).goTo .choose
      | .choose => chooseNext world tie
      | .resume key =>
          let resumed := world.write (world.journal.updateRow key fun row =>
            { row with
              phase := .result
              updatedAt := world.clock })
          match resumed.journal.getRow key with
          | none => resumed.finish
          | some row => resumed.goTo (.deliver row)
      | .rerun work =>
          (world.write (world.journal.updateRow work.key fun row =>
            { row with
              phase := .executing
              outcomeSent := false
              updatedAt := world.clock })).goTo (.executing work)
      | .deliver row => deliverReply digest world row
      | .failReply key reason =>
          (world.write (world.journal.updateRow key fun row =>
            { row with
              phase := .replyFailed
              reason := some reason
              terminalAt := some world.clock
              updatedAt := world.clock })).goTo (.ack key .finish)
      | .markAdmitted key =>
          (world.write (world.journal.updateRow key fun row =>
            { row with
              phase := .admitted
              updatedAt := world.clock })).goTo (.admitted key)
      | .admitted key => world.goTo (.ack key .close)
      | .ack key next => ackItem world key next
      | .markAcked key next =>
          afterAck (world.write (world.journal.updateRow key fun row =>
            { row with
              inputAcked := true
              updatedAt := world.clock })) key next
      | .close key =>
          (world.write (world.journal.updateRow key fun row =>
            { row with
              phase := .acked
              updatedAt := world.clock })).goTo (.stampTerminal key)
      | .stampTerminal key =>
          (world.write (world.journal.updateRow key fun row =>
            { row with terminalAt := some world.clock })).finish
      | .outcome row _ _ =>
          if world.hasRoute row.sender && row.requestId.any isIdentifier then
            world.goTo (.sendingOutcome row.key)
          else world.goTo (.markOutcome row.key)
      | .markOutcome key =>
          (world.write (world.journal.updateRow key fun row =>
            { row with outcomeSent := true })).finish
      | .reject item reason => rejectItem world item reason
      | .closeOutbound item requestId inReplyTo =>
          (world.write
            { world.journal with
              outbound := world.journal.outbound.update (fun row => row.messageId = inReplyTo)
                (fun row =>
                  { row with
                    closedAt := some world.clock
                    closeReason := some "reply_received"
                    updatedAt := world.clock })
                (fun _ _ => rfl) }).goTo (.storeReply item requestId inReplyTo)
      | .storeReply item requestId inReplyTo =>
          match world.journal.insertRow (replyRow item requestId inReplyTo world.clock) with
          | none => world.finish
          | some journal => (world.write journal).goTo (.ack item.key .replyView)
      | .replyAcked => world.finish
      | .insertExecuting work =>
          match world.journal.insertRow (executingRow work world.clock) with
          | none => world.finish
          | some journal => (world.write journal).goTo (.executing work)
      | .executing work => callRunner world flight.aborted work
      | .notStarted work => dropTurn world work
      | .hold work reason =>
          (world.write (world.journal.updateRow work.key fun row =>
            { row with
              phase := .held
              reason := some reason
              terminalAt := some world.clock
              updatedAt := world.clock })).goTo (.ack work.key (.outcome "held" reason))
      | .storeResult work text => storeResult digest world work text
      | .resultStored key =>
          match world.journal.getRow key with
          | none => world.finish
          | some row => world.goTo (.deliver row)
      | .sending _ | .checking _ | .acking .. | .sendingOutcome _ | .polling _ | .running .. => world

/-- The step in flight takes the answer to its request. -/
def takeAnswer (world : DrainWorld) (answer : IpcAnswer) : DrainWorld :=
  match world.flight with
  | none => world
  | some flight =>
      match flight.point, answer with
      | .sending row, .failed code => afterSend world flight.aborted row code
      | .sending row, .done => afterSend world flight.aborted row none
      | .checking _, .failed _ => world.finish
      | .checking row, .status status => afterStatus digest world row status
      | .acking _ _, .failed _ => world.finish
      | .acking _ _, .acked false => world.finish
      | .acking key next, .acked true => world.goTo (.markAcked key next)
      | .sendingOutcome key, .failed _ =>
          if flight.aborted then world.finish else world.goTo (.markOutcome key)
      | .sendingOutcome key, .done => world.goTo (.markOutcome key)
      | .polling _, .failed _ => world.finish
      | .polling (some none), .page => world.finish
      | .polling (some (some item)), .page => handleItem digest world item
      | _, _ => world

/-- An operator call, where the service can take it. -/
def takeResolve (world : DrainWorld) (call : ResolveCall) : DrainWorld :=
  if world.flight.all fun flight => flight.point.waits then
    match resolvePeerRecord digest world.journal (call.key ∈ world.activeExecutions) call
        world.clock with
    | .error _ => world
    | .ok (journal, resolution, _) =>
        let events : List DrainEvent :=
          match resolution with
          | .retried => [.retried call.key]
          | .discarded => [.discarded call.key]
          | _ => []
        { world with
          journal := journal
          log := world.log ++ events }
  else world

/-- Whether the engine may list the item: it is new, or it comes again within
eight days of its record's `terminal_at`. -/
def DrainWorld.mayList (world : DrainWorld) (item : InboxItem) : Bool :=
  item.key ∉ world.arrived ||
    (world.journal.getRow item.key).any fun row =>
      row.terminalAt.any fun terminalAt => world.clock ≤ terminalAt + retentionMs

/-- One step. -/
def drainStep (world : DrainWorld) (label : DrainLabel) : DrainWorld :=
  match label with
  | .step aborted =>
      if world.flight.isSome || aborted then world
      else { world with flight := some ⟨false, .retention⟩ }
  | .advance tie => advance digest world tie
  | .abort => { world with flight := world.flight.map fun flight => { flight with aborted := true } }
  | .answer answer => takeAnswer digest world answer
  | .runnerStarts =>
      match world.flight with
      | some ⟨_, .running work false⟩ => (world.started work.key).goTo (.running work true)
      | _ => world
  | .runnerEnds outcome =>
      match world.flight with
      | some ⟨aborted, .running work started⟩ => afterRunner world aborted work started outcome
      | _ => world
  | .runnerSettles key =>
      { world with activeExecutions := world.activeExecutions.filter (· ≠ key) }
  | .engineLists item =>
      if world.mayList item then
        { world with
          inbox := world.inbox ++ [item]
          arrived := item.key :: world.arrived }
      else world
  | .engineAcks key =>
      if key ∈ world.acksSent then
        { world with inbox := world.inbox.filter fun item => item.key ≠ key }
      else world
  | .enginePolls =>
      match world.flight with
      | some ⟨_, .polling none⟩ => world.goTo (.polling (some world.inbox.head?))
      | _ => world
  | .resolve call => takeResolve digest world call
  | .consumeReply key =>
      if world.flight.all fun flight => flight.point.waits then
        match consumeReply world.journal key world.clock with
        | .error _ => world
        | .ok journal => world.write journal
      else world
  | .writeOutbound outbound => world.write { world.journal with outbound := outbound }
  | .setClock now => { world with clock := now }
  | .restart routes signalsStart =>
      { world with
        journal := world.journal.updateWhere (fun row => row.phase = .executing) fun row =>
          { row with
            phase := .held
            reason := some "crash_recovery"
            terminalAt := some world.clock
            updatedAt := world.clock }
        routes := routes
        signalsStart := signalsStart
        flight := none
        activeExecutions := [] }

/-- The service from an empty state directory. -/
def drainMachine : Machine DrainWorld DrainLabel where
  initial :=
    { journal := DrainJournal.empty
      clock := 0
      routes := []
      signalsStart := false
      flight := none
      activeExecutions := []
      inbox := []
      arrived := []
      acksSent := []
      log := [] }
  step := drainStep digest

end

end Triangle.PeerDrain
