import Triangle.LocalMessaging.Store

/-!
# Wake bindings

One row per target says which session is bound to it and where the delivery of
its current wake stands. Two families of entry points write that row: the
desktop notifier (`initWakeBinding`, `setWake…`, `ackWake`) and the interactive
session (`…InteractiveWake…`, `bindAttachedSessionWake`).

Each function is one synchronous block or one immediate transaction of the
source, so it is one step here; a function that throws has written nothing.
-/

namespace Triangle.LocalMessaging

open Triangle.Std Triangle.Std.Text

/-- `delivery_state` of a wake binding. -/
inductive DeliveryState
  | idle
  | submitting
  | acceptedAwaitingAck
  | uncertain
  | staleHeld
  deriving DecidableEq, Repr

/-- The stored text of a delivery state. -/
def DeliveryState.name : DeliveryState → String
  | .idle => "idle"
  | .submitting => "submitting"
  | .acceptedAwaitingAck => "accepted_awaiting_ack"
  | .uncertain => "uncertain"
  | .staleHeld => "stale_held"

/-- A snapshot fingerprint: the version 2 list of obligation hashes, or any
other stored text. -/
inductive Fingerprint
  | v2 (items : List String)
  | legacy (text : String)
  deriving DecidableEq, Repr

/-- A row of `local_wake_bindings`. -/
structure WakeBinding where
  targetIdentity : String
  bindingId : String
  authBindingId : Option String := none
  threadId : String
  generation : Int
  deliveryState : DeliveryState := .idle
  activeWakeId : Option String := none
  activeFingerprint : Option Fingerprint := none
  lastAcknowledgedFingerprint : Option Fingerprint := none
  lastAcknowledgedWakeId : Option String := none
  receiptQueuedId : Option String := none
  receiptThreadId : Option String := none
  lastSubmittedAt : Option Int := none
  createdAt : Int
  updatedAt : Int
  deriving DecidableEq, Repr

/-- `state` of a wake history row. -/
inductive WakeHistoryState
  | submitting
  | acceptedAwaitingAck
  | uncertain
  | acknowledged
  deriving DecidableEq, Repr

/-- The primary key of `local_interactive_wake_history`. -/
structure WakeHistoryKey where
  targetIdentity : String
  sessionId : String
  bindingId : String
  generation : Int
  wakeId : String
  deriving DecidableEq, Repr

/-- A row of `local_interactive_wake_history`. -/
structure WakeHistoryRow where
  key : WakeHistoryKey
  state : WakeHistoryState
  createdAt : Int
  updatedAt : Int

/-- The wake tables. -/
structure WakeStore where
  bindings : Table WakeBinding.targetIdentity
  history : Table WakeHistoryRow.key

/-- One obligation of a target, as it is hashed. -/
inductive WakeItem
  | reply (messageId : String) (createdAt : Int)
  | held (messageId : String) (at_ : Int) (hasLateResult : Bool)
  | queued (messageId : String) (at_ : Int)
  deriving DecidableEq, Repr

/-- What the wake functions take from the platform. -/
structure WakeRuntime where
  wakeItemHash : WakeItem → String
  toLowerCase : String → String

/-- `UUID_PATTERN`. -/
def isUuid (text : String) : Bool :=
  let isHex (c : Char) : Bool := c.isDigit || ('a' ≤ c && c ≤ 'f') || ('A' ≤ c && c ≤ 'F')
  let groups := text.toList.splitOn '-'
  groups.map List.length = [8, 4, 4, 4, 12] && groups.all (·.all isHex)

/-- `wakeSnapshotCovered`. -/
def wakeSnapshotCovered (current : Fingerprint) (acknowledged : Option Fingerprint) : Bool :=
  if acknowledged = some current then true
  else match current, acknowledged with
    | .v2 now, some (.v2 prior) => now.all fun item => prior.contains item
    | _, _ => false

/-- `claude-session:…`, the thread of an interactive session. -/
def sessionThread (sessionId : String) : String :=
  "claude-session:" ++ sessionId

/-- The state a rebind leaves the delivery in. -/
def DeliveryState.afterRebind (state : DeliveryState) : DeliveryState :=
  if state ≠ .idle then .staleHeld else .idle

/-- The result of `getWakeObligationsSync`. -/
structure WakeObligations where
  unreadReplies : List ReplyRow
  heldMessages : List MessageRow
  queuedMessages : List MessageRow
  hasLateResult : Bool
  snapshotFingerprint : Fingerprint

/-- Change the binding of one target. -/
def WakeStore.updateBinding (store : WakeStore) (targetIdentity : String)
    (change : WakeBinding → WakeBinding)
    (keeps : ∀ binding, (change binding).targetIdentity = binding.targetIdentity) : WakeStore :=
  { store with
    bindings := store.bindings.update (·.targetIdentity = targetIdentity) change
      fun binding _ => keeps binding }

/-- Add the binding of a target that has none. -/
def WakeStore.insertBinding (store : WakeStore) (binding : WakeBinding) : WakeStore :=
  { store with bindings := store.bindings.upsert binding }

/-- Set the state of one history row. -/
def WakeStore.updateHistory (store : WakeStore) (key : WakeHistoryKey) (state : WakeHistoryState)
    (now : Int) : WakeStore :=
  { store with
    history := store.history.update (·.key = key)
      (fun row => { row with state := state, updatedAt := now }) fun _ _ => rfl }

/-- The binding of a target, or an error. -/
def WakeStore.requireBinding (store : WakeStore) (targetIdentity : String)
    (error : MessagingError) : Outcome WakeBinding :=
  match store.bindings.find? targetIdentity with
  | some binding => .ok binding
  | none => .error error

section

variable (runtime : WakeRuntime)

/-- `getWakeObligationsSync`. -/
def getWakeObligationsSync (store : WakeStore) (journal : Journal) (targetIdentity : String)
    (interactive : Bool := false) : WakeObligations :=
  let isInteractive := interactive ||
    ((store.bindings.find? targetIdentity).any fun binding =>
      "claude-session:".toList.isPrefixOf binding.threadId.toList)
  let unreadReplies := orderByCreated ReplyRow.createdAt ReplyRow.messageId
    (journal.replies.select fun reply => reply.recipient = targetIdentity && !reply.consumed)
  let heldMessages := orderByCreated MessageRow.createdAt MessageRow.messageId
    (journal.messages.select fun message => message.sender = targetIdentity && message.phase = .held)
  let queuedMessages :=
    if isInteractive then orderByCreated MessageRow.createdAt MessageRow.messageId
      (journal.messages.select fun message => message.recipient = targetIdentity &&
        message.phase = .queuedLocal && message.recipientType = .interactive)
    else []
  let changedAt (message : MessageRow) : Int :=
    if message.updatedAt = 0 then message.createdAt else message.updatedAt
  let items :=
    unreadReplies.map (fun reply => runtime.wakeItemHash (.reply reply.messageId reply.createdAt)) ++
    heldMessages.map (fun message => runtime.wakeItemHash
      (.held message.messageId (changedAt message) (message.lateResultText.any (· ≠ "")))) ++
    queuedMessages.map (fun message => runtime.wakeItemHash
      (.queued message.messageId (changedAt message)))
  { unreadReplies := unreadReplies
    heldMessages := heldMessages
    queuedMessages := queuedMessages
    hasLateResult := heldMessages.any (·.lateResultText.isSome)
    snapshotFingerprint := .v2 (items.mergeSort fun first second => first ≤ second) }

/-- Arguments of `initWakeBinding`; `randomUUID` is the id the call would draw. -/
structure InitWakeBindingArgs where
  targetIdentity : String
  threadId : String
  bindingId : Option String := none
  authBindingId : Option String := none
  generation : Option Int := none
  randomUUID : String

/-- `initWakeBinding`. -/
def initWakeBinding (args : InitWakeBindingArgs) (now : Int) (store : WakeStore) :
    Outcome WakeStore := do
  require (args.targetIdentity ≠ "" ∧ args.threadId ≠ "")
    ⟨.invalidParams, "targetIdentity and threadId are required"⟩
  let uuidBinding := (args.bindingId.filter isUuid).map runtime.toLowerCase
  let effectiveAuthBinding := args.authBindingId.orElse fun _ =>
    args.bindingId.filter fun bindingId => bindingId ≠ "" && !isUuid bindingId
  let nextBindingId := uuidBinding.getD args.randomUUID
  match store.bindings.find? args.targetIdentity with
  | none =>
      return store.insertBinding
        { targetIdentity := args.targetIdentity
          bindingId := nextBindingId
          authBindingId := effectiveAuthBinding
          threadId := args.threadId
          generation := (args.generation.filter fun generation => 1 ≤ generation).getD 1
          createdAt := now
          updatedAt := now }
  | some existing =>
      let threadChanged := existing.threadId ≠ args.threadId
      let authBindingChanged := effectiveAuthBinding.any fun auth => auth ≠ "" &&
        existing.authBindingId.any fun stored => stored ≠ "" && stored ≠ auth
      let uuidBindingChanged := uuidBinding.any fun uuid => existing.bindingId ≠ uuid
      if threadChanged || authBindingChanged || uuidBindingChanged then
        return store.updateBinding args.targetIdentity
          (fun binding => { binding with
            bindingId := nextBindingId
            authBindingId := effectiveAuthBinding.orElse fun _ => binding.authBindingId
            threadId := args.threadId
            generation := existing.generation + 1
            deliveryState := existing.deliveryState.afterRebind
            updatedAt := now })
          fun _ => rfl
      else return store

/-- Who an interactive session is: its address, session, generation and child. -/
structure SessionArgs where
  targetIdentity : String
  sessionId : String
  generation : Int
  bindingId : String

/-- `initInteractiveWakeBinding`. -/
def initInteractiveWakeBinding (args : SessionArgs) (now : Int) (store : WakeStore) :
    Outcome WakeStore := do
  require (args.targetIdentity ≠ "" ∧ args.sessionId ≠ "" ∧ args.bindingId ≠ "")
    ⟨.invalidParams, "senderId, sessionId, generation, and bindingId are required"⟩
  let canonicalBindingId := runtime.toLowerCase args.bindingId
  let threadId := sessionThread args.sessionId
  match store.bindings.find? args.targetIdentity with
  | none =>
      return store.insertBinding
        { targetIdentity := args.targetIdentity
          bindingId := canonicalBindingId
          threadId := threadId
          generation := args.generation
          createdAt := now
          updatedAt := now }
  | some existing =>
      if existing.bindingId ≠ canonicalBindingId ∨ existing.generation ≠ args.generation ∨
          existing.threadId ≠ threadId then
        return store.updateBinding args.targetIdentity
          (fun binding => { binding with
            bindingId := canonicalBindingId
            threadId := threadId
            generation := args.generation
            deliveryState := existing.deliveryState.afterRebind
            updatedAt := now })
          fun _ => rfl
      else return store

/-- `Number.isSafeInteger(generation) && generation >= 1`. -/
def isPositiveSafe (generation : Int) : Bool :=
  1 ≤ generation && generation ≤ 9007199254740991

/-- `bindAttachedSessionWake`. -/
def bindAttachedSessionWake (args : SessionArgs) (now : Int) (store : WakeStore) :
    Outcome WakeStore := do
  require (args.targetIdentity ≠ "" ∧ args.sessionId ≠ "" ∧ args.bindingId ≠ "" ∧
      isPositiveSafe args.generation = true)
    ⟨.invalidParams, "senderId, sessionId, bindingId, and a positive generation are required"⟩
  let canonicalBindingId := runtime.toLowerCase args.bindingId
  let threadId := sessionThread args.sessionId
  match store.bindings.find? args.targetIdentity with
  | none =>
      return store.insertBinding
        { targetIdentity := args.targetIdentity
          bindingId := canonicalBindingId
          threadId := threadId
          generation := args.generation
          createdAt := now
          updatedAt := now }
  | some existing =>
      let sameLifecycle := existing.generation = args.generation ∧ existing.threadId = threadId ∧
        existing.deliveryState ≠ .staleHeld
      if sameLifecycle ∧ existing.bindingId = canonicalBindingId then return store
      else if sameLifecycle then
        -- Same lifecycle, new child: the wake history moves to the new binding id.
        match store.history.rekey?
            (fun row => row.key.targetIdentity = args.targetIdentity &&
              row.key.sessionId = args.sessionId && row.key.generation = args.generation &&
              row.key.bindingId = existing.bindingId)
            (fun row => { row with key := { row.key with bindingId := canonicalBindingId } }) with
        | none => .error ⟨.sqliteConstraint, "UNIQUE constraint failed"⟩
        | some history =>
            return { store with history := history }.updateBinding args.targetIdentity
              (fun binding => { binding with bindingId := canonicalBindingId, updatedAt := now })
              fun _ => rfl
      else
        -- A new lifecycle generation, or a hold left behind: a fresh wake epoch.
        return store.updateBinding args.targetIdentity
          (fun binding => { binding with
            bindingId := canonicalBindingId
            threadId := threadId
            generation := args.generation
            deliveryState := .idle
            activeWakeId := none
            activeFingerprint := none
            receiptQueuedId := none
            receiptThreadId := none
            updatedAt := now })
          fun _ => rfl

/-- The session checks that `reserveInteractiveWake`, `reportInteractiveWakeResult`
and `ackInteractiveWake` share. -/
def requireSession (args : SessionArgs) (store : WakeStore) (staleMessage : String)
    (generationMessage : Int → String) : Outcome WakeBinding := do
  let binding ← store.requireBinding args.targetIdentity
    ⟨.foreignAccessDenied, "No wake binding for target " ++ args.targetIdentity⟩
  require (binding.deliveryState ≠ .staleHeld) ⟨.staleWakeRebound, staleMessage⟩
  require (binding.threadId = sessionThread args.sessionId)
    ⟨.sessionFenced, "Session ID " ++ args.sessionId ++ " does not match active binding " ++
      binding.threadId⟩
  require (binding.generation = args.generation)
    ⟨.staleWakeGeneration, generationMessage binding.generation⟩
  require (binding.bindingId = runtime.toLowerCase args.bindingId)
    ⟨.bindingChanged, "Binding ID mismatch"⟩
  return binding

/-- How `reserveInteractiveWake` and `reportInteractiveWakeResult` name a stale generation. -/
def staleGenerationMessage (generation current : Int) : String :=
  "Stale wake generation " ++ toString generation ++ " !== " ++ toString current

/-- How the acknowledgements name a stale generation. -/
def ackGenerationMessage (generation current : Int) : String :=
  "Ack generation " ++ toString generation ++ " does not match active generation " ++
    toString current

/-- How a wake id that is not the active one is named. -/
def staleWakeMessage (word wakeId : String) (active : Option String) : String :=
  word ++ " wakeId " ++ wakeId ++ " does not match active wake " ++ active.getD "null"

/-- The parameter check of the three session functions. -/
def requireSessionParams (args : SessionArgs) (wakeId : String) (message : String) :
    Outcome Unit :=
  require (args.targetIdentity ≠ "" ∧ wakeId ≠ "" ∧ args.sessionId ≠ "" ∧ args.bindingId ≠ "" ∧
    isPositiveSafe args.generation = true) ⟨.invalidParams, message⟩

/-- The history key of a wake of this session. -/
def SessionArgs.historyKey (args : SessionArgs) (wakeId : String) : WakeHistoryKey where
  targetIdentity := args.targetIdentity
  sessionId := args.sessionId
  bindingId := runtime.toLowerCase args.bindingId
  generation := args.generation
  wakeId := wakeId

/-- What `reserveInteractiveWake` answers. -/
inductive ReserveAnswer
  | duplicateHistory (state : WakeHistoryState)
  | duplicateActive (state : DeliveryState)
  | busy (state : DeliveryState)
  | rateLimited
  | noObligations
  | unchangedBacklog
  | reserved (replyCount inboxCount heldCount : Nat) (lateResult : Bool)
  deriving DecidableEq, Repr

/-- `reserveInteractiveWake`. -/
def reserveInteractiveWake (args : SessionArgs) (reservationId : String) (now : Int)
    (journal : Journal) (store : WakeStore) : Outcome (WakeStore × ReserveAnswer) := do
  requireSessionParams args reservationId
    "targetIdentity, reservationId, sessionId, valid positive generation, and bindingId are required"
  let binding ← requireSession runtime args store "Cannot reserve wake on stale_held binding"
    (staleGenerationMessage args.generation)
  match freeKey : store.history.find? (args.historyKey runtime reservationId) with
  | some row => return (store, .duplicateHistory row.state)
  | none =>
      if binding.activeWakeId = some reservationId then
        return (store, .duplicateActive binding.deliveryState)
      else if binding.deliveryState ≠ .idle then return (store, .busy binding.deliveryState)
      else if binding.lastSubmittedAt.any fun at_ => at_ ≠ 0 && now - at_ < 15000 then
        return (store, .rateLimited)
      else
        let obligations := getWakeObligationsSync runtime store journal args.targetIdentity true
        if obligations.unreadReplies.length + obligations.heldMessages.length +
            obligations.queuedMessages.length = 0 then
          return (store, .noObligations)
        else if wakeSnapshotCovered obligations.snapshotFingerprint
            binding.lastAcknowledgedFingerprint then
          return (store, .unchangedBacklog)
        else
          let history := store.history.insert
            { key := args.historyKey runtime reservationId
              state := .submitting
              createdAt := now
              updatedAt := now } freeKey
          return ({ store with history := history }.updateBinding args.targetIdentity
              (fun row => { row with
                deliveryState := .submitting
                activeWakeId := some reservationId
                activeFingerprint := some obligations.snapshotFingerprint
                lastSubmittedAt := some now
                updatedAt := now })
              fun _ => rfl,
            .reserved obligations.unreadReplies.length obligations.queuedMessages.length
              obligations.heldMessages.length obligations.hasLateResult)

/-- What `reportInteractiveWakeResult` answers. -/
inductive ReportAnswer
  | alreadyAcknowledged (state : DeliveryState)
  | recorded (state : DeliveryState)
  deriving DecidableEq, Repr

/-- `reportInteractiveWakeResult`; `accepted` is `result === "accepted"`. -/
def reportInteractiveWakeResult (args : SessionArgs) (wakeId : String) (accepted : Bool)
    (now : Int) (store : WakeStore) : Outcome (WakeStore × ReportAnswer) := do
  requireSessionParams args wakeId
    ("targetIdentity, wakeId, sessionId, bindingId, positive safe integer generation, " ++
      "and result are required")
  let binding ← requireSession runtime args store "Binding is in stale_held state"
    (staleGenerationMessage args.generation)
  if binding.lastAcknowledgedWakeId = some wakeId ∧ binding.activeWakeId ≠ some wakeId then
    return (store, .alreadyAcknowledged binding.deliveryState)
  else
    require (binding.activeWakeId = some wakeId)
      ⟨.staleWakeId, staleWakeMessage "Report" wakeId binding.activeWakeId⟩
    let nextState : DeliveryState := if accepted then .acceptedAwaitingAck else .uncertain
    let nextHistory : WakeHistoryState := if accepted then .acceptedAwaitingAck else .uncertain
    let changed := store.updateBinding args.targetIdentity
      (fun row => if row.activeWakeId = some wakeId then
        { row with deliveryState := nextState, updatedAt := now } else row)
      (fun row => by split <;> rfl)
    return (changed.updateHistory (args.historyKey runtime wakeId) nextHistory now,
      .recorded nextState)

/-- Close the active wake as acknowledged. -/
def WakeBinding.acknowledge (binding : WakeBinding) (now : Int) : WakeBinding :=
  { binding with
    deliveryState := .idle
    lastAcknowledgedFingerprint := binding.activeFingerprint
    lastAcknowledgedWakeId := binding.activeWakeId
    activeWakeId := none
    activeFingerprint := none
    updatedAt := now }

/-- `ackInteractiveWake`; the flag is `duplicate`. -/
def ackInteractiveWake (args : SessionArgs) (wakeId : String) (now : Int) (store : WakeStore) :
    Outcome (WakeStore × Bool) := do
  requireSessionParams args wakeId
    "targetIdentity, wakeId, sessionId, bindingId, and valid generation are required"
  let binding ← requireSession runtime args store "Cannot acknowledge wake in stale_held state"
    (ackGenerationMessage args.generation)
  if binding.activeWakeId ≠ some wakeId then
    require (binding.lastAcknowledgedWakeId = some wakeId ∨
        (store.history.find? (args.historyKey runtime wakeId)).isSome)
      ⟨.staleWakeId, staleWakeMessage "Ack" wakeId binding.activeWakeId⟩
    return (store, true)
  else
    let changed := store.updateBinding args.targetIdentity
      (fun row => if row.activeWakeId = some wakeId then row.acknowledge now else row)
      (fun row => by split <;> rfl)
    return (changed.updateHistory (args.historyKey runtime wakeId) .acknowledged now, false)

end

/-- `setWakeSubmitting`. -/
def setWakeSubmitting (targetIdentity wakeId : String) (fingerprint : Fingerprint)
    (submittedAt : Int) (store : WakeStore) : Outcome WakeStore := do
  let binding ← store.requireBinding targetIdentity
    ⟨.unknownWakeTarget, "Target identity " ++ targetIdentity ++ " has no wake binding"⟩
  require (binding.deliveryState = .idle)
    ⟨.wakeStateConflict,
      "Cannot submit wake: binding is in state " ++ binding.deliveryState.name⟩
  return store.updateBinding targetIdentity
    (fun row => { row with
      deliveryState := .submitting
      activeWakeId := some wakeId
      activeFingerprint := some fingerprint
      lastSubmittedAt := some submittedAt
      updatedAt := submittedAt })
    fun _ => rfl

/-- A receipt of the wake adapter. -/
structure WakeReceipt where
  queuedId : String
  threadId : String

/-- `setWakeAccepted`. It selects the row by target and active wake alone. -/
def setWakeAccepted (targetIdentity wakeId : String) (receipt : WakeReceipt) (now : Int)
    (store : WakeStore) : WakeStore :=
  store.updateBinding targetIdentity
    (fun row => if row.activeWakeId = some wakeId then
      { row with
        deliveryState := .acceptedAwaitingAck
        receiptQueuedId := some receipt.queuedId
        receiptThreadId := some receipt.threadId
        updatedAt := now } else row)
    (fun row => by split <;> rfl)

/-- `setWakeUncertain`. It selects the row by target and active wake alone. -/
def setWakeUncertain (targetIdentity wakeId : String) (now : Int) (store : WakeStore) : WakeStore :=
  store.updateBinding targetIdentity
    (fun row => if row.activeWakeId = some wakeId then
      { row with deliveryState := .uncertain, updatedAt := now } else row)
    (fun row => by split <;> rfl)

/-- Arguments of `reconcileStaleWake`. -/
structure ReconcileStaleWakeArgs where
  requester : String
  threadId : String
  authBindingId : String
  wakeId : String
  generation : Int

/-- `reconcileStaleWake`. -/
def reconcileStaleWake (args : ReconcileStaleWakeArgs) (now : Int) (store : WakeStore) :
    Outcome WakeStore := do
  let binding ← store.requireBinding args.requester
    ⟨.foreignAccessDenied, "No wake binding for this desktop identity"⟩
  require (binding.deliveryState = .staleHeld)
    ⟨.wakeNotStale, "Only stale_held wakes may be reconciled"⟩
  require (binding.generation = args.generation)
    ⟨.staleWakeGeneration, "Current wake generation required"⟩
  require (args.wakeId ≠ "" ∧ binding.activeWakeId = some args.wakeId)
    ⟨.staleWakeId, "Exact held wake ID required"⟩
  require (binding.threadId = args.threadId ∧ args.authBindingId ≠ "" ∧
      binding.authBindingId = some args.authBindingId)
    ⟨.bindingChanged, "Current desktop integration does not match wake binding"⟩
  return store.updateBinding args.requester
    (fun row => { row with
      deliveryState := .idle
      activeWakeId := none
      activeFingerprint := none
      lastAcknowledgedFingerprint := none
      lastAcknowledgedWakeId := none
      receiptQueuedId := none
      receiptThreadId := none
      lastSubmittedAt := none
      updatedAt := now })
    fun _ => rfl

/-- `ackWake`. -/
def ackWake (requester wakeId : String) (generation : Int) (now : Int) (store : WakeStore) :
    Outcome WakeStore := do
  require (requester ≠ "" ∧ wakeId ≠ "")
    ⟨.invalidParams, "requester, wakeId, and generation are required"⟩
  let binding ← store.requireBinding requester
    ⟨.foreignAccessDenied, "Requester " ++ requester ++ " has no bound wake target"⟩
  require (binding.deliveryState ≠ .staleHeld)
    ⟨.staleWakeRebound, "Cannot acknowledge wake in stale_held state"⟩
  require (binding.generation = generation)
    ⟨.staleWakeGeneration, ackGenerationMessage generation binding.generation⟩
  require (binding.activeWakeId = some wakeId)
    ⟨.staleWakeId, staleWakeMessage "Ack" wakeId binding.activeWakeId⟩
  return store.updateBinding requester (fun row => row.acknowledge now) fun _ => rfl

/-- Crash recovery of the open: a submission that was cut off is uncertain. -/
def recoverWakes (now : Int) (store : WakeStore) : WakeStore :=
  { store with
    bindings := store.bindings.update (·.deliveryState = .submitting)
      (fun row => { row with deliveryState := .uncertain, updatedAt := now }) fun _ _ => rfl }

/-- `pruneOrphanedSessionState` for the wake tables. -/
def pruneOrphanedWakes (liveSessions : List String) (store : WakeStore) : WakeStore :=
  let orphaned (target : String) : Bool :=
    "session-".toList.isPrefixOf target.toList && !liveSessions.contains target
  { bindings := store.bindings.delete fun binding => orphaned binding.targetIdentity
    history := store.history.delete fun row => orphaned row.key.targetIdentity }

end Triangle.LocalMessaging
