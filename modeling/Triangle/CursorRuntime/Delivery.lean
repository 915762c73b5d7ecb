import Triangle.Semantics.Machine
import Triangle.Std.Text
import Triangle.Std.Transaction

/-!
# Deliveries of the Cursor runtime

`runDelivery` of the Cursor ACP runtime over its session registry. What the pool, the child and
the helper do at each step is given: they answer or throw. A delivery that throws leaves its
room idle, and the next one completes, except that a room whose session cannot be loaded never
gets a new one: the registry refuses a second session for a room.
-/

namespace Triangle.CursorRuntime

open Triangle.Semantics Triangle.Std

/-- The coded errors; `failed` is any error of the pool, the child or the helper. -/
inductive RuntimeError
  | notStarted
  | deliveryTextEmpty
  | registryInvalid
  | sessionConflict
  | transitionRejected
  | secretLeak
  | sessionMissing
  | modeMismatch
  | modelMismatch
  | emptyAssistant
  | failed
  deriving DecidableEq, Repr

/-! ## The session registry -/

inductive ExecutionState
  | idle
  | admitted
  | running
  | resultReady
  | replyPersisted
  | acked
  deriving DecidableEq, Repr

/-- `TRANSITIONS`. -/
def ExecutionState.transitions : ExecutionState → List ExecutionState
  | .idle => [.admitted]
  | .admitted => [.running, .idle]
  | .running => [.resultReady, .idle]
  | .resultReady => [.replyPersisted, .idle]
  | .replyPersisted => [.acked, .idle]
  | .acked => [.idle]

/-- `transitionExecutionState`. -/
def transitionExecutionState (source target : ExecutionState) :
    Except RuntimeError ExecutionState := do
  require (target ∈ source.transitions) .transitionRejected
  pure target

/-- The record of a room. -/
structure Record where
  cursorSessionId : Option String := none
  activeDeliveryId : Option String := none
  executionEpoch : Nat := 0
  executionState : ExecutionState := .idle
  lastWorkerSlotId : Option String := none
  lastCompletedDeliveryId : Option String := none
  lastReplyEventId : Option String := none
  deriving DecidableEq

/-- `/mesh_(?:watch_)?[A-Za-z0-9_-]{8,}/` on a string; `watch_` is of the class itself. -/
def leaks (text : String) : Bool :=
  text.toList.tails.any fun rest =>
    "mesh_".toList.isPrefixOf rest &&
      8 ≤ ((rest.drop 5).takeWhile fun c => c.isAlphanum || c = '_' || c = '-').length

/-- The strings of a record that others choose. -/
def Record.texts (record : Record) : List String :=
  [record.cursorSessionId, record.activeDeliveryId, record.lastWorkerSlotId,
    record.lastCompletedDeliveryId, record.lastReplyEventId].filterMap id

/-- `assertNoSecretMaterial` passes. -/
def Record.isClean (record : Record) : Bool :=
  record.texts.all fun text => !leaks text

/-- A patch; a field that it does not name is `none`. -/
structure Patch where
  cursorSessionId : Option String := none
  activeDeliveryId : Option (Option String) := none
  executionEpoch : Option Nat := none
  lastWorkerSlotId : Option String := none
  lastCompletedDeliveryId : Option String := none
  lastReplyEventId : Option (Option String) := none
  executionState : Option ExecutionState := none

/-- The patch would give a room with a session another one. -/
def Patch.conflicts (patch : Patch) (existing : Record) : Bool :=
  patch.cursorSessionId.any fun next => existing.cursorSessionId.any fun old => next ≠ old

/-- The state that a patch moves a record to. -/
def Patch.nextState (patch : Patch) (current : ExecutionState) :
    Except RuntimeError ExecutionState :=
  match patch.executionState with
  | none => .ok current
  | some state => if state = current then .ok state else transitionExecutionState current state

/-- The record with the patch. -/
def Patch.onto (patch : Patch) (existing : Record) (executionState : ExecutionState) : Record where
  cursorSessionId := patch.cursorSessionId.orElse fun _ => existing.cursorSessionId
  activeDeliveryId := patch.activeDeliveryId.getD existing.activeDeliveryId
  executionEpoch := patch.executionEpoch.getD existing.executionEpoch
  executionState := executionState
  lastWorkerSlotId := patch.lastWorkerSlotId.orElse fun _ => existing.lastWorkerSlotId
  lastCompletedDeliveryId :=
    patch.lastCompletedDeliveryId.orElse fun _ => existing.lastCompletedDeliveryId
  lastReplyEventId := patch.lastReplyEventId.getD existing.lastReplyEventId

/-- `applyUpsert`. -/
def applyUpsert (existing : Record) (patch : Patch) : Except RuntimeError Record := do
  require (patch.conflicts existing = false) .sessionConflict
  let executionState ← patch.nextState existing.executionState
  require ((patch.onto existing executionState).isClean = true) .secretLeak
  pure (patch.onto existing executionState)

/-! ## A delivery -/

/-- A room as a delivery finds it. `admissions` are the epochs that were admitted; the source
does not keep them. -/
structure Room where
  record : Record := {}
  admissions : List Nat := []

abbrev RoomWork := Work Room RuntimeError

/-- `registry.upsert`. -/
def upsert (patch : Patch) : RoomWork Unit :=
  Work.within Room.record (fun room record => { room with record }) fun record =>
    match applyUpsert record patch with
    | .ok next => (.ok (), next)
    | .error problem => (.error problem, record)

/-- A result without effect on the room. -/
def answer {α : Type} (result : Except RuntimeError α) : RoomWork α :=
  fun room => (result, room)

structure Config where
  mode : String
  model : Option String
  hasProxy : Bool

/-- A delivery, and what the pool, the child and the helper do at each of its steps;
`sessionPrompt` is the trimmed text of the assistant. -/
structure Delivery where
  roomId : String
  deliveryId : String
  text : String
  started : Bool := true
  acquire : Except RuntimeError Unit
  ready : Except RuntimeError String
  sessionLoad : Except RuntimeError Unit
  sessionNew : Except RuntimeError (Option String)
  setMode : Except RuntimeError (Option String)
  setModel : Except RuntimeError (Option String)
  sessionPrompt : Except RuntimeError String
  reply : Except RuntimeError (Option String)
  ack : Except RuntimeError Unit

section

variable (config : Config) (delivery : Delivery)

/-- `ensureSession`: a session that cannot be loaded is replaced by a new one. -/
def ensureSession : RoomWork String := do
  let existing ← Work.read fun room => room.record.cursorSessionId
  match existing.filter (· ≠ ""), delivery.sessionLoad with
  | some sessionId, .ok _ => pure sessionId
  | _, _ => do
      let created ← answer delivery.sessionNew
      let sessionId ← answer (expect (created.filter (· ≠ "")) .sessionMissing)
      upsert { cursorSessionId := some sessionId }
      pure sessionId

/-- The current value, if the child tells it, is the one that was asked for. -/
def Accepts (asked : String) (currentValue : Option String) : Prop :=
  ∀ value ∈ currentValue, value = asked

instance (asked : String) (currentValue : Option String) : Decidable (Accepts asked currentValue) :=
  inferInstanceAs (Decidable (∀ _ ∈ _, _))

/-- `applySessionConfig`. -/
def applySessionConfig : RoomWork Unit := do
  let mode ← answer delivery.setMode
  Work.demand (Accepts config.mode mode) .modeMismatch
  match config.model with
  | none => pure ()
  | some asked => do
      let model ← answer delivery.setModel
      Work.demand (Accepts asked model) .modelMismatch

/-- The patch that ends a delivery. -/
def Delivery.completion (executionState : ExecutionState) : Patch where
  executionState := some executionState
  activeDeliveryId := some none
  lastCompletedDeliveryId := some delivery.deliveryId

/-- The settlement, with the helper or without. -/
def settle : RoomWork Unit :=
  if config.hasProxy then do
    let replyEventId ← answer delivery.reply
    upsert { executionState := some .replyPersisted, lastReplyEventId := some replyEventId }
    answer delivery.ack
    upsert (delivery.completion .acked)
    upsert { executionState := some .idle }
  else
    upsert (delivery.completion .idle)

/-- The `try` block of `runDelivery`, once the delivery is admitted. -/
def converse (slotId : String) : RoomWork Unit := do
  let sessionId ← ensureSession delivery
  upsert { cursorSessionId := some sessionId, executionState := some .running,
           lastWorkerSlotId := some slotId }
  applySessionConfig config delivery
  let assistantText ← answer delivery.sessionPrompt
  Work.demand (assistantText ≠ "" ∧ assistantText ≠ "[NO_REPLY]") .emptyAssistant
  upsert { executionState := some .resultReady }
  settle config delivery

/-- The `try` block of `runDelivery`. `epoch` is that of the record that was read before. -/
def deliver (epoch : Nat) : RoomWork Unit := do
  let slotId ← answer delivery.ready
  upsert { executionState := some .admitted, activeDeliveryId := some (some delivery.deliveryId),
           lastWorkerSlotId := some slotId, executionEpoch := some (epoch + 1) }
  Work.write fun room =>
    { room with admissions := room.admissions ++ [room.record.executionEpoch] }
  converse config delivery slotId

/-- The reset of a delivery that threw; its own errors are ignored. -/
def reset (room : Room) : Room :=
  ((upsert { executionState := some .idle, activeDeliveryId := some none }).perform room).2

/-- `/^room_[a-f0-9]{32}$/`. -/
def isRoomId (roomId : String) : Bool :=
  Text.matchesLedClass "room_" Text.isLowerHex 32 32 roomId

/-- What `runDelivery` checks before its `try` block. -/
def admitDelivery : Except RuntimeError Unit := do
  require (delivery.started = true) .notStarted
  require (Text.isBlank delivery.text = false) .deliveryTextEmpty
  require (isRoomId delivery.roomId = true) .registryInvalid
  delivery.acquire

/-- `runDelivery`, on the room of the delivery. -/
def runDelivery (room : Room) : Except RuntimeError Unit × Room :=
  match admitDelivery delivery with
  | .error problem => (.error problem, room)
  | .ok _ =>
      match (deliver config delivery room.record.executionEpoch).perform room with
      | (.ok done, after) => (.ok done, after)
      | (.error problem, after) => (.error problem, reset after)

end

/-- The rooms of a runtime, with deliveries one after the other. -/
def runtimeMachine (config : Config) : Machine (String → Room) Delivery where
  initial _ := {}
  step rooms delivery :=
    Function.update rooms delivery.roomId (runDelivery config delivery (rooms delivery.roomId)).2

end Triangle.CursorRuntime
