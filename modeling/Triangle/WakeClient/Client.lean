import Triangle.Semantics.Program

/-!
# The wake client

`createWakeClient`, its file cursor store and the install watch dispatcher over
it, as programs. A call is a step of the shared state of a client (what the
source does between two awaits), a step of the cursor file, a poll, or a wake of
a handler. Waiting is not modelled by itself: every call may take any time.
-/

namespace Triangle.WakeClient

open Triangle.Semantics

/-- `Number.isSafeInteger`. -/
def isSafeInteger (n : Int) : Bool :=
  -9007199254740991 ≤ n && n ≤ 9007199254740991

/-- A local profile. -/
structure Profile where
  instanceId : String
  agentId : String
  deriving DecidableEq

/-- The profiles of a client: no two of one agent. -/
structure Profiles where
  entries : List Profile
  distinct : (entries.map Profile.agentId).Nodup

/-- `byAgent.get(agentId)`. -/
def Profiles.instanceOf (profiles : Profiles) (agentId : String) : Option String :=
  (profiles.entries.find? fun profile => profile.agentId = agentId).map Profile.instanceId

/-- `byAgent.values()`. -/
def Profiles.instances (profiles : Profiles) : List String :=
  profiles.entries.map Profile.instanceId

/-- An event of a poll response; a field that is missing or of another type is `none`. -/
structure WakeEvent where
  agentId : Option String
  highWatermark : Option Int
  deriving DecidableEq

/-- What a poll comes back with. -/
inductive PollAnswer
  | response (cursor : Option Int) (events : List WakeEvent)
  | resyncRequired (restartCursor : Int)
  | failed
  deriving DecidableEq

inductive WakeReason
  | event
  | resyncReconcile
  | startupReconcile
  deriving DecidableEq

/-- What a handler is called with. -/
structure Wake where
  instanceId : String
  highWatermark : Int
  reason : WakeReason
  deriving DecidableEq

/-- How a handler ends; a returned status of `failed` does not count as accepted. -/
inductive HandlerAnswer
  | accepted
  | failed
  | threw
  deriving DecidableEq

inductive WakeError
  | typeError
  | pollFailed
  | handlerFailed
  | storeFailed
  | flushFailed
  deriving DecidableEq

/-- A batch to hand out: instances with their watermarks. -/
abbrev Pending := List (String × Int)

/-! ## Calls -/

/-- The calls of the client. `timer` is the callback of the coalescing timer up
to its first await, `takePending` the same part of a flush by `stop`. -/
inductive Call
  | isStopped (client : Nat)
  | stop (client : Nat)
  | isAborted (client : Nat)
  | acceptEvents (client : Nat) (events : List WakeEvent)
  | timer (client : Nat)
  | takePending (client : Nat)
  | awaitTimer (client : Nat)
  | clearTimer (client : Nat)
  | loadedCursor
  | readFile
  | setCursor (cursor : Int)
  | rename (cursor : Int)
  | laneCursor (lane : Nat)
  | poll (cursor : Int)
  | handler (wake : Wake)

/-- What a call answers: `acceptEvents` how many it accepted, `timer` and
`takePending` the batch to hand out. -/
@[reducible] def Answer : Call → Type
  | .isStopped _ => Bool
  | .stop _ => Unit
  | .isAborted _ => Bool
  | .acceptEvents _ _ => Nat
  | .timer _ => Pending
  | .takePending _ => Pending
  | .awaitTimer _ => Except Unit Unit
  | .clearTimer _ => Unit
  | .loadedCursor => Option Int
  | .readFile => Except Unit Int
  | .setCursor _ => Unit
  | .rename _ => Except Unit Unit
  | .laneCursor _ => Except Unit Int
  | .poll _ => PollAnswer
  | .handler _ => HandlerAnswer

/-- A task of the client. -/
abbrev Task := Program Call Answer WakeError

/-- One call. -/
def ask (request : Call) : Task (Answer request) :=
  Program.request request

/-! ## The file cursor store -/

def ensureLoaded : Task Unit := do
  match ← ask .loadedCursor with
  | some _ => pure ()
  | none =>
      let cursor ← Program.attempt .readFile id fun _ => WakeError.storeFailed
      ask (.setCursor cursor)

/-- `cursorStore.read()`. -/
def readCursor : Task Int := do
  ensureLoaded
  match ← ask .loadedCursor with
  | some cursor => pure cursor
  | none => Program.fail .typeError

/-- `positiveInteger(value, name, 0)`. -/
def positiveInteger (value : Int) : Task Unit :=
  Program.ensure (isSafeInteger value = true ∧ 0 ≤ value) .typeError

/-- `cursorStore.write(next)`: the rename is what persists it. -/
def writeCursor (next : Int) : Task Unit := do
  ensureLoaded
  positiveInteger next
  Program.attempt (.rename next) id fun _ => WakeError.storeFailed
  ask (.setCursor next)

/-! ## Handing out wakes -/

/-- `dispatchWake`: throw unless the handler accepted. -/
def onWake (wake : Wake) : Task Unit := do
  let answer ← ask (.handler wake)
  Program.ensure (answer = .accepted) .handlerFailed

/-- `for (const wake of batch) await onWake(wake)`. -/
def onWakes : List Wake → Task Unit
  | [] => pure ()
  | wake :: rest => do
      onWake wake
      onWakes rest

/-- The wakes of a batch. -/
def wakesOf (batch : Pending) : List Wake :=
  batch.map fun entry => ⟨entry.1, entry.2, .event⟩

/-- `Math.max(...)` over a batch that is not empty. -/
def maxCursor (first : Int) (rest : Pending) : Int :=
  rest.foldl (fun greatest entry => max greatest entry.2) first

/-- `flush` past its first await: the cursor is written after every handler accepted. -/
def flush : Pending → Task Unit
  | [] => pure ()
  | (instanceId, highWatermark) :: rest => do
      onWakes (wakesOf ((instanceId, highWatermark) :: rest))
      writeCursor (maxCursor highWatermark rest)

section

variable (profiles : Profiles) (client : Nat)

/-- What the callback of the coalescing timer does. -/
def timerFired : Task Unit := do
  flush (← ask (.timer client))

/-- What `runOnce` returns. -/
inductive RunResult
  | stopped
  | resync (restartCursor : Int)
  | polled (events : Nat) (cursor : Int)

/-- Reconcile every local profile. -/
def reconcileAll (highWatermark : Int) (reason : WakeReason) : Task Unit :=
  onWakes (profiles.instances.map fun instanceId => ⟨instanceId, highWatermark, reason⟩)

/-- An empty or foreign-only response advances the cursor itself. -/
def advanceCursor (accepted : Nat) (cursor : Int) : Option Int → Task Unit
  | some next =>
      if accepted = 0 ∧ isSafeInteger next = true ∧ cursor ≤ next then writeCursor next
      else pure ()
  | none => pure ()

/-- Accept the events of a response. -/
def settleResponse (cursor : Int) (responseCursor : Option Int) (events : List WakeEvent) :
    Task RunResult := do
  let accepted ← ask (.acceptEvents client events)
  advanceCursor accepted cursor responseCursor
  let after ← readCursor
  pure (.polled events.length after)

def runOnce : Task RunResult := do
  if ← ask (.isStopped client) then pure .stopped
  else
    let cursor ← readCursor
    match ← ask (.poll cursor) with
    | .failed => Program.fail .pollFailed
    | .resyncRequired restartCursor =>
        if isSafeInteger restartCursor = true then
          reconcileAll profiles restartCursor .resyncReconcile
          writeCursor restartCursor
          pure (.resync restartCursor)
        else Program.fail .pollFailed
    | .response responseCursor events => settleResponse client cursor responseCursor events

/-- The loop of `watch`, with the cycles that are left. The idle sleep is time only. -/
def watchLoop : Nat → Task Unit
  | 0 => pure ()
  | cycles + 1 => do
      if ← ask (.isStopped client) then pure ()
      else if ← ask (.isAborted client) then pure ()
      else
        let _ ← runOnce profiles client
        Program.attempt (.awaitTimer client) id fun _ => WakeError.flushFailed
        watchLoop cycles

def watch (maxCycles : Nat) : Task Int := do
  watchLoop profiles client maxCycles
  readCursor

def reconcileStartup : Task Int := do
  let cursor ← readCursor
  reconcileAll profiles cursor .startupReconcile
  pure cursor

/-- `stop()`: it waits for a flush in progress and flushes what is left. -/
def stop : Task Unit := do
  ask (.stop client)
  let _ ← (Program.attempt (.awaitTimer client) id fun _ => WakeError.flushFailed).outcome
  ask (.clearTimer client)
  flush (← ask (.takePending client))

/-! ## The dispatcher -/

/-- The greatest of the retired lane cursors and the install cursor. -/
def greatestLane : List Nat → Int → Task Int
  | [], greatest => pure greatest
  | lane :: rest, greatest => do
      let cursor ← Program.attempt (.laneCursor lane) id fun _ => WakeError.storeFailed
      positiveInteger cursor
      greatestLane rest (if greatest < cursor then cursor else greatest)

/-- `migrateInstallWatchCursor`. -/
def migrateInstallWatchCursor (lanes : List Nat) : Task Int := do
  let installCursor ← readCursor
  positiveInteger installCursor
  let greatest ← greatestLane lanes installCursor
  if greatest = installCursor then pure greatest
  else
    writeCursor greatest
    pure greatest

/-- `start` of the dispatcher; a failing watch is stopped. -/
def start (lanes : List Nat) (reconcile : Bool) (maxCycles : Nat) : Task Int := do
  let _ ← migrateInstallWatchCursor lanes
  let watched : Task Int := do
    if reconcile = true then
      let _ ← reconcileStartup profiles
      watch profiles client maxCycles
    else watch profiles client maxCycles
  match ← watched.outcome with
  | .ok cursor => pure cursor
  | .error problem =>
      let _ ← (stop client).outcome
      Program.fail problem

end

/-- The tasks that may run, at any time and any number at once. -/
inductive Command
  | timerFired (client : Nat)
  | runOnce (client : Nat)
  | watch (client : Nat) (maxCycles : Nat)
  | reconcileStartup
  | stop (client : Nat)
  | start (client : Nat) (lanes : List Nat) (reconcile : Bool) (maxCycles : Nat)

/-- The program of a task. -/
def code (profiles : Profiles) : Command → Task Unit
  | .timerFired client => timerFired client
  | .runOnce client => do let _ ← runOnce profiles client
  | .watch client maxCycles => do let _ ← watch profiles client maxCycles
  | .reconcileStartup => do let _ ← reconcileStartup profiles
  | .stop client => stop client
  | .start client lanes reconcile maxCycles => do
      let _ ← start profiles client lanes reconcile maxCycles

end Triangle.WakeClient
