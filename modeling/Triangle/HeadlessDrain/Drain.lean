import Triangle.HeadlessDrain.IdlePolicy
import Triangle.Std.CodeUnits
import Triangle.Semantics.Machine

/-!
# The headless drain

The code between two `await`s of `createHeadlessCodexDrain` is one step. An attempt is the
`operation` of a `runDrainAttempt`: it waits for `resolveDelivery`, then for
`runtime.runDelivery`, then for `onDeliveryFailure`. When it has ended, the `finally` block of
its `runDrainAttempt` and the `stop` calls that wait for it run before anything else, in the
order in which they began to wait.
-/

namespace Triangle.HeadlessDrain

open Triangle.Semantics Triangle.Std

/-- Where an attempt is. While its failure is recorded it keeps what the idle policy read. -/
inductive Phase (Sense : Type)
  | resolving
  | delivering
  | recording (sense : Sense)
  | ended

/-- An attempt whose `finally` block has not run. -/
structure Attempt (Sense : Type) where
  id : Nat
  phase : Phase Sense

/-- The status that `kick` answers; `refused` is the `TypeError`. -/
inductive KickStatus
  | refused
  | stopped
  | pending
  | accepted
  deriving DecidableEq, Repr

/-- The kick was taken: it returned accepted or pending. -/
def KickStatus.isTaken : KickStatus → Bool
  | .pending | .accepted => true
  | .refused | .stopped => false

/-- What has happened. An attempt ends with whether it found the mailbox empty, and with what
the idle policy read at its end. -/
inductive Entry (Sense : Type)
  | kicked (reason : String) (status : KickStatus)
  | began (attempt : Nat) (reason : String)
  | ended (attempt : Nat) (empty : Bool) (sense : Sense)
  | skipped (sense : Sense)
  | stopCalled
  deriving DecidableEq

/-- What `drainOnce` answers; an attempt answers when it has ended. -/
inductive DrainAnswer
  | stopped (reason : String)
  | alreadyDraining (pendingKick : Bool) (reason : Option String)
  | attempt (id : Nat)
  deriving DecidableEq, Repr

/-- A drain. `starts` are the `runLoop` flags of the `start` calls that wait for the runtime,
`stops` the attempts for which `stop` calls wait, and `callbacks` those for which timer
callbacks wait before they schedule. The newest entry of the history is the first. -/
structure Drain (Sense State : Type) where
  started : Bool
  stopping : Bool
  timer : Bool
  inFlight : Option Nat
  pendingKickReason : Option String
  attempts : List (Attempt Sense)
  microtasks : List String
  starts : List Bool
  stops : List Nat
  callbacks : List (Option Nat)
  idle : State
  nextAttempt : Nat
  history : List (Entry Sense)

/-- How `resolveDelivery` ends: it throws, or finds no delivery, with `outcome.empty`. -/
inductive Resolution
  | failed
  | none (empty : Bool)
  | delivery
  deriving DecidableEq, Repr

/-- What happens to a drain. -/
inductive Event (Sense : Type)
  | kick (reason : String)
  | drainOnce (reason : String)
  | tick (sense : Sense)
  | callbackEnds (index : Nat)
  | resolved (attempt : Nat) (resolution : Resolution) (sense : Sense)
  | delivered (attempt : Nat) (succeeds : Bool) (sense : Sense)
  | failureRecorded (attempt : Nat)
  | settles (attempt : Nat)
  | microtask
  | start (runLoop : Bool)
  | recovers (index : Nat) (succeeds : Bool)
  | stop

variable {Sense State : Type}

namespace Drain

variable (drain : Drain Sense State)

/-- `!started || stopping`. -/
def isOff : Bool :=
  !drain.started || drain.stopping

/-- `runDrainAttempt`, up to where its operation waits. -/
def runDrainAttempt (reason : String) : DrainAnswer × Drain Sense State :=
  if drain.isOff then (.stopped reason, drain)
  else
    (.attempt drain.nextAttempt,
      { drain with
        attempts := drain.attempts ++ [{ id := drain.nextAttempt, phase := .resolving }]
        inFlight := some drain.nextAttempt
        nextAttempt := drain.nextAttempt + 1
        history := .began drain.nextAttempt reason :: drain.history })

/-- `drainOnce`. -/
def drainOnce (reason : String) : DrainAnswer × Drain Sense State :=
  if drain.isOff then (.stopped reason, drain)
  else if drain.inFlight.isSome then
    if reason = "watch_hint" ∨ reason = "watch_hint_trailing" then
      (.alreadyDraining true (some "watch_hint_trailing"),
        { drain with pendingKickReason := some "watch_hint_trailing" })
    else
      (.alreadyDraining drain.pendingKickReason.isSome drain.pendingKickReason, drain)
  else drain.runDrainAttempt reason

/-- The check of a kick's reason, by its length in code units. -/
def isKickReason (reason : String) : Bool :=
  0 < (Json.codeUnits reason).length ∧ (Json.codeUnits reason).length ≤ 64

/-- Note a kick. -/
def kicked (reason : String) (status : KickStatus) : Drain Sense State :=
  { drain with history := .kicked reason status :: drain.history }

/-- `kick`. -/
def kick (reason : String) : Drain Sense State :=
  if isKickReason reason = false then drain.kicked reason .refused
  else if drain.isOff then drain.kicked reason .stopped
  else if drain.inFlight.isSome then
    { drain.kicked reason .pending with
      pendingKickReason :=
        some (if reason = "watch_hint" then "watch_hint_trailing" else reason) }
  else ((drain.kicked reason .accepted).drainOnce reason).2

/-- `schedule`. -/
def schedule : Drain Sense State :=
  if drain.isOff ∨ drain.timer = true then drain
  else { drain with timer := true }

/-- The rest of a timer callback: it schedules when the attempt that it waits for is over. -/
def callbackEnds (index : Nat) : Drain Sense State :=
  match drain.callbacks[index]? with
  | none => drain
  | some waits =>
    if drain.attempts.any (fun attempt => waits = some attempt.id) then drain
    else { drain with callbacks := drain.callbacks.eraseIdx index }.schedule

/-- The phase of an attempt changes. -/
def setPhase (id : Nat) (phase : Phase Sense) : Drain Sense State :=
  { drain with
    attempts := drain.attempts.map fun attempt =>
      if attempt.id = id then { attempt with phase := phase } else attempt }

/-- An attempt has ended. -/
def finish (id : Nat) (empty : Bool) (sense : Sense) : Drain Sense State :=
  { drain.setPhase id .ended with history := .ended id empty sense :: drain.history }

/-- The phase of an attempt. -/
def phase? (id : Nat) : Option (Phase Sense) :=
  (drain.attempts.find? fun attempt => attempt.id = id).map (·.phase)

/-- The `finally` block of a `runDrainAttempt`. -/
def finallyBlock (id : Nat) : Drain Sense State :=
  let drain := { drain with
    attempts := drain.attempts.filter (fun attempt => attempt.id ≠ id)
    inFlight := if drain.inFlight = some id then none else drain.inFlight }
  match drain.pendingKickReason with
  | none => drain
  | some trailingReason =>
    if trailingReason ≠ "" ∧ drain.started = true ∧ drain.stopping = false then
      { drain with
        pendingKickReason := none
        microtasks := drain.microtasks ++ [trailingReason] }
    else drain

/-- The `stop` calls that wait for an attempt go on. -/
def releaseStops (id : Nat) : Drain Sense State :=
  if id ∈ drain.stops then
    { drain with started := false, stops := drain.stops.filter (· ≠ id) }
  else drain

/-- An attempt that has ended settles. -/
def settles (id : Nat) : Drain Sense State :=
  match drain.phase? id with
  | some .ended => (drain.finallyBlock id).releaseStops id
  | _ => drain

/-- The next microtask: the trailing drain. -/
def microtask : Drain Sense State :=
  match drain.microtasks with
  | [] => drain
  | trailingReason :: rest =>
    let drain := { drain with microtasks := rest }
    if drain.isOff || drain.inFlight.isSome then drain
    else (drain.drainOnce trailingReason).2

/-- `start`, up to where it waits for the runtime. -/
def start (runLoop : Bool) : Drain Sense State :=
  if drain.started = true then drain
  else
    { drain with
      stopping := false
      pendingKickReason := none
      starts := drain.starts ++ [runLoop] }

/-- The rest of `start`: the runtime has started and recovered, or one of the two failed or
found quarantined work. -/
def recovers (index : Nat) (succeeds : Bool) : Drain Sense State :=
  match drain.starts[index]? with
  | none => drain
  | some runLoop =>
    let drain := { drain with starts := drain.starts.eraseIdx index }
    if succeeds = false then drain
    else
      let drain := { drain with started := true }
      if runLoop = true then drain.schedule else drain

/-- `stop`, up to where it waits. -/
def stop : Drain Sense State :=
  let drain := { drain with
    stopping := true
    pendingKickReason := none
    timer := false
    history := .stopCalled :: drain.history }
  match drain.inFlight with
  | some id => { drain with stops := drain.stops ++ [id] }
  | none => { drain with started := false }

end Drain

section

variable (policy : IdlePolicy Sense State) (recordsFailures : Bool)

namespace Drain

variable (drain : Drain Sense State)

/-- `idlePolicy?.recordAttempt({ empty })`. -/
def recordAttempt (empty : Bool) (sense : Sense) : Drain Sense State :=
  { drain with idle := policy.recordAttempt sense empty drain.idle }

/-- The timer fires. -/
def tick (sense : Sense) : Drain Sense State :=
  if drain.timer = false then drain
  else
    let answer := policy.evaluateTick sense drain.idle
    let drain := { drain with timer := false, idle := answer.2 }
    if answer.1.skip = true then
      { drain with
        callbacks := drain.callbacks ++ [none]
        history := .skipped sense :: drain.history }
    else
      match drain.drainOnce answer.1.reason with
      | (.attempt id, drain) => { drain with callbacks := drain.callbacks ++ [some id] }
      | (_, drain) => { drain with callbacks := drain.callbacks ++ [none] }

/-- `resolveDelivery` has ended. -/
def resolved (id : Nat) (resolution : Resolution) (sense : Sense) : Drain Sense State :=
  match drain.phase? id with
  | some .resolving =>
    match resolution with
    | .failed => (drain.recordAttempt policy false sense).finish id false sense
    | .none empty => (drain.recordAttempt policy empty sense).finish id empty sense
    | .delivery => drain.setPhase id .delivering
  | _ => drain

/-- `runtime.runDelivery` has ended. A failure is recorded where `onDeliveryFailure` is given. -/
def delivered (id : Nat) (succeeds : Bool) (sense : Sense) : Drain Sense State :=
  match drain.phase? id with
  | some .delivering =>
    let drain := drain.recordAttempt policy false sense
    if succeeds = false ∧ recordsFailures = true then drain.setPhase id (.recording sense)
    else drain.finish id false sense
  | _ => drain

/-- `onDeliveryFailure` has ended, well or badly. -/
def failureRecorded (id : Nat) : Drain Sense State :=
  match drain.phase? id with
  | some (.recording sense) => drain.finish id false sense
  | _ => drain

/-- One event. An event that cannot happen leaves the drain as it is. -/
def step : Event Sense → Drain Sense State
  | .kick reason => drain.kick reason
  | .drainOnce reason => (drain.drainOnce reason).2
  | .tick sense => drain.tick policy sense
  | .callbackEnds index => drain.callbackEnds index
  | .resolved id resolution sense => drain.resolved policy id resolution sense
  | .delivered id succeeds sense => drain.delivered policy recordsFailures id succeeds sense
  | .failureRecorded id => drain.failureRecorded id
  | .settles id => drain.settles id
  | .microtask => drain.microtask
  | .start runLoop => drain.start runLoop
  | .recovers index succeeds => drain.recovers index succeeds
  | .stop => drain.stop

end Drain

/-- A drain as `createHeadlessCodexDrain` makes it. -/
def createHeadlessCodexDrain : Drain Sense State where
  started := false
  stopping := false
  timer := false
  inFlight := none
  pendingKickReason := none
  attempts := []
  microtasks := []
  starts := []
  stops := []
  callbacks := []
  idle := policy.initial
  nextAttempt := 0
  history := []

/-- The machine of a drain with its idle policy. -/
def drainMachine : Machine (Drain Sense State) (Event Sense) where
  initial := createHeadlessCodexDrain policy
  step := fun drain event => drain.step policy recordsFailures event

end

end Triangle.HeadlessDrain
