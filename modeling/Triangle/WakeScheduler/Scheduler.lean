import Mathlib.Data.Rat.Floor
import Triangle.Semantics.Machine
import Triangle.Std.Gate
import Triangle.Std.JsonParse

/-!
# The profile scheduler

`createProfileScheduler` runs one job per instance at a time. A job waits for its back-off,
captures the high watermark, goes through the profiled gate, and asks the harness first for a
preflight and then for a run. The code between two `await`s is one step; the steps of the two
gates are kept apart, so that other users of the gates can come in between.
-/

namespace Triangle.WakeScheduler

open Triangle.Semantics Triangle.Std

/-- The error of a harness call or of the gate, by whether its name is `AbortError`. -/
inductive Failure
  | abort
  | other
  deriving DecidableEq, Repr

/-- A call of the harness. -/
inductive CallKind
  | preflight
  | run
  deriving DecidableEq, Repr

/-- A call of the harness that a job makes. -/
structure HarnessCall where
  job : Nat
  kind : CallKind
  instanceId : String
  highWatermark : Int
  deriving DecidableEq, Repr

/-- Where a job is: it sleeps, waits at its profile's gate or at the global gate, waits for the
harness, has ended in the gates, or has left them. -/
inductive Phase
  | sleeping
  | atProfile (highWatermark : Int)
  | atGlobal (highWatermark : Int)
  | calling (kind : CallKind) (highWatermark : Int)
  | ended (failure : Option Failure)
  | left (failure : Option Failure)
  deriving DecidableEq, Repr

/-- A `runState` that has not returned. -/
structure Job where
  id : Nat
  instanceId : String
  phase : Phase
  deriving DecidableEq, Repr

/-- The harness call that a job waits for. -/
def Job.call? (job : Job) : Option HarnessCall :=
  match job.phase with
  | .calling kind highWatermark =>
    some { job := job.id, kind, instanceId := job.instanceId, highWatermark }
  | _ => none

/-- The state that the scheduler keeps of an instance. -/
structure ProfileState where
  active : Bool
  dirty : Bool
  highWatermark : Int
  lastReconciled : Int
  backoffMs : Int
  nextEligibleAt : ℚ
  failureCount : Nat
  deriving DecidableEq

/-- A wake as it was submitted, with what the scheduler kept of its instance before. -/
structure Submission where
  instanceId : String
  watermark : Int
  reason : String
  lastReconciled : Int
  highWatermark : Int
  underWay : List HarnessCall
  deriving DecidableEq, Repr

/-- What has happened. A call that reconciles sets `lastReconciled` at its end. An instance is
dropped where a job of it fails with an `AbortError` and no wake came meanwhile. -/
inductive Entry
  | submitted (submission : Submission)
  | began (call : HarnessCall)
  | reconciled (call : HarnessCall)
  | dropped (instanceId : String)
  deriving DecidableEq, Repr

/-- Who comes to the gates: a job of the scheduler, or another user of them. -/
inductive Ticket
  | job (id : Nat)
  | other (id : Nat)
  deriving DecidableEq, Repr

/-- The checked options of the scheduler and the limit of the global gate. -/
structure Options where
  limit : Nat
  initialBackoffMs : Int
  maxBackoffMs : Int
  idleJitterRatio : ℚ
  limitPositive : 1 ≤ limit
  initialPositive : 1 ≤ initialBackoffMs
  maxPositive : 1 ≤ maxBackoffMs

/-- A scheduler with the gates that it shares. The newest entry of the history is the first. -/
structure Scheduler (options : Options) where
  states : String → ProfileState
  queue : List String
  inFlight : Int
  stopped : Bool
  jobs : List Job
  nextJob : Nat
  profileGates : String → Gate 1 Ticket
  globalGate : Gate options.limit Ticket
  history : List Entry

variable {options : Options}

/-- What `stateFor` makes of a new instance. -/
def ProfileState.fresh (options : Options) : ProfileState where
  active := false
  dirty := false
  highWatermark := 0
  lastReconciled := 0
  backoffMs := options.initialBackoffMs
  nextEligibleAt := 0
  failureCount := 0

/-- What a harness call answers: a preflight whether the mailbox is actionable, a run whether
its status is `more`; or it throws. -/
inductive HarnessResult
  | answered (yes : Bool)
  | failed (failure : Failure)
  deriving DecidableEq, Repr

/-- What happens to a scheduler. `now` gives the readings of the clock, by instance where one
step reads it for several. -/
inductive Event
  | submitWake (instanceId : String) (highWatermark : Option Int) (reason : String)
      (now : String → ℚ)
  | pump (now : String → ℚ)
  | awakes (job : Nat)
  | entersProfile (job : Nat)
  | entersGlobal (job : Nat)
  | answers (job : Nat) (result : HarnessResult)
  | leaves (job : Nat)
  | gateRejects (job : Nat)
  | settles (job : Nat) (now random : ℚ)
  | stop
  | otherAcquires (id : Nat) (instanceId : Option String)
  | otherEnters (id : Nat) (instanceId : String)
  | otherReleases (id : Nat) (instanceId : Option String)

namespace Scheduler

variable (scheduler : Scheduler options)

/-- Change the state of an instance. -/
def change (instanceId : String) (change : ProfileState → ProfileState) : Scheduler options :=
  { scheduler with
    states := Function.update scheduler.states instanceId (change (scheduler.states instanceId)) }

@[simp] theorem change_states_self (instanceId : String) (f : ProfileState → ProfileState) :
    (scheduler.change instanceId f).states instanceId = f (scheduler.states instanceId) :=
  Function.update_self _ _ _

theorem change_states_of_ne {instanceId any : String} (differs : any ≠ instanceId)
    (f : ProfileState → ProfileState) :
    (scheduler.change instanceId f).states any = scheduler.states any :=
  Function.update_of_ne differs _ _

/-- Add an entry. -/
def note (entry : Entry) : Scheduler options :=
  { scheduler with history := entry :: scheduler.history }

/-- `enqueue`. -/
def enqueue (instanceId : String) : Scheduler options :=
  if instanceId ∈ scheduler.queue then scheduler
  else { scheduler with queue := scheduler.queue ++ [instanceId] }

/-- The job of an id. -/
def job? (id : Nat) : Option Job :=
  scheduler.jobs.find? fun job => job.id = id

/-- A job goes on to a phase. -/
def setPhase (id : Nat) (phase : Phase) : Scheduler options :=
  { scheduler with
    jobs := scheduler.jobs.map fun job => if job.id = id then { job with phase := phase } else job }

/-- Change the gate of a profile. -/
def changeProfileGate (instanceId : String) (change : Gate 1 Ticket → Gate 1 Ticket) :
    Scheduler options :=
  { scheduler with
    profileGates :=
      Function.update scheduler.profileGates instanceId
        (change (scheduler.profileGates instanceId)) }

/-- A job captures the high watermark and calls `gate.run`. -/
def callGate (id : Nat) (instanceId : String) : Scheduler options :=
  (scheduler.setPhase id (.atProfile (scheduler.states instanceId).highWatermark)).changeProfileGate
    instanceId (·.acquire (.job id))

/-- `runState`, up to where it waits. -/
def runState (now : String → ℚ) (instanceId : String) : Scheduler options :=
  let state := scheduler.states instanceId
  let started := {
    scheduler.change instanceId ({ · with active := true }) with
    inFlight := scheduler.inFlight + 1
    jobs := scheduler.jobs ++
      [{ id := scheduler.nextJob, instanceId := instanceId, phase := .sleeping }]
    nextJob := scheduler.nextJob + 1 }
  if 0 < state.nextEligibleAt - now instanceId then started
  else started.callGate scheduler.nextJob instanceId

/-- The loop of `pump`, over what is in the queue. -/
def pumpQueue (now : String → ℚ) : List String → Scheduler options → Scheduler options
  | [], scheduler => scheduler
  | instanceId :: rest, scheduler =>
    let shifted := { scheduler with queue := rest }
    if (shifted.states instanceId).active = true then pumpQueue now rest shifted
    else pumpQueue now rest (shifted.runState now instanceId)

theorem pumpQueue_cons (now : String → ℚ) (instanceId : String) (rest : List String) :
    pumpQueue now (instanceId :: rest) scheduler =
      if (scheduler.states instanceId).active = true then
        pumpQueue now rest { scheduler with queue := rest }
      else pumpQueue now rest ({ scheduler with queue := rest }.runState now instanceId) :=
  rfl

/-- `pump`. -/
def pump (now : String → ℚ) : Scheduler options :=
  if scheduler.stopped = true then scheduler else pumpQueue now scheduler.queue scheduler

/-- The harness calls of an instance that are under way. -/
def underWay (instanceId : String) : List HarnessCall :=
  (scheduler.jobs.filterMap Job.call?).filter fun call => call.instanceId = instanceId

/-- `Number.isSafeInteger(highWatermark) ? highWatermark : 0`. -/
def watermarkOf (highWatermark : Option Int) : Int :=
  match highWatermark with
  | some value => if Json.isSafe value then value else 0
  | none => 0

/-- How a wake raises the high watermark. -/
def raise (watermark : Int) (reason : String) (state : ProfileState) : ProfileState :=
  let raised := if state.highWatermark < watermark then { state with highWatermark := watermark }
    else state
  if reason = "startup_reconcile" ∧ watermark = 0 then
    { raised with highWatermark := max raised.highWatermark (raised.lastReconciled + 1) }
  else raised

/-- A wake raises the high watermark of its instance, and is noted. -/
def noteWake (instanceId : String) (watermark : Int) (reason : String) : Scheduler options :=
  (scheduler.change instanceId (raise watermark reason)).note <| .submitted {
    instanceId
    watermark
    reason
    lastReconciled := (scheduler.states instanceId).lastReconciled
    highWatermark := (scheduler.states instanceId).highWatermark
    underWay := scheduler.underWay instanceId }

/-- `submitWake`. -/
def submitWake (instanceId : String) (highWatermark : Option Int) (reason : String)
    (now : String → ℚ) : Scheduler options :=
  if instanceId = "" ∨ scheduler.stopped = true then scheduler
  else
    let noted := scheduler.noteWake instanceId (watermarkOf highWatermark) reason
    if (scheduler.states instanceId).active = true then
      noted.change instanceId ({ · with dirty := true })
    else (noted.enqueue instanceId).pump now

/-- The back-off of a job is over. -/
def awakes (id : Nat) : Scheduler options :=
  match scheduler.job? id with
  | some { phase := .sleeping, instanceId, .. } =>
    if scheduler.stopped = true then scheduler.setPhase id (.left none)
    else scheduler.callGate id instanceId
  | _ => scheduler

/-- The profile's gate has admitted a job. It goes on to the global gate, which rejects it when
the scheduler has been stopped. -/
def entersProfile (id : Nat) : Scheduler options :=
  match scheduler.job? id with
  | some { phase := .atProfile highWatermark, instanceId, .. } =>
    if .job id ∈ (scheduler.profileGates instanceId).active then
      if scheduler.stopped = true then
        (scheduler.setPhase id (.left (some .abort))).changeProfileGate instanceId
          (·.release (.job id))
      else
        { scheduler.setPhase id (.atGlobal highWatermark) with
          globalGate := scheduler.globalGate.acquire (.job id) }
    else scheduler
  | _ => scheduler

/-- A harness call begins. -/
def beginCall (call : HarnessCall) : Scheduler options :=
  (scheduler.setPhase call.job (.calling call.kind call.highWatermark)).note (.began call)

/-- The global gate has admitted a job: its operation begins. -/
def entersGlobal (id : Nat) : Scheduler options :=
  match scheduler.job? id with
  | some { phase := .atGlobal highWatermark, instanceId, .. } =>
    if .job id ∈ scheduler.globalGate.active then
      if highWatermark ≤ (scheduler.states instanceId).lastReconciled then
        scheduler.setPhase id (.ended none)
      else scheduler.beginCall { job := id, kind := .preflight, instanceId, highWatermark }
    else scheduler
  | _ => scheduler

/-- A harness call has reconciled its instance up to its watermark. -/
def reconcile (call : HarnessCall) : Scheduler options :=
  ((scheduler.setPhase call.job (.ended none)).change call.instanceId
    ({ · with lastReconciled := call.highWatermark })).note (.reconciled call)

/-- No failure is held against an instance any more. -/
def resetBackoff (instanceId : String) : Scheduler options :=
  scheduler.change instanceId
    ({ · with backoffMs := options.initialBackoffMs, failureCount := 0, nextEligibleAt := 0 })

/-- A harness call has returned or thrown. -/
def answers (id : Nat) (result : HarnessResult) : Scheduler options :=
  match scheduler.job? id with
  | some { phase := .calling kind highWatermark, instanceId, .. } =>
    match kind, result with
    | _, .failed failure => scheduler.setPhase id (.ended (some failure))
    | .preflight, .answered true =>
      scheduler.beginCall { job := id, kind := .run, instanceId, highWatermark }
    | .preflight, .answered false =>
      scheduler.reconcile { job := id, kind := .preflight, instanceId, highWatermark }
    | .run, .answered true =>
      ((scheduler.setPhase id (.ended none)).change instanceId
        ({ · with dirty := true })).resetBackoff instanceId
    | .run, .answered false =>
      (scheduler.reconcile { job := id, kind := .run, instanceId, highWatermark }).resetBackoff
        instanceId
  | _ => scheduler

/-- A job whose operation is over leaves both gates. -/
def leaves (id : Nat) : Scheduler options :=
  match scheduler.job? id with
  | some { phase := .ended failure, instanceId, .. } =>
    { (scheduler.setPhase id (.left failure)).changeProfileGate instanceId
        (·.release (.job id)) with
      globalGate := scheduler.globalGate.release (.job id) }
  | _ => scheduler

/-- A gate rejects a job that waits, since the scheduler has been stopped. -/
def gateRejects (id : Nat) : Scheduler options :=
  if scheduler.stopped = false then scheduler
  else
    match scheduler.job? id with
    | some { phase := .atProfile _, instanceId, .. } =>
      if .job id ∈ (scheduler.profileGates instanceId).waiting then
        (scheduler.setPhase id (.left (some .abort))).changeProfileGate instanceId
          (·.withdraw (.job id))
      else scheduler
    | some { phase := .atGlobal _, instanceId, .. } =>
      if .job id ∈ scheduler.globalGate.waiting then
        { (scheduler.setPhase id (.left (some .abort))).changeProfileGate instanceId
            (·.release (.job id)) with
          globalGate := scheduler.globalGate.withdraw (.job id) }
      else scheduler
    | _ => scheduler

/-- What a failure leaves of the state of its instance. -/
def backOff (options : Options) (now random : ℚ) (state : ProfileState) : ProfileState :=
  let jitter := 1 + (random * 2 - 1) * options.idleJitterRatio
  let backoffMs := min options.maxBackoffMs
    (max options.initialBackoffMs ⌊state.backoffMs * 2 * jitter⌋)
  { state with
    failureCount := state.failureCount + 1
    backoffMs := backoffMs
    nextEligibleAt := now + backoffMs
    dirty := true }

/-- The `catch` block of `runState`. -/
def catchBlock (instanceId : String) (failure : Option Failure) (now random : ℚ) :
    Scheduler options :=
  if failure = some .other ∧ scheduler.stopped = false then
    scheduler.change instanceId (backOff options now random)
  else scheduler

/-- The `finally` block of `runState`. -/
def finallyBlock (instanceId : String) : Scheduler options :=
  let ended := { scheduler.change instanceId ({ · with active := false }) with
    inFlight := scheduler.inFlight - 1 }
  if (scheduler.states instanceId).dirty = true ∧ scheduler.stopped = false then
    (ended.change instanceId ({ · with dirty := false })).enqueue instanceId
  else ended

/-- A job is over. It drops its instance if it failed with an `AbortError`, which the `catch`
block passes over, and no wake came meanwhile. -/
def jobOver (id : Nat) (instanceId : String) (failure : Option Failure) : Scheduler options :=
  { scheduler with
    jobs := scheduler.jobs.filter fun job => job.id ≠ id
    history :=
      if failure = some .abort ∧ (scheduler.states instanceId).dirty = false then
        .dropped instanceId :: scheduler.history
      else scheduler.history }

/-- The rest of `runState` when its job has left the gates. -/
def settles (id : Nat) (now random : ℚ) : Scheduler options :=
  match scheduler.job? id with
  | some { phase := .left failure, instanceId, .. } =>
    ((scheduler.jobOver id instanceId failure).catchBlock instanceId failure now
      random).finallyBlock instanceId
  | _ => scheduler

/-- The signal aborts. -/
def stop : Scheduler options :=
  { scheduler with stopped := true, queue := [] }

/-- Another user calls `gate.run`. -/
def otherAcquires (id : Nat) (instanceId : Option String) : Scheduler options :=
  match instanceId with
  | some instanceId => scheduler.changeProfileGate instanceId (·.acquire (.other id))
  | none => { scheduler with globalGate := scheduler.globalGate.acquire (.other id) }

/-- Another user that its profile's gate has admitted goes on to the global gate. -/
def otherEnters (id : Nat) (instanceId : String) : Scheduler options :=
  if .other id ∈ (scheduler.profileGates instanceId).active then
    { scheduler with globalGate := scheduler.globalGate.acquire (.other id) }
  else scheduler

/-- Another user leaves the gates. -/
def otherReleases (id : Nat) (instanceId : Option String) : Scheduler options :=
  let released := { scheduler with globalGate := scheduler.globalGate.release (.other id) }
  match instanceId with
  | some instanceId => released.changeProfileGate instanceId (·.release (.other id))
  | none => released

/-- One event. An event that cannot happen leaves the scheduler as it is. -/
def step : Event → Scheduler options
  | .submitWake instanceId highWatermark reason now =>
    scheduler.submitWake instanceId highWatermark reason now
  | .pump now => scheduler.pump now
  | .awakes id => scheduler.awakes id
  | .entersProfile id => scheduler.entersProfile id
  | .entersGlobal id => scheduler.entersGlobal id
  | .answers id result => scheduler.answers id result
  | .leaves id => scheduler.leaves id
  | .gateRejects id => scheduler.gateRejects id
  | .settles id now random => scheduler.settles id now random
  | .stop => scheduler.stop
  | .otherAcquires id instanceId => scheduler.otherAcquires id instanceId
  | .otherEnters id instanceId => scheduler.otherEnters id instanceId
  | .otherReleases id instanceId => scheduler.otherReleases id instanceId

/-- Nothing is queued, in flight or active: `idle` returns. -/
def IsIdle : Prop :=
  scheduler.queue = [] ∧ scheduler.inFlight = 0 ∧
    ∀ instanceId, (scheduler.states instanceId).active = false

end Scheduler

/-- A scheduler as `createProfileScheduler` makes it, with gates that nobody has used. -/
def createProfileScheduler (options : Options) : Scheduler options where
  states := fun _ => .fresh options
  queue := []
  inFlight := 0
  stopped := false
  jobs := []
  nextJob := 0
  profileGates := fun _ => .empty 1 Ticket
  globalGate := .empty options.limit Ticket
  history := []

/-- The machine of a scheduler. -/
def schedulerMachine (options : Options) : Machine (Scheduler options) Event where
  initial := createProfileScheduler options
  step := Scheduler.step

end Triangle.WakeScheduler
