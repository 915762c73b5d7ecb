import Mathlib.Data.List.Range
import Triangle.Semantics.Program

/-!
# The worker pool

`createCodexWorkerPool`: a bounded set of slots, each with one supervised child,
handed out as leases. The synchronous parts of the source are functions on the
memory of the pool; the operations are programs that await the start and the
close of children between them.

A slot is named by its index. `opening` and `working` are not variables of the
source: they name the child that is being started or closed for a slot, and the
operation in flight on it.
-/

namespace Triangle.WorkerPool

open Triangle.Semantics

/-- The coded errors of the pool. -/
inductive PoolError
  | notStarted
  | draining
  | circuitOpen
  | overloaded
  | slotBusy
  | slotUnavailable
  | slotMissing
  | processFailed
  deriving DecidableEq

/-- A slot. The handle is the number of its child. -/
structure Slot where
  generation : Nat := 0
  processHandle : Option Nat := none
  startedAt : Option Nat := none
  busy : Bool := false
  crashCount : Nat := 0
  circuitOpenUntil : Nat := 0

structure Waiter where
  id : Nat
  stickySlot : Option Nat
  conversationKey : Option String
  deadline : Nat

/-- What an operation in flight on a slot does: grant it to a caller, warm it up,
or replace or stop its child. -/
inductive Work
  | grant
  | warming
  | maintenance
  deriving DecidableEq

/-- Who works on a slot. A grant for a waiter is queued until its continuation runs. -/
inductive Worker
  | task (process : Nat)
  | queued
  deriving DecidableEq

/-- A slot that is reserved for a waiter. -/
structure Grant where
  slot : Nat
  conversationKey : Option String

/-- A child process; it lives from its start until it is closed or exits. -/
structure Child where
  slot : Nat
  live : Bool
  deriving DecidableEq

/-- A lease that was granted. Restarting or stopping its slot revokes it. -/
structure Lease where
  slot : Nat
  generation : Nat
  processHandle : Option Nat
  conversationKey : Option String
  released : Bool := false
  revoked : Bool := false

def Lease.active (lease : Lease) : Bool :=
  !lease.released && !lease.revoked

/-- A release that took place: whether it freed the slot, and whether another
caller had the slot then. -/
structure Release where
  freed : Bool
  heldByOther : Bool
  deriving DecidableEq

/-- Sizes, limits and delays of a pool. -/
structure Options where
  size : Nat
  crashThreshold : Nat
  backoffBaseMs : Nat
  backoffMaxMs : Nat

structure World where
  now : Nat
  slots : Nat → Slot
  sticky : String → Option Nat
  waiters : List Waiter
  nextWaiter : Nat
  started : Bool
  draining : Bool
  granting : List Grant
  children : List Child
  leases : List Lease
  releases : List Release
  opening : Nat → Option Nat
  working : Nat → Option (Worker × Work)

namespace World

variable (options : Options) (world : World)

/-! ## Slots -/

def setSlot (index : Nat) (slot : Slot) : World :=
  { world with slots := Function.update world.slots index slot }

def setWorking (index : Nat) (work : Option (Worker × Work)) : World :=
  { world with working := Function.update world.working index work }

def setOpening (index : Nat) (child : Option Nat) : World :=
  { world with opening := Function.update world.opening index child }

def isCircuitOpen (index : Nat) : Bool :=
  world.now < (world.slots index).circuitOpenUntil

def isHealthy (index : Nat) : Bool :=
  (world.slots index).processHandle.isSome && !world.isCircuitOpen index

/-- `refreshCircuit` of every slot: an elapsed circuit is closed. -/
def refreshCircuits : World :=
  { world with slots := fun index =>
      if world.isCircuitOpen index then world.slots index
      else { world.slots index with circuitOpenUntil := 0 } }

/-- The slot that the next caller gets. -/
def pickSlot (stickySlot : Option Nat) : Option Nat :=
  let free := fun index => !(world.slots index).busy && world.isHealthy index
  (stickySlot.filter fun index => index < options.size && free index).orElse fun _ =>
    ((List.range options.size).find? free).orElse fun _ =>
      (List.range options.size).find? fun index =>
        !(world.slots index).busy && !world.isCircuitOpen index &&
          (world.slots index).processHandle.isNone

def allCircuitsOpen : Bool :=
  (List.range options.size).all world.isCircuitOpen

/-- Reserve the slot for a worker. Atomic with the pick: no await between. -/
def reserve (index : Nat) (worker : Worker) : World :=
  (world.setSlot index { world.slots index with busy := true }).setWorking index
    (some (worker, .grant))

/-- `tryReserveSlot`, without the refreshed circuits. -/
def tryReserveSlot (stickySlot : Option Nat) (worker : Worker) : Option (Nat × World) :=
  (world.refreshCircuits.pickSlot options stickySlot).map fun index =>
    (index, world.refreshCircuits.reserve index worker)

/-- The loop of `drainWaiters` over the waiters, first come first served. -/
def drainLoop (world : World) : List Waiter → World
  | [] => { world with waiters := [] }
  | next :: rest =>
      if next.deadline ≤ world.now then drainLoop world rest
      else
        let sticky := next.stickySlot.orElse fun _ => next.conversationKey.bind world.sticky
        match world.tryReserveSlot options sticky .queued with
        | none =>
            if world.refreshCircuits.allCircuitsOpen options then
              drainLoop world.refreshCircuits rest
            else { world.refreshCircuits with waiters := next :: rest }
        | some (index, reserved) =>
            drainLoop { reserved with granting := reserved.granting ++ [⟨index, next.conversationKey⟩] }
              rest

def drainWaiters : World :=
  world.drainLoop options world.waiters

/-! ## Children -/

/-- The child of a slot ends its life. -/
def endChild (child : Nat) : World :=
  { world with children := world.children.modify child fun entry => { entry with live := false } }

/-- The first part of `ensureSlotProcess`: create and start a child, unless the slot has one. -/
def openProcess (index : Nat) : World × Option Nat :=
  match (world.slots index).processHandle with
  | some _ => (world, none)
  | none =>
      (({ world with children := world.children ++ [⟨index, true⟩] } : World).setOpening index
        (some world.children.length), some world.children.length)

/-- The last part of `ensureSlotProcess`. -/
def installProcess (index child : Nat) : World :=
  (world.setSlot index { world.slots index with
    generation := (world.slots index).generation + 1
    processHandle := some child
    startedAt := some world.now }).setOpening index none

/-- What `restartSlot` and `stop` do with a slot before they close its child. -/
def visitSlot (index : Nat) (process : Nat) : World × Option Nat :=
  let previous := (world.slots index).processHandle
  let visited := world.setSlot index { world.slots index with
    busy := false, processHandle := none, startedAt := none }
  let revoked : World := { visited with leases := visited.leases.map fun lease =>
    if lease.slot = index then { lease with revoked := true } else lease }
  ((revoked.setOpening index previous).setWorking index (some (.task process, .maintenance)),
    previous)

/-! ## Leases -/

/-- A grant whose slot became unavailable, or whose child did not start. -/
def dropGrant (index : Nat) : World :=
  (world.setSlot index { world.slots index with busy := false }).setWorking index none

/-- The last part of `grantReservedSlot`. -/
def finishGrant (index : Nat) (conversationKey : Option String) :
    World × Except PoolError Nat :=
  if (world.slots index).processHandle.isNone || world.isCircuitOpen index then
    ((world.dropGrant index).drainWaiters options, .error .slotUnavailable)
  else
    (({ world with leases := world.leases ++
        [⟨index, (world.slots index).generation, (world.slots index).processHandle,
          conversationKey, false, false⟩] } : World).setWorking index none, .ok world.leases.length)

/-- Another caller has the slot of a lease: a grant in flight or another lease. -/
def heldByOther (ref : Nat) (lease : Lease) : Bool :=
  (world.working lease.slot).any (fun work => work.2 = .grant) ||
    (world.leases.zipIdx.any fun entry =>
      entry.2 ≠ ref && entry.1.slot = lease.slot && entry.1.active)

/-- `release` of a lease before it drains the waiters. -/
def settleRelease (ref : Nat) (lease : Lease) (success : Bool) : World :=
  let marked := { world with leases := world.leases.modify ref fun entry =>
    { entry with released := true } }
  let slot := world.slots lease.slot
  -- Stale releases after a restart replaced the generation are ignored.
  if slot.generation ≠ lease.generation then
    { marked with releases := world.releases ++ [⟨false, world.heldByOther ref lease⟩] }
  else
    let freed := { marked.setSlot lease.slot { slot with
        busy := false
        crashCount := if success then 0 else slot.crashCount
        circuitOpenUntil := if success then 0 else slot.circuitOpenUntil } with
      releases := world.releases ++ [⟨slot.busy, world.heldByOther ref lease⟩] }
    match lease.conversationKey.filter fun key => !key.isEmpty with
    | some key => { freed with sticky := Function.update freed.sticky key (some lease.slot) }
    | none => freed

def release (ref : Nat) (success : Bool) : World :=
  match world.leases[ref]? with
  | none => world
  | some lease => (world.settleRelease ref lease success).drainWaiters options

/-- `noteCrash` of a slot. -/
def noteCrash (index : Nat) (jitter : Nat) : World :=
  let slot := world.slots index
  let crashCount := slot.crashCount + 1
  let raw := min options.backoffMaxMs (options.backoffBaseMs * 2 ^ (crashCount - 1))
  world.setSlot index { slot with
    crashCount
    circuitOpenUntil := if options.crashThreshold ≤ crashCount then world.now + raw + jitter
      else slot.circuitOpenUntil }

end World

/-- The arguments of `acquire`. -/
structure AcquireOptions where
  stickySlot : Option Nat := none
  conversationKey : Option String := none
  waitMs : Nat := 0

/-- What the synchronous part of `acquire` arrives at. -/
inductive Acquired
  | reserved (slot : Nat)
  | waiting (waiter : Nat)

/-- The synchronous part of `acquire`. -/
def World.acquire (options : Options) (world : World) (arguments : AcquireOptions)
    (process : Nat) : World × Except PoolError Acquired :=
  if world.started = false then (world, .error .notStarted)
  else if world.draining then (world, .error .draining)
  else
    let sticky := arguments.stickySlot.orElse fun _ => arguments.conversationKey.bind world.sticky
    let refreshed := world.refreshCircuits
    if refreshed.allCircuitsOpen options then (refreshed, .error .circuitOpen)
    else
      match world.tryReserveSlot options sticky (.task process) with
      | some (index, reserved) => (reserved, .ok (.reserved index))
      | none =>
          -- Saturated: fail closed unless the caller opts into a bounded wait.
          if arguments.waitMs = 0 then (refreshed, .error .overloaded)
          else
            let queued : World := { refreshed with
              waiters := refreshed.waiters ++ [⟨refreshed.nextWaiter, sticky,
                arguments.conversationKey, refreshed.now + arguments.waitMs⟩]
              nextWaiter := refreshed.nextWaiter + 1 }
            (queued.drainWaiters options, .ok (.waiting refreshed.nextWaiter))

/-! ## Programs -/

/-- The synchronous parts, the awaited starts and closes, and what happens
outside the pool: time passes and children exit. -/
inductive Call
  | acquire (arguments : AcquireOptions)
  | takeGrant
  | openProcess (slot : Nat)
  | startProcess (slot child : Nat)
  | initializeProcess (slot child : Nat)
  | installProcess (slot child : Nat)
  | finishGrant (slot : Nat) (conversationKey : Option String)
  | failGrant (slot : Nat)
  | release (lease : Nat) (success : Bool)
  | drainWaiters
  | beginStart
  | beginWork (slot : Nat)
  | endWork (slot : Nat)
  | markStarted
  | beginStop
  | clearSticky
  | assertStarted
  | visitSlot (slot : Nat)
  | closeProcess (slot child : Nat)
  | noteCrash (slot : Nat)
  | isCircuitOpen (slot : Nat)
  | rememberSticky (conversationKey : String) (slot : Nat)
  | timeoutWaiter (waiter : Nat)
  | passTime (now : Nat)
  | childExit (child : Nat)

@[reducible] def Answer : Call → Type
  | .acquire _ => Except PoolError Acquired
  | .takeGrant => Option Grant
  | .openProcess _ => Option Nat
  | .startProcess _ _ => Except PoolError Unit
  | .initializeProcess _ _ => Except PoolError Unit
  | .installProcess _ _ => Unit
  | .finishGrant _ _ => Except PoolError Nat
  | .failGrant _ => Unit
  | .release _ _ => Unit
  | .drainWaiters => Unit
  | .beginStart => Bool
  | .beginWork _ => Unit
  | .endWork _ => Unit
  | .markStarted => Unit
  | .beginStop => Unit
  | .clearSticky => Unit
  | .assertStarted => Except PoolError Unit
  | .visitSlot _ => Option Nat
  | .closeProcess _ _ => Unit
  | .noteCrash _ => Unit
  | .isCircuitOpen _ => Bool
  | .rememberSticky _ _ => Unit
  | .timeoutWaiter _ => Unit
  | .passTime _ => Unit
  | .childExit _ => Unit

abbrev Pool := Program Call Answer PoolError

def call (request : Call) : Pool (Answer request) :=
  Program.request request

section

variable (options : Options)

def ensureSlotProcess (slot : Nat) : Pool Unit := do
  match ← call (.openProcess slot) with
  | none => pure ()
  | some child =>
      Program.attempt (.startProcess slot child) id id
      Program.attempt (.initializeProcess slot child) id id
      call (.installProcess slot child)

def grantReservedSlot (slot : Nat) (conversationKey : Option String) : Pool Nat := do
  match ← (ensureSlotProcess slot).outcome with
  | .ok _ => Program.attempt (.finishGrant slot conversationKey) id id
  | .error error =>
      call (.failGrant slot)
      Program.fail error

/-- The lease, or the waiter that a queued grant will serve. -/
def acquire (arguments : AcquireOptions) : Pool (Option Nat) := do
  match ← Program.attempt (.acquire arguments) id id with
  | .reserved slot => pure (some (← grantReservedSlot slot arguments.conversationKey))
  | .waiting _ => pure none

/-- The continuation of a grant that `drainWaiters` has started. -/
def grantWaiter : Pool (Option Nat) := do
  match ← call .takeGrant with
  | none => pure none
  | some grant =>
      match ← (grantReservedSlot grant.slot grant.conversationKey).outcome with
      | .ok lease => pure (some lease)
      | .error error =>
          call .drainWaiters
          Program.fail error

/-- One slot of `start`. -/
def warmSlot (slot : Nat) : Pool Unit := do
  call (.beginWork slot)
  let result ← (ensureSlotProcess slot).outcome
  call (.endWork slot)
  Program.ofExcept result

def forSlots (work : Nat → Pool Unit) : List Nat → Pool Unit
  | [] => pure ()
  | slot :: rest => do
      work slot
      forSlots work rest

def start : Pool Unit := do
  if ← call .beginStart then pure ()
  else
    forSlots warmSlot (List.range options.size)
    call .markStarted

/-- One slot of `stop`. -/
def stopSlot (slot : Nat) : Pool Unit := do
  match ← call (.visitSlot slot) with
  | some child => call (.closeProcess slot child)
  | none => pure ()
  call (.endWork slot)

def stop : Pool Unit := do
  call .beginStop
  forSlots stopSlot (List.range options.size)
  call .clearSticky

/-- One slot of `restartSlot`. -/
def replaceSlot (recordCrash : Bool) (slot : Nat) : Pool Unit := do
  match ← call (.visitSlot slot) with
  | some child => call (.closeProcess slot child)
  | none => pure ()
  if recordCrash then call (.noteCrash slot)
  -- Circuit-open slots stay down until backoff elapses.
  if ← call (.isCircuitOpen slot) then call (.endWork slot)
  else
    let result ← (ensureSlotProcess slot).outcome
    call (.endWork slot)
    Program.ofExcept result

def restartSlot (slot : Option Nat) (recordCrash : Bool) : Pool Unit := do
  Program.attempt .assertStarted id id
  let targets := match slot with
    | some slot => [slot].filter (· < options.size)
    | none => List.range options.size
  Program.ensure (targets ≠ []) .slotMissing
  forSlots (replaceSlot recordCrash) targets
  call .drainWaiters

def noteCrash (slot : Nat) : Pool Unit := do
  Program.ensure (slot < options.size) .slotMissing
  call (.noteCrash slot)

inductive Command
  | start
  | stop
  | restartSlot (slot : Option Nat) (recordCrash : Bool)
  | noteCrash (slot : Nat)
  | acquire (arguments : AcquireOptions)
  | grantWaiter
  | release (lease : Nat) (success : Bool)
  | rememberSticky (conversationKey : String) (slot : Nat)
  | timeoutWaiter (waiter : Nat)
  | passTime (now : Nat)
  | childExit (child : Nat)

def code : Command → Pool Unit
  | .start => start options
  | .stop => stop options
  | .restartSlot slot recordCrash => restartSlot options slot recordCrash
  | .noteCrash slot => noteCrash options slot
  | .acquire arguments => do
      let _ ← acquire arguments
  | .grantWaiter => do
      let _ ← grantWaiter
  | .release lease success => call (.release lease success)
  | .rememberSticky conversationKey slot => call (.rememberSticky conversationKey slot)
  | .timeoutWaiter waiter => call (.timeoutWaiter waiter)
  | .passTime now => call (.passTime now)
  | .childExit child => call (.childExit child)

/-! ## The machine -/

/-- What the environment decides about one call: whether a start or an
initialization succeeds, whether the child is alive after it, and the jitter. -/
structure Choice where
  succeeds : Bool
  alive : Bool
  jitter : Nat

/-- A child is asked to start or to initialize. A failure gives the handle up. -/
def World.awaitChild (world : World) (slot child : Nat) (choice : Choice) :
    World × Except PoolError Unit :=
  let after := if choice.alive then world else world.endChild child
  if choice.succeeds then (after, .ok ()) else (after.setOpening slot none, .error .processFailed)

def perform (process : Nat) (world : World) : (request : Call) → Choice → World × Answer request
  | .acquire arguments, _ => world.acquire options arguments process
  | .takeGrant, _ =>
      match world.granting with
      | [] => (world, none)
      | grant :: rest =>
          (({ world with granting := rest } : World).setWorking grant.slot
            (some (.task process, .grant)), some grant)
  | .openProcess slot, _ => world.openProcess slot
  | .startProcess slot child, choice => world.awaitChild slot child choice
  | .initializeProcess slot child, choice => world.awaitChild slot child choice
  | .installProcess slot child, _ => (world.installProcess slot child, ())
  | .finishGrant slot conversationKey, _ => world.finishGrant options slot conversationKey
  | .failGrant slot, _ => ((world.dropGrant slot).drainWaiters options, ())
  | .release lease success, _ => (world.release options lease success, ())
  | .drainWaiters, _ => (world.drainWaiters options, ())
  | .beginStart, _ =>
      if world.started then (world, true) else ({ world with draining := false }, false)
  | .beginWork slot, _ => (world.setWorking slot (some (.task process, .warming)), ())
  | .endWork slot, _ => (world.setWorking slot none, ())
  | .markStarted, _ => ({ world with started := true }, ())
  | .beginStop, _ => ({ world with started := false, draining := true, waiters := [] }, ())
  | .clearSticky, _ => ({ world with sticky := fun _ => none }, ())
  | .assertStarted, _ => (world, if world.started then .ok () else .error .notStarted)
  | .visitSlot slot, _ => world.visitSlot slot process
  | .closeProcess slot child, _ => ((world.endChild child).setOpening slot none, ())
  | .noteCrash slot, choice => (world.noteCrash options slot choice.jitter, ())
  | .isCircuitOpen slot, _ => (world, world.isCircuitOpen slot)
  | .rememberSticky conversationKey slot, _ =>
      ({ world with sticky := if conversationKey.isEmpty then world.sticky
          else Function.update world.sticky conversationKey (some slot) }, ())
  | .timeoutWaiter waiter, _ =>
      ({ world with waiters := world.waiters.filter fun entry => entry.id ≠ waiter }, ())
  | .passTime now, _ => ({ world with now := max world.now now }, ())
  | .childExit child, _ => (world.endChild child, ())

/-- All operations of one pool. -/
def operations : Interleaving Nat Command Call Answer PoolError Unit World Choice where
  code := code options
  enter _ world := world
  perform := perform options

end

/-- A new pool. -/
def emptyWorld : World where
  now := 0
  slots _ := {}
  sticky _ := none
  waiters := []
  nextWaiter := 0
  started := false
  draining := false
  granting := []
  children := []
  leases := []
  releases := []
  opening _ := none
  working _ := none

abbrev PoolState := Interleaving.State Nat Call Answer PoolError Unit World

abbrev PoolEvent := Interleaving.Event Nat Command Choice

def poolMachine (options : Options) : Machine PoolState PoolEvent :=
  (operations options).machine emptyWorld

end Triangle.WorkerPool
