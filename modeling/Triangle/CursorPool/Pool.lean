import Triangle.Semantics.Machine
import Triangle.Std.JsonParse

/-!
# The Cursor worker pool

`createCursorAcpWorkerPool`. The code between two `await`s is one step, so starts and closes of
children take as long as they like. The size is capped at one (`poolSize_eq_one`), so the
pool is its one slot.

`children` and `leases` list all that there ever were. They are not variables of the source,
and neither are `starting`, the children that calls of `ensureSlotStarted` wait for, and
`closing`, those that `restartSlot` and `stop` wait for.
-/

namespace Triangle.CursorPool

open Triangle.Semantics Triangle.Std

/-- A size, unless it is not a positive safe integer. -/
def sizeOr (fallback : Int) (size : Option Int) : Int :=
  (size.filter fun value => Json.isSafe value && decide (1 ≤ value)).getD fallback

/-- The size of `resolveCursorAcpPoolGuards`. A size that is not an integer is `none`. -/
def poolSize (preferredSize maxSize : Option Int) : Int :=
  min (min (sizeOr 1 preferredSize) (sizeOr 1 maxSize)) 1

/-- The coded errors of the pool, and the `TypeError` of a bad wait. -/
inductive PoolError
  | circuitOpen
  | acquireTimeout
  | stopped
  | overloaded
  | badWait
  | slotNotFound
  | startFailed
  deriving DecidableEq, Repr

/-- A slot. The handle is the number of its child. -/
structure Slot where
  slotId : String
  generation : Nat := 0
  processHandle : Option Nat := none
  startedAt : Option Nat := none
  busy : Bool := false
  crashCount : Nat := 0
  circuitOpenUntil : Nat := 0

/-- An `acquire` that waits. -/
structure Waiter where
  id : Nat
  conversationKey : Option String
  stickySlotId : Option String
  deadline : Nat

/-- A child that was spawned. -/
structure Child where
  exited : Bool := false
  closed : Bool := false

structure Lease where
  slotId : String
  generation : Nat
  released : Bool := false

/-- Who waits for a child to close. -/
inductive Closer
  | restart
  | stop
  deriving DecidableEq

structure Options where
  crashThreshold : Nat
  backoffBaseMs : Nat
  backoffMaxMs : Nat

/-- The arguments of `acquire`. A wait that is not an integer is `none`. -/
structure AcquireOptions where
  conversationKey : Option String := none
  stickySlotId : Option String := none
  waitMs : Option Int := some 0

structure Pool where
  now : Nat
  slot : Slot
  stickyByConversation : String → Option String
  waiters : List Waiter
  nextWaiter : Nat
  settled : List (Nat × Except PoolError Nat)
  leases : List Lease
  children : List Child
  starting : List Nat
  closing : List (Nat × Closer)

namespace Pool

variable (pool : Pool)

def circuitOpen : Bool :=
  pool.now < pool.slot.circuitOpenUntil

/-! ## Slots and waiters -/

/-- `pickSlot`. -/
def pickSlot (stickySlotId : Option String) : Option Slot :=
  let healthy := [pool.slot].filter fun slot => slot.circuitOpenUntil ≤ pool.now
  let sticky := (stickySlotId.filter fun id => !id.isEmpty).bind fun id =>
    healthy.find? fun slot => slot.slotId = id && !slot.busy
  sticky.orElse fun _ => healthy.find? fun slot => !slot.busy

/-- Remember the slot of a conversation, unless its key is empty. -/
def remember (conversationKey : Option String) : Pool :=
  match conversationKey.filter fun key => !key.isEmpty with
  | none => pool
  | some key =>
      { pool with
        stickyByConversation :=
          Function.update pool.stickyByConversation key (some pool.slot.slotId) }

/-- Hand the slot out. -/
def lend (conversationKey : Option String) : Pool :=
  { pool.remember conversationKey with
    slot := { pool.slot with busy := true }
    leases := pool.leases ++ [{ slotId := pool.slot.slotId, generation := pool.slot.generation }] }

/-- Settle the promise of a waiter. -/
def settle (waiter : Nat) (answer : Except PoolError Nat) : Pool :=
  { pool with settled := pool.settled ++ [(waiter, answer)] }

/-- The loop of `drainWaiters`. -/
def drainLoop (pool : Pool) : List Waiter → Pool
  | [] => { pool with waiters := [] }
  | waiter :: rest =>
      if waiter.deadline ≤ pool.now then
        drainLoop (pool.settle waiter.id (.error .acquireTimeout)) rest
      else
        match pool.pickSlot waiter.stickySlotId with
        | none => { pool with waiters := waiter :: rest }
        | some _ =>
            drainLoop ((pool.lend waiter.conversationKey).settle waiter.id
              (.ok pool.leases.length)) rest

def drainWaiters : Pool :=
  pool.drainLoop pool.waiters

/-- `acquire`: the lease, or `none` when the caller waits. -/
def acquire (arguments : AcquireOptions) : Except PoolError (Option Nat) × Pool :=
  let preferredSticky := arguments.stickySlotId.orElse fun _ =>
    arguments.conversationKey.bind pool.stickyByConversation
  match pool.pickSlot preferredSticky with
  | some _ => (.ok (some pool.leases.length), pool.lend arguments.conversationKey)
  | none =>
      match arguments.waitMs.filter fun wait => Json.isSafe wait && decide (0 ≤ wait) with
      | none => (.error .badWait, pool)
      | some wait =>
          if wait = 0 then (.error .overloaded, pool)
          else
            (.ok none,
              { pool with
                waiters := pool.waiters ++ [{
                  id := pool.nextWaiter
                  conversationKey := arguments.conversationKey
                  stickySlotId := preferredSticky
                  deadline := pool.now + wait.toNat }]
                nextWaiter := pool.nextWaiter + 1 })

/-- `release` of a lease. -/
def release (lease : Nat) : Pool :=
  if lease < pool.leases.length then
    drainWaiters
      { pool with
        leases := pool.leases.modify lease fun entry => { entry with released := true }
        slot := { pool.slot with busy := false } }
  else pool

/-! ## Children -/

/-- `ensureSlotStarted`, up to the start of its child: `some` is a handle that is there, `none`
a child that the call waits for. `spawns` says whether the child comes into being. -/
def ensureSlotStarted (spawns : Bool) : Except PoolError (Option Nat) × Pool :=
  if pool.circuitOpen then (.error .circuitOpen, pool)
  else
    match pool.slot.processHandle with
    | some handle => (.ok (some handle), pool)
    | none =>
        if spawns then
          (.ok none,
            { pool with
              children := pool.children ++ [{}]
              starting := pool.starting ++ [pool.children.length] })
        else (.error .startFailed, pool)

/-- The start of a child ends: `ensureReady` returns or throws. A child that has exited never
becomes ready, since its exit rejects what it was asked. -/
def startEnds (child : Nat) (ready : Bool) : Pool :=
  if child ∈ pool.starting ∧ (ready → (pool.children[child]?.any (·.exited)) = false) then
    let waited := { pool with starting := pool.starting.filter (· ≠ child) }
    if ready then
      { waited with
        slot := { pool.slot with
          processHandle := some child
          startedAt := some pool.now
          generation := pool.slot.generation + 1 } }
    else waited
  else pool

/-- A crash is counted; from the threshold on it opens the circuit. `jitter` is the rounded
random part of the back-off. -/
def crash (options : Options) (jitter : Nat) : Pool :=
  let crashCount := pool.slot.crashCount + 1
  let backoff := min options.backoffMaxMs (options.backoffBaseMs * 2 ^ min crashCount 8)
  { pool with
    slot := { pool.slot with
      processHandle := none
      crashCount
      circuitOpenUntil :=
        if options.crashThreshold ≤ crashCount then pool.now + backoff + jitter
        else pool.slot.circuitOpenUntil
      busy := false } }

/-- A child exits. The listener looks only at the exit of the current handle. -/
def exit (options : Options) (child jitter : Nat) : Pool :=
  let gone := { pool with
    children := pool.children.modify child fun entry => { entry with exited := true } }
  if pool.slot.processHandle = some child then (gone.crash options jitter).drainWaiters
  else gone

/-- `close` of a child is called, and the caller waits for it. -/
def close (child : Nat) (closer : Closer) : Pool :=
  { pool with
    children := pool.children.modify child fun entry => { entry with closed := true }
    closing := pool.closing ++ [(child, closer)] }

/-- The end of `restartSlot`. -/
def restarted (spawns : Bool) : Except PoolError (Option Nat) × Pool :=
  ensureSlotStarted { pool with slot := { pool.slot with crashCount := 0, circuitOpenUntil := 0 } }
    spawns

/-- `restartSlot`, up to the close of the prior child. -/
def restartSlot (slotId : String) (spawns : Bool) : Except PoolError (Option Nat) × Pool :=
  if pool.slot.slotId = slotId then
    match pool.slot.processHandle with
    | none => pool.restarted spawns
    | some prior =>
        (.ok none,
          { pool with slot := { pool.slot with processHandle := none } }.close prior .restart)
  else (.error .slotNotFound, pool)

/-- The end of `stop`: the waiters are rejected. -/
def rejectWaiters : Pool :=
  { pool with
    waiters := []
    settled := pool.settled ++ pool.waiters.map fun waiter => (waiter.id, .error .stopped) }

/-- `stop`, up to the close of the child. -/
def stop : Pool :=
  let taken := { pool with slot := { pool.slot with processHandle := none, busy := false } }
  match pool.slot.processHandle with
  | none => taken.rejectWaiters
  | some handle => taken.close handle .stop

/-- A close ends, with an error or without. -/
def closeEnds (child : Nat) (spawns : Bool) : Pool :=
  match pool.closing.find? fun entry => entry.1 = child with
  | none => pool
  | some (_, closer) =>
      let waited := { pool with closing := pool.closing.filter fun entry => entry.1 ≠ child }
      match closer with
      | .restart => (waited.restarted spawns).2
      | .stop => waited.rejectWaiters

end Pool

/-- What happens to a pool. -/
inductive Event
  | clock (now : Nat)
  | start (spawns : Bool)
  | acquire (arguments : AcquireOptions)
  | ready (lease : Nat) (spawns : Bool)
  | release (lease : Nat)
  | startEnds (child : Nat) (ready : Bool)
  | exit (child jitter : Nat)
  | restartSlot (slotId : String) (spawns : Bool)
  | stop
  | closeEnds (child : Nat) (spawns : Bool)

/-- `start` and `ready` of a lease only ensure that the slot is started. -/
def Pool.step (options : Options) (pool : Pool) : Event → Pool
  | .clock now => { pool with now }
  | .start spawns => (pool.ensureSlotStarted spawns).2
  | .acquire arguments => (pool.acquire arguments).2
  | .ready lease spawns =>
      if lease < pool.leases.length then (pool.ensureSlotStarted spawns).2 else pool
  | .release lease => pool.release lease
  | .startEnds child ready => pool.startEnds child ready
  | .exit child jitter => pool.exit options child jitter
  | .restartSlot slotId spawns => (pool.restartSlot slotId spawns).2
  | .stop => pool.stop
  | .closeEnds child spawns => pool.closeEnds child spawns

/-- A pool that was just created. -/
def Pool.created (slotId : String) : Pool where
  now := 0
  slot := { slotId }
  stickyByConversation _ := none
  waiters := []
  nextWaiter := 0
  settled := []
  leases := []
  children := []
  starting := []
  closing := []

/-- A pool from its creation on. -/
def poolMachine (options : Options) (slotId : String) : Machine Pool Event where
  initial := .created slotId
  step := .step options

/-! ## The functions -/

/-- Every pool has one slot. -/
theorem poolSize_eq_one (preferredSize maxSize : Option Int) :
    poolSize preferredSize maxSize = 1 := by
  have atLeast : ∀ size : Option Int, 1 ≤ sizeOr 1 size := by
    intro size
    cases size with
    | none => exact Int.le_refl 1
    | some value =>
        by_cases isSize : (Json.isSafe value && decide (1 ≤ value)) = true
        · rw [sizeOr, Option.filter_some, if_pos isSize]
          exact of_decide_eq_true (Bool.and_eq_true_iff.mp isSize).2
        · rw [sizeOr, Option.filter_some, if_neg isSize]
          exact Int.le_refl 1
  have first := atLeast preferredSize
  have second := atLeast maxSize
  rw [poolSize]
  omega

namespace Pool

variable (pool : Pool)

/-- The slot is free and its circuit is closed. -/
def IsFree : Prop :=
  pool.slot.busy = false ∧ pool.slot.circuitOpenUntil ≤ pool.now

instance : Decidable pool.IsFree :=
  inferInstanceAs (Decidable (_ ∧ _))

/-- The pick does not depend on what the caller prefers: there is one slot. -/
theorem pickSlot_eq (stickySlotId : Option String) :
    pool.pickSlot stickySlotId = if pool.IsFree then some pool.slot else none := by
  by_cases closed : pool.slot.circuitOpenUntil ≤ pool.now
  · cases busy : pool.slot.busy with
    | true => simp [pickSlot, IsFree, closed, busy]
    | false =>
        have free : pool.IsFree := ⟨busy, closed⟩
        rw [if_pos free]
        cases sticky : stickySlotId.filter fun id => !id.isEmpty with
        | none => simp [pickSlot, closed, busy, sticky]
        | some id =>
            by_cases same : pool.slot.slotId = id
            · simp [pickSlot, closed, busy, sticky, same]
            · simp [pickSlot, closed, busy, sticky, same]
  · have notFree : ¬pool.IsFree := fun free => closed free.2
    rw [if_neg notFree]
    simp [pickSlot, closed]

end Pool

end Triangle.CursorPool
