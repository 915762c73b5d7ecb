import Triangle.CursorPool.Pool

/-!
# Who holds the slot, and what became of the children

`Kept` says that one lease of the slot is out at most, that each child is in someone's hands
or gone, and that nobody waits for a slot that is free. The pool does not always keep this:
an exit, `stop` and a second `release` free the slot under its holder, a start does not look
whether another one came first, and a start that fails leaves its child behind. `Spares` is
the condition on a step under which it is kept, and no weaker one is enough.
-/

namespace Triangle.CursorPool

open Triangle.Semantics

namespace Pool

variable (pool : Pool)

/-- The leases that were not released. -/
def unreleased : List Lease :=
  pool.leases.filter fun lease => !lease.released

def HasExited (child : Nat) : Prop :=
  (pool.children[child]?.any fun entry => entry.exited) = true

def HasClosed (child : Nat) : Prop :=
  (pool.children[child]?.any fun entry => entry.closed) = true

/-- A waiter is left whose deadline has not passed. -/
def HasLiveWaiter : Prop :=
  ∃ waiter ∈ pool.waiters, pool.now < waiter.deadline

/-- What is promised of a pool. A child whose start is under way is in the hands of the call
that waits for it. -/
structure Kept : Prop where
  exclusive : pool.unreleased.length ≤ 1
  accounted : ∀ child < pool.children.length, pool.slot.processHandle = some child ∨
    child ∈ pool.starting ∨ pool.HasClosed child ∨ pool.HasExited child
  served : pool.IsFree → pool.waiters = []

/-- What holds of every pool. -/
structure Sound : Prop where
  handle : ∀ child, pool.slot.processHandle = some child → child < pool.children.length ∧
    child ∉ pool.starting ∧ ¬pool.HasClosed child ∧ ¬pool.HasExited child
  starting : ∀ child ∈ pool.starting, child < pool.children.length ∧ ¬pool.HasClosed child

end Pool

/-- The step does not run into one of the gaps of the pool. -/
def Spares (options : Options) (pool : Pool) : Event → Prop
  -- Nothing drains the queue when the circuit closes by time.
  | .clock now => pool.slot.busy = false → pool.now < pool.slot.circuitOpenUntil →
      pool.slot.circuitOpenUntil ≤ now → pool.waiters = []
  -- The slot may have been freed under its holder.
  | .acquire _ => pool.IsFree → pool.unreleased = []
  | .release lease => lease < pool.leases.length → pool.slot.circuitOpenUntil ≤ pool.now →
      pool.HasLiveWaiter → (pool.leases.eraseIdx lease).all (·.released) = true
  | .exit child jitter => pool.slot.processHandle = some child →
      (pool.crash options jitter).slot.circuitOpenUntil ≤ pool.now → pool.HasLiveWaiter →
      pool.unreleased = []
  -- A later start overwrites the handle, a failed one closes nothing.
  | .startEnds child ready => child ∈ pool.starting →
      if ready then pool.HasExited child ∨ pool.slot.processHandle = none
      else pool.HasExited child
  -- Neither drains the queue of a slot that it frees.
  | .restartSlot slotId _ => pool.slot.slotId = slotId → pool.slot.processHandle = none →
      pool.slot.busy = false → pool.waiters = []
  | .closeEnds child _ =>
      (pool.closing.find? fun entry => entry.1 = child).map (·.2) = some .restart →
      pool.slot.busy = false → pool.waiters = []
  | .stop => pool.slot.processHandle ≠ none → pool.slot.circuitOpenUntil ≤ pool.now →
      pool.waiters = []
  | .start _ | .ready _ _ => True

namespace Pool

variable {pool : Pool}

/-! ## Handing the slot out -/

variable (conversationKey : Option String)

@[simp] theorem remember_waiters : (pool.remember conversationKey).waiters = pool.waiters := by
  unfold remember
  split <;> rfl

/-- Two pools with the same children, in the same hands. -/
structure SameChildren (before after : Pool) : Prop where
  now : after.now = before.now
  handle : after.slot.processHandle = before.slot.processHandle
  circuit : after.slot.circuitOpenUntil = before.slot.circuitOpenUntil
  children : after.children = before.children
  starting : after.starting = before.starting

theorem SameChildren.trans {first second third : Pool} (left : SameChildren first second)
    (right : SameChildren second third) : SameChildren first third where
  now := right.now.trans left.now
  handle := right.handle.trans left.handle
  circuit := right.circuit.trans left.circuit
  children := right.children.trans left.children
  starting := right.starting.trans left.starting

theorem lend_same (pool : Pool) (conversationKey : Option String) :
    SameChildren pool (pool.lend conversationKey) := by
  unfold lend remember
  split <;> exact ⟨rfl, rfl, rfl, rfl, rfl⟩

theorem settle_same (pool : Pool) (waiter : Nat) (answer : Except PoolError Nat) :
    SameChildren pool (pool.settle waiter answer) :=
  ⟨rfl, rfl, rfl, rfl, rfl⟩

theorem lend_unreleased (pool : Pool) (conversationKey : Option String) :
    (pool.lend conversationKey).unreleased.length = pool.unreleased.length + 1 := by
  simp [lend, unreleased]

theorem lend_not_free (pool : Pool) (conversationKey : Option String) :
    ¬(pool.lend conversationKey).IsFree :=
  fun free => Bool.false_ne_true free.1.symm

/-- The loop passes over the waiters that are too late and hands a free slot to the next one. -/
theorem drainLoop_same (waiters : List Waiter) :
    SameChildren pool (pool.drainLoop waiters) := by
  induction waiters generalizing pool with
  | nil => exact ⟨rfl, rfl, rfl, rfl, rfl⟩
  | cons waiter rest ih =>
      unfold drainLoop
      split
      · exact (settle_same pool _ _).trans ih
      · split
        · exact ⟨rfl, rfl, rfl, rfl, rfl⟩
        · exact (lend_same pool waiter.conversationKey).trans
            ((settle_same _ _ _).trans ih)

variable (waiters : List Waiter)

/-- Nobody gets a slot that is not free. -/
theorem drainLoop_held (held : ¬pool.IsFree) :
    (pool.drainLoop waiters).unreleased = pool.unreleased ∧
      (pool.drainLoop waiters).slot = pool.slot := by
  induction waiters generalizing pool with
  | nil => exact ⟨rfl, rfl⟩
  | cons waiter rest ih =>
      unfold drainLoop
      split
      · exact ih held
      · rw [pickSlot_eq, if_neg held]
        exact ⟨rfl, rfl⟩

/-- A free slot goes to a waiter whose deadline has not passed. -/
theorem drainLoop_live (free : pool.IsFree)
    (live : ∃ waiter ∈ waiters, pool.now < waiter.deadline) :
    (pool.drainLoop waiters).unreleased.length = pool.unreleased.length + 1 ∧
      ¬(pool.drainLoop waiters).IsFree := by
  induction waiters generalizing pool with
  | nil =>
      obtain ⟨waiter, member, -⟩ := live
      exact absurd member (by simp)
  | cons waiter rest ih =>
      unfold drainLoop
      split
      next late =>
        refine @ih (pool.settle waiter.id (.error .acquireTimeout)) free ?_
        obtain ⟨other, member, early⟩ := live
        rcases List.mem_cons.mp member with rfl | inRest
        · exact absurd early (Nat.not_lt.mpr late)
        · exact ⟨other, inRest, early⟩
      next early =>
        rw [pickSlot_eq, if_pos free]
        have held : ¬((pool.lend waiter.conversationKey).settle waiter.id
            (.ok pool.leases.length)).IsFree := lend_not_free pool waiter.conversationKey
        obtain ⟨sameLeases, sameSlot⟩ := drainLoop_held rest held
        refine ⟨?_, fun free => held ⟨?_, ?_⟩⟩
        · rw [sameLeases]
          exact lend_unreleased pool waiter.conversationKey
        · rw [← sameSlot]
          exact free.1
        · rw [← sameSlot]
          exact (drainLoop_same rest).now ▸ free.2

/-- With nobody left whose deadline has not passed, the queue becomes empty. -/
theorem drainLoop_late (waiters : List Waiter)
    (late : ∀ waiter ∈ waiters, waiter.deadline ≤ pool.now) :
    (pool.drainLoop waiters).waiters = [] ∧
      (pool.drainLoop waiters).unreleased = pool.unreleased := by
  induction waiters generalizing pool with
  | nil => exact ⟨rfl, rfl⟩
  | cons waiter rest ih =>
      unfold drainLoop
      rw [if_pos (late waiter (by simp))]
      exact ih fun other member => late other (List.mem_cons_of_mem _ member)

/-- After a drain nobody waits for a slot that is free. -/
theorem drainWaiters_served (pool : Pool) :
    pool.drainWaiters.IsFree → pool.drainWaiters.waiters = [] := by
  intro free
  by_cases live : pool.HasLiveWaiter
  · by_cases wasFree : pool.IsFree
    · exact absurd free (drainLoop_live pool.waiters wasFree live).2
    · obtain ⟨-, sameSlot⟩ := drainLoop_held pool.waiters wasFree
      have same := @drainLoop_same pool pool.waiters
      refine absurd ⟨?_, ?_⟩ wasFree
      · exact sameSlot ▸ free.1
      · rw [← same.circuit, ← same.now]
        exact free.2
  · refine (drainLoop_late pool.waiters fun waiter member => ?_).1
    exact Nat.not_lt.mp fun early => live ⟨waiter, member, early⟩

/-- A drain keeps the leases to one exactly when it hands the slot to nobody, or only when none
is out. -/
theorem drainWaiters_exclusive (pool : Pool) (exclusive : pool.unreleased.length ≤ 1) :
    pool.drainWaiters.unreleased.length ≤ 1 ↔
      (pool.IsFree → pool.HasLiveWaiter → pool.unreleased = []) := by
  by_cases free : pool.IsFree
  · by_cases live : pool.HasLiveWaiter
    · rw [drainWaiters, (drainLoop_live pool.waiters free live).1]
      refine ⟨fun atMost _ _ => List.eq_nil_of_length_eq_zero (by omega), fun none => ?_⟩
      rw [none free live]
      exact Nat.le_refl 1
    · have late := @drainLoop_late pool pool.waiters fun waiter member =>
        Nat.not_lt.mp fun early => live ⟨waiter, member, early⟩
      rw [drainWaiters, late.2]
      exact ⟨fun _ _ isLive => absurd isLive live, fun _ => exclusive⟩
  · rw [drainWaiters, (drainLoop_held pool.waiters free).1]
    exact ⟨fun _ isFree => absurd isFree free, fun _ => exclusive⟩

/-! ## Children -/

variable {before after first second : Pool} {child : Nat}

section

variable (same : SameChildren before after)
include same

theorem SameChildren.hasClosed (child : Nat) : after.HasClosed child ↔ before.HasClosed child := by
  rw [HasClosed, HasClosed, same.children]

theorem SameChildren.hasExited (child : Nat) : after.HasExited child ↔ before.HasExited child := by
  rw [HasExited, HasExited, same.children]

theorem SameChildren.sound (sound : before.Sound) :
    after.Sound where
  handle child isHandle := by
    rw [same.handle] at isHandle
    obtain ⟨known, notStarting, notClosed, notExited⟩ := sound.handle child isHandle
    refine ⟨?_, ?_, ?_, ?_⟩
    · rw [same.children]
      exact known
    · rw [same.starting]
      exact notStarting
    · exact fun closed => notClosed ((same.hasClosed child).mp closed)
    · exact fun exited => notExited ((same.hasExited child).mp exited)
  starting child member := by
    rw [same.starting] at member
    obtain ⟨known, notClosed⟩ := sound.starting child member
    refine ⟨?_, fun closed => notClosed ((same.hasClosed child).mp closed)⟩
    rw [same.children]
    exact known

end

/-- Each child is in someone's hands or gone. -/
def Accounted (pool : Pool) : Prop :=
  ∀ child < pool.children.length, pool.slot.processHandle = some child ∨
    child ∈ pool.starting ∨ pool.HasClosed child ∨ pool.HasExited child

theorem SameChildren.accounted (same : SameChildren before after) (accounted : before.Accounted) :
    after.Accounted := by
  intro child known
  rw [same.children] at known
  rw [same.handle, same.starting, same.hasClosed, same.hasExited]
  exact accounted child known

theorem hasExited_of_getElem (same : first.children[child]? = second.children[child]?) :
    first.HasExited child ↔ second.HasExited child := by
  rw [HasExited, HasExited, same]

theorem hasClosed_of_getElem (same : first.children[child]? = second.children[child]?) :
    first.HasClosed child ↔ second.HasClosed child := by
  rw [HasClosed, HasClosed, same]

/-- The pool with a child whose start a call waits for. -/
def spawned (pool : Pool) : Pool :=
  { pool with
    children := pool.children ++ [{}]
    starting := pool.starting ++ [pool.children.length] }

theorem ensureSlotStarted_cases (pool : Pool) (spawns : Bool) :
    (pool.ensureSlotStarted spawns).2 = pool ∨
      pool.slot.processHandle = none ∧ (pool.ensureSlotStarted spawns).2 = pool.spawned := by
  unfold ensureSlotStarted
  split
  · exact .inl rfl
  · split
    · exact .inl rfl
    · split
      · exact .inr ⟨by assumption, rfl⟩
      · exact .inl rfl

theorem spawned_getElem (pool : Pool) (known : child < pool.children.length) :
    pool.spawned.children[child]? = pool.children[child]? :=
  List.getElem?_append_left known

theorem Sound.spawned (sound : pool.Sound) (noHandle : pool.slot.processHandle = none) :
    pool.spawned.Sound where
  handle child isHandle := by
    have isNone : some child = none := isHandle.symm.trans noHandle
    exact absurd isNone (by simp)
  starting child member := by
    have length : pool.spawned.children.length = pool.children.length + 1 := by
      simp [Pool.spawned]
    rw [length]
    rcases List.mem_append.mp member with old | new
    · obtain ⟨known, notClosed⟩ := sound.starting child old
      refine ⟨by omega, fun closed => notClosed ?_⟩
      exact (hasClosed_of_getElem (spawned_getElem pool known)).mp closed
    · obtain rfl := List.mem_singleton.mp new
      exact ⟨by omega, by simp [HasClosed, Pool.spawned]⟩

theorem spawned_accounted (pool : Pool) : pool.spawned.Accounted ↔ pool.Accounted := by
  have length : pool.spawned.children.length = pool.children.length + 1 := by
    simp [spawned]
  constructor
  · intro accounted child known
    have same := spawned_getElem pool known
    rcases accounted child (by omega) with handle | starting | closed | exited
    · exact .inl handle
    · rcases List.mem_append.mp starting with old | new
      · exact .inr (.inl old)
      · exact absurd (List.mem_singleton.mp new) (Nat.ne_of_lt known)
    · exact .inr (.inr (.inl ((hasClosed_of_getElem same).mp closed)))
    · exact .inr (.inr (.inr ((hasExited_of_getElem same).mp exited)))
  · intro accounted child known
    by_cases isNew : child = pool.children.length
    · exact .inr (.inl (List.mem_append.mpr (.inr (List.mem_singleton.mpr isNew))))
    · have old : child < pool.children.length := by omega
      have same := spawned_getElem pool old
      rcases accounted child old with handle | starting | closed | exited
      · exact .inl handle
      · exact .inr (.inl (List.mem_append.mpr (.inl starting)))
      · exact .inr (.inr (.inl ((hasClosed_of_getElem same).mpr closed)))
      · exact .inr (.inr (.inr ((hasExited_of_getElem same).mpr exited)))

/-- Ensuring that the slot is started breaks and mends nothing. -/
theorem ensureSlotStarted_kept (pool : Pool) (spawns : Bool) :
    (pool.ensureSlotStarted spawns).2.Kept ↔ pool.Kept := by
  rcases pool.ensureSlotStarted_cases spawns with same | ⟨-, same⟩
  · rw [same]
  · rw [same]
    exact ⟨fun kept => ⟨kept.exclusive, pool.spawned_accounted.mp kept.accounted, kept.served⟩,
      fun kept => ⟨kept.exclusive, pool.spawned_accounted.mpr kept.accounted, kept.served⟩⟩

theorem Sound.ensureSlotStarted (sound : pool.Sound) (spawns : Bool) :
    (pool.ensureSlotStarted spawns).2.Sound := by
  rcases pool.ensureSlotStarted_cases spawns with same | ⟨noHandle, same⟩
  · rw [same]
    exact sound
  · rw [same]
    exact sound.spawned noHandle

end Pool

end Triangle.CursorPool
