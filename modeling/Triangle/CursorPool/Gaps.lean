import Triangle.CursorPool.Custody

/-!
# When the pool keeps its promises

One lemma an operation: from a pool that keeps its promises the step leads to another one
exactly when it meets `Spares`. A run then keeps them throughout if and only if each of its
steps does.
-/

namespace Triangle.CursorPool

open Triangle.Semantics

section Marks

variable {children : List Child} {mark : Child → Child} {shown : Child → Bool}

/-- A mark that `shown` does not look at. -/
theorem any_modify_of_same (same : ∀ entry, shown (mark entry) = shown entry) (child other : Nat) :
    ((children.modify child mark)[other]?.any shown) = (children[other]?.any shown) := by
  rw [List.getElem?_modify]
  cases children[other]? with
  | none => rfl
  | some entry =>
      by_cases isChild : child = other
      · simp [isChild, same]
      · simp [isChild]

/-- A mark that `shown` looks at. -/
theorem any_modify_of_marks (marks : ∀ entry, shown (mark entry) = true) (child other : Nat) :
    ((children.modify child mark)[other]?.any shown) = true ↔
      (children[other]?.any shown) = true ∨ other = child ∧ other < children.length := by
  rw [List.getElem?_modify]
  by_cases known : other < children.length
  · rw [List.getElem?_eq_getElem known]
    by_cases isChild : child = other
    · simp [isChild, marks, known]
    · simp [isChild, Ne.symm isChild]
  · rw [List.getElem?_eq_none (by omega)]
    simp [known]

end Marks

namespace Pool

variable {pool : Pool}

/-- Releasing a lease takes it from the unreleased ones. -/
theorem unreleased_modify (leases : List Lease) (lease : Nat) :
    (leases.modify lease fun entry => { entry with released := true }).filter
        (fun entry => !entry.released) =
      (leases.eraseIdx lease).filter fun entry => !entry.released := by
  induction leases generalizing lease with
  | nil => simp
  | cons first rest ih =>
      cases lease with
      | zero => simp
      | succ lease =>
          rw [List.modify_succ_cons, List.eraseIdx_cons_succ, List.filter_cons, List.filter_cons,
            ih]

theorem isFree_iff_closed (free : pool.slot.busy = false) :
    pool.IsFree ↔ pool.slot.circuitOpenUntil ≤ pool.now :=
  ⟨fun isFree => isFree.2, fun closed => ⟨free, closed⟩⟩

/-- A drain of a free slot keeps the promises exactly when it hands the slot to nobody, or only
when no lease is out. -/
theorem drained_kept (free : pool.slot.busy = false) (exclusive : pool.unreleased.length ≤ 1)
    (accounted : pool.Accounted) :
    pool.drainWaiters.Kept ↔
      (pool.slot.circuitOpenUntil ≤ pool.now → pool.HasLiveWaiter → pool.unreleased = []) := by
  have same := @drainLoop_same pool pool.waiters
  have exact := pool.drainWaiters_exclusive exclusive
  rw [isFree_iff_closed free] at exact
  exact ⟨fun kept => exact.mp kept.exclusive, fun spares =>
    ⟨exact.mpr spares, same.accounted accounted, pool.drainWaiters_served⟩⟩

/-- A caller gets a free slot; otherwise it joins the queue or not. -/
theorem acquire_cases (pool : Pool) (arguments : AcquireOptions) :
    pool.IsFree ∧ (pool.acquire arguments).2 = pool.lend arguments.conversationKey ∨
      ¬pool.IsFree ∧ ∃ waiters nextWaiter,
        (pool.acquire arguments).2 = { pool with waiters, nextWaiter } := by
  by_cases free : pool.IsFree
  · simp only [acquire, pickSlot_eq, if_pos free]
    exact .inl ⟨free, trivial⟩
  · simp only [acquire, pickSlot_eq, if_neg free]
    refine .inr ⟨free, ?_⟩
    split
    · exact ⟨_, _, rfl⟩
    · split
      · exact ⟨_, _, rfl⟩
      · exact ⟨_, _, rfl⟩

theorem acquire_sound (sound : pool.Sound) (arguments : AcquireOptions) :
    (pool.acquire arguments).2.Sound := by
  rcases pool.acquire_cases arguments with ⟨-, same⟩ | ⟨-, waiters, nextWaiter, same⟩
  · rw [same]
    exact (lend_same pool _).sound sound
  · rw [same]
    have unchanged : SameChildren pool { pool with waiters, nextWaiter } :=
      ⟨rfl, rfl, rfl, rfl, rfl⟩
    exact unchanged.sound sound

theorem acquire_kept (kept : pool.Kept) (arguments : AcquireOptions) :
    (pool.acquire arguments).2.Kept ↔ (pool.IsFree → pool.unreleased = []) := by
  rcases pool.acquire_cases arguments with ⟨free, same⟩ | ⟨notFree, waiters, nextWaiter, same⟩
  · rw [same]
    have lent := pool.lend_unreleased arguments.conversationKey
    constructor
    · intro after _
      have atMost := after.exclusive
      rw [lent] at atMost
      exact List.eq_nil_of_length_eq_zero (by omega)
    · intro none
      refine ⟨?_, (lend_same pool _).accounted kept.accounted, fun isFree =>
        absurd isFree (lend_not_free pool _)⟩
      rw [lent, none free]
      exact Nat.le_refl 1
  · rw [same]
    exact ⟨fun _ isFree => absurd isFree notFree, fun _ =>
      ⟨kept.exclusive, kept.accounted, fun isFree => absurd isFree notFree⟩⟩

/-- The pool that `release` drains. -/
def freedBy (pool : Pool) (lease : Nat) : Pool :=
  { pool with
    leases := pool.leases.modify lease fun entry => { entry with released := true }
    slot := { pool.slot with busy := false } }

theorem freedBy_unreleased (pool : Pool) (lease : Nat) :
    (pool.freedBy lease).unreleased =
      (pool.leases.eraseIdx lease).filter fun entry => !entry.released :=
  unreleased_modify pool.leases lease

theorem freedBy_same (pool : Pool) (lease : Nat) : SameChildren pool (pool.freedBy lease) :=
  ⟨rfl, rfl, rfl, rfl, rfl⟩

theorem release_sound (sound : pool.Sound) (lease : Nat) : (pool.release lease).Sound := by
  unfold release
  split
  · exact ((freedBy_same pool lease).trans (drainLoop_same _)).sound sound
  · exact sound

theorem release_kept (kept : pool.Kept) (lease : Nat) :
    (pool.release lease).Kept ↔
      (lease < pool.leases.length → pool.slot.circuitOpenUntil ≤ pool.now →
        pool.HasLiveWaiter → (pool.leases.eraseIdx lease).all (·.released) = true) := by
  unfold release
  by_cases known : lease < pool.leases.length
  · rw [if_pos known]
    have fewer : (pool.freedBy lease).unreleased.length ≤ 1 := by
      rw [freedBy_unreleased]
      exact Nat.le_trans (List.Sublist.filter _ (List.eraseIdx_sublist _ _)).length_le
        kept.exclusive
    have none : (pool.freedBy lease).unreleased = [] ↔
        (pool.leases.eraseIdx lease).all (·.released) = true := by
      rw [freedBy_unreleased, List.filter_eq_nil_iff, List.all_eq_true]
      simp
    have drained := @drained_kept (pool.freedBy lease) rfl fewer
      ((freedBy_same pool lease).accounted kept.accounted)
    rw [none] at drained
    exact drained.trans ⟨fun spares _ => spares, fun spares => spares known⟩
  · rw [if_neg known]
    exact ⟨fun _ isKnown => absurd isKnown known, fun _ => kept⟩

/-! ## Starts -/

theorem startEnds_sound (sound : pool.Sound) (child : Nat) (ready : Bool) :
    (pool.startEnds child ready).Sound := by
  have others : ∀ other ∈ pool.starting.filter (· ≠ child), other < pool.children.length ∧
      ¬pool.HasClosed other :=
    fun other member => sound.starting other (List.mem_of_mem_filter member)
  unfold startEnds
  split
  next waits =>
    dsimp only
    split
    next isReady =>
      refine ⟨fun other isChild => ?_, others⟩
      obtain rfl : child = other := Option.some.inj isChild
      obtain ⟨known, notClosed⟩ := sound.starting child waits.1
      refine ⟨known, ?_, notClosed, ?_⟩
      · exact fun member => of_decide_eq_true (List.mem_filter.mp member).2 rfl
      · exact fun exited => Bool.false_ne_true ((waits.2 isReady).symm.trans exited)
    next =>
      refine ⟨fun other isHandle => ?_, others⟩
      obtain ⟨known, notStarting, notClosed, notExited⟩ := sound.handle other isHandle
      exact ⟨known, fun member => notStarting (List.mem_of_mem_filter member), notClosed, notExited⟩
  next => exact sound

/-- A start that comes good must find no other child in the slot, and one that fails must find
its child gone. -/
theorem startEnds_kept (sound : pool.Sound) (kept : pool.Kept) (child : Nat) (ready : Bool) :
    (pool.startEnds child ready).Kept ↔
      (child ∈ pool.starting → if ready then pool.HasExited child ∨ pool.slot.processHandle = none
        else pool.HasExited child) := by
  by_cases waiting : child ∈ pool.starting
  · obtain ⟨known, notClosed⟩ := sound.starting child waiting
    cases ready with
    | false =>
        have waits : child ∈ pool.starting ∧
            (false = true → (pool.children[child]?.any (·.exited)) = false) :=
          ⟨waiting, fun isTrue => absurd isTrue Bool.false_ne_true⟩
        unfold startEnds
        rw [if_pos waits]
        constructor
        · intro after _
          rcases after.accounted child known with handle | starting | closed | exited
          · exact absurd waiting (sound.handle child handle).2.1
          · exact absurd rfl (of_decide_eq_true (List.mem_filter.mp starting).2)
          · exact absurd closed notClosed
          · exact exited
        · intro exited
          refine ⟨kept.exclusive, fun other isKnown => ?_, kept.served⟩
          by_cases same : other = child
          · exact .inr (.inr (.inr (same ▸ exited waiting)))
          · rcases kept.accounted other isKnown with handle | starting | gone
            · exact .inl handle
            · exact .inr (.inl (List.mem_filter.mpr ⟨starting, decide_eq_true same⟩))
            · exact .inr (.inr gone)
    | true =>
        by_cases exited : pool.HasExited child
        · have refused : ¬(child ∈ pool.starting ∧
              (true = true → (pool.children[child]?.any (·.exited)) = false)) := fun waits =>
            Bool.false_ne_true ((waits.2 rfl).symm.trans exited)
          unfold startEnds
          rw [if_neg refused]
          exact ⟨fun _ _ => .inl exited, fun _ => kept⟩
        · have waits : child ∈ pool.starting ∧
              (true = true → (pool.children[child]?.any (·.exited)) = false) :=
            ⟨waiting, fun _ => Bool.eq_false_iff.mpr exited⟩
          unfold startEnds
          rw [if_pos waits]
          constructor
          · intro after _
            refine .inr (Option.eq_none_iff_forall_ne_some.mpr fun handle isHandle => ?_)
            obtain ⟨isKnown, notStarting, open_, running⟩ := sound.handle handle isHandle
            rcases after.accounted handle isKnown with new | starting | closed | gone
            · obtain rfl : child = handle := Option.some.inj new
              exact notStarting waiting
            · exact notStarting (List.mem_of_mem_filter starting)
            · exact open_ closed
            · exact running gone
          · intro spares
            have noHandle := (spares waiting).resolve_left exited
            refine ⟨kept.exclusive, fun other isKnown => ?_, kept.served⟩
            by_cases same : other = child
            · exact .inl (same ▸ rfl)
            · rcases kept.accounted other isKnown with handle | starting | gone
              · exact absurd (handle.symm.trans noHandle) (by simp)
              · exact .inr (.inl (List.mem_filter.mpr ⟨starting, decide_eq_true same⟩))
              · exact .inr (.inr gone)
  · have refused : pool.startEnds child ready = pool :=
      if_neg fun waits => waiting waits.1
    rw [refused]
    exact ⟨fun _ isWaiting => absurd isWaiting waiting, fun _ => kept⟩

/-! ## Exits and closes -/

/-- The pool with a child that has exited. -/
def withExit (pool : Pool) (child : Nat) : Pool :=
  { pool with
    children := pool.children.modify child fun entry => { entry with exited := true } }

theorem withExit_hasExited (pool : Pool) (child other : Nat) :
    (pool.withExit child).HasExited other ↔
      pool.HasExited other ∨ other = child ∧ other < pool.children.length :=
  any_modify_of_marks (fun _ => rfl) child other

theorem withExit_hasClosed (pool : Pool) (child other : Nat) :
    (pool.withExit child).HasClosed other ↔ pool.HasClosed other :=
  Eq.to_iff (congrArg (· = true) (@any_modify_of_same pool.children
    (fun entry => { entry with exited := true }) (·.closed) (fun _ => rfl) child other))

theorem withExit_length (pool : Pool) (child : Nat) :
    (pool.withExit child).children.length = pool.children.length :=
  List.length_modify _ _ _

/-- The pool with a child that was closed, and is out of the slot. -/
def withClose (pool : Pool) (child : Nat) : Pool :=
  { pool with
    slot := { pool.slot with processHandle := none }
    children := pool.children.modify child fun entry => { entry with closed := true } }

theorem withClose_hasClosed (pool : Pool) (child other : Nat) :
    (pool.withClose child).HasClosed other ↔
      pool.HasClosed other ∨ other = child ∧ other < pool.children.length :=
  any_modify_of_marks (fun _ => rfl) child other

theorem withClose_hasExited (pool : Pool) (child other : Nat) :
    (pool.withClose child).HasExited other ↔ pool.HasExited other :=
  Eq.to_iff (congrArg (· = true) (@any_modify_of_same pool.children
    (fun entry => { entry with closed := true }) (·.exited) (fun _ => rfl) child other))

theorem withClose_length (pool : Pool) (child : Nat) :
    (pool.withClose child).children.length = pool.children.length :=
  List.length_modify _ _ _

theorem withExit_sound (sound : pool.Sound) {child : Nat}
    (notHandle : pool.slot.processHandle ≠ some child) : (pool.withExit child).Sound where
  handle other isHandle := by
    obtain ⟨known, notStarting, notClosed, notExited⟩ := sound.handle other isHandle
    refine ⟨?_, notStarting, ?_, ?_⟩
    · rw [withExit_length]
      exact known
    · exact fun closed => notClosed ((withExit_hasClosed pool child other).mp closed)
    · intro exited
      rcases (withExit_hasExited pool child other).mp exited with before | ⟨rfl, -⟩
      · exact notExited before
      · exact notHandle isHandle
  starting other member := by
    obtain ⟨known, notClosed⟩ := sound.starting other member
    refine ⟨?_, fun closed => notClosed ((withExit_hasClosed pool child other).mp closed)⟩
    rw [withExit_length]
    exact known

theorem withExit_accounted (accounted : pool.Accounted) (child : Nat) :
    (pool.withExit child).Accounted := by
  intro other known
  rw [withExit_length] at known
  rw [withExit_hasExited, withExit_hasClosed]
  rcases accounted other known with handle | starting | closed | exited
  · exact .inl handle
  · exact .inr (.inl starting)
  · exact .inr (.inr (.inl closed))
  · exact .inr (.inr (.inr (.inl exited)))

variable (options : Options)

/-- The slot of a pool whose child is gone. -/
theorem crash_sound (sound : pool.Sound) (child jitter : Nat) :
    ((pool.withExit child).crash options jitter).Sound where
  handle _ isHandle := absurd isHandle (by simp [crash])
  starting other member := by
    obtain ⟨known, notClosed⟩ := sound.starting other member
    refine ⟨?_, fun closed => notClosed ((withExit_hasClosed pool child other).mp closed)⟩
    exact (withExit_length pool child).symm ▸ known

theorem crash_accounted (accounted : pool.Accounted) {child : Nat} (jitter : Nat)
    (isHandle : pool.slot.processHandle = some child) :
    ((pool.withExit child).crash options jitter).Accounted := by
  intro other known
  have isKnown : other < pool.children.length := (withExit_length pool child) ▸ known
  rcases withExit_accounted accounted child other known with handle | starting | gone
  · obtain rfl : child = other := Option.mem_unique isHandle handle
    exact .inr (.inr (.inr ((withExit_hasExited pool child child).mpr (.inr ⟨rfl, isKnown⟩))))
  · exact .inr (.inl starting)
  · exact .inr (.inr gone)

theorem exit_sound (sound : pool.Sound) (child jitter : Nat) :
    (pool.exit options child jitter).Sound := by
  unfold exit
  split
  next =>
    exact (drainLoop_same _).sound (crash_sound options sound child jitter)
  next notHandle => exact withExit_sound sound notHandle

theorem exit_kept (kept : pool.Kept) (child jitter : Nat) :
    (pool.exit options child jitter).Kept ↔
      (pool.slot.processHandle = some child →
        (pool.crash options jitter).slot.circuitOpenUntil ≤ pool.now → pool.HasLiveWaiter →
        pool.unreleased = []) := by
  unfold exit
  by_cases isHandle : pool.slot.processHandle = some child
  · rw [if_pos isHandle]
    have drained := @drained_kept ((pool.withExit child).crash options jitter) rfl kept.exclusive
      (crash_accounted options kept.accounted jitter isHandle)
    exact drained.trans ⟨fun spares _ => spares, fun spares => spares isHandle⟩
  · rw [if_neg isHandle]
    exact ⟨fun _ same => absurd same isHandle, fun _ =>
      ⟨kept.exclusive, withExit_accounted kept.accounted child, kept.served⟩⟩

theorem withClose_sound (sound : pool.Sound) {child : Nat}
    (isHandle : pool.slot.processHandle = some child) : (pool.withClose child).Sound where
  handle _ handle := absurd handle (by simp [withClose])
  starting other member := by
    obtain ⟨known, notClosed⟩ := sound.starting other member
    refine ⟨?_, fun closed => ?_⟩
    · rw [withClose_length]
      exact known
    · rcases (withClose_hasClosed pool child other).mp closed with before | ⟨rfl, -⟩
      · exact notClosed before
      · exact (sound.handle other isHandle).2.1 member

theorem withClose_accounted (accounted : pool.Accounted) {child : Nat}
    (isHandle : pool.slot.processHandle = some child) : (pool.withClose child).Accounted := by
  intro other known
  rw [withClose_length] at known
  rw [withClose_hasExited, withClose_hasClosed]
  rcases accounted other known with handle | starting | closed | exited
  · obtain rfl : child = other := Option.mem_unique isHandle handle
    exact .inr (.inr (.inl (.inr ⟨rfl, known⟩)))
  · exact .inr (.inl starting)
  · exact .inr (.inr (.inl (.inl closed)))
  · exact .inr (.inr (.inr exited))

/-- The pool whose circuit `restartSlot` closes. -/
def reset (pool : Pool) : Pool :=
  { pool with slot := { pool.slot with crashCount := 0, circuitOpenUntil := 0 } }

theorem reset_sound (sound : pool.Sound) : pool.reset.Sound :=
  ⟨sound.handle, sound.starting⟩

/-- Closing the circuit of a free slot needs an empty queue. -/
theorem restarted_kept (kept : pool.Kept) (spawns : Bool) :
    (pool.restarted spawns).2.Kept ↔ (pool.slot.busy = false → pool.waiters = []) := by
  rw [restarted, ensureSlotStarted_kept]
  exact ⟨fun after free => after.served ⟨free, Nat.zero_le _⟩, fun spares =>
    ⟨kept.exclusive, kept.accounted, fun free => spares free.1⟩⟩

theorem restarted_sound (sound : pool.Sound) (spawns : Bool) : (pool.restarted spawns).2.Sound :=
  (reset_sound sound).ensureSlotStarted spawns

theorem restartSlot_sound (sound : pool.Sound) (slotId : String) (spawns : Bool) :
    (pool.restartSlot slotId spawns).2.Sound := by
  unfold restartSlot
  split
  · split
    next => exact restarted_sound sound spawns
    next prior isHandle =>
      have closed := withClose_sound sound isHandle
      exact ⟨closed.handle, closed.starting⟩
  · exact sound

theorem restartSlot_kept (kept : pool.Kept) (slotId : String) (spawns : Bool) :
    (pool.restartSlot slotId spawns).2.Kept ↔
      (pool.slot.slotId = slotId → pool.slot.processHandle = none → pool.slot.busy = false →
        pool.waiters = []) := by
  unfold restartSlot
  by_cases isSlot : pool.slot.slotId = slotId
  · rw [if_pos isSlot]
    split
    next noHandle =>
      exact (restarted_kept kept spawns).trans
        ⟨fun spares _ _ => spares, fun spares => spares isSlot noHandle⟩
    next prior isHandle =>
      refine ⟨fun _ _ noHandle => absurd (isHandle.symm.trans noHandle) (by simp), fun _ => ?_⟩
      exact ⟨kept.exclusive, withClose_accounted kept.accounted isHandle, kept.served⟩
  · rw [if_neg isSlot]
    exact ⟨fun _ same => absurd same isSlot, fun _ => kept⟩

theorem stop_sound (sound : pool.Sound) : pool.stop.Sound := by
  unfold stop
  split
  next => exact ⟨fun _ isHandle => absurd isHandle (by simp [rejectWaiters]), sound.starting⟩
  next handle isHandle =>
    have closed := withClose_sound sound isHandle
    exact ⟨closed.handle, closed.starting⟩

theorem stop_kept (kept : pool.Kept) :
    pool.stop.Kept ↔
      (pool.slot.processHandle ≠ none → pool.slot.circuitOpenUntil ≤ pool.now →
        pool.waiters = []) := by
  unfold stop
  split
  next noHandle =>
    refine ⟨fun _ someHandle => absurd noHandle someHandle, fun _ => ?_⟩
    refine ⟨kept.exclusive, fun child known => ?_, fun _ => rfl⟩
    rcases kept.accounted child known with handle | others
    · exact absurd (handle.symm.trans noHandle) (by simp)
    · exact .inr others
  next handle isHandle =>
    have someHandle : pool.slot.processHandle ≠ none := by
      rw [isHandle]
      exact Option.some_ne_none handle
    exact ⟨fun after _ closed => after.served ⟨rfl, closed⟩, fun spares =>
      ⟨kept.exclusive, withClose_accounted kept.accounted isHandle, fun free =>
        spares someHandle free.2⟩⟩

theorem closeEnds_sound (sound : pool.Sound) (child : Nat) (spawns : Bool) :
    (pool.closeEnds child spawns).Sound := by
  unfold closeEnds
  split
  · exact sound
  · have waited : ({ pool with
        closing := pool.closing.filter fun entry => entry.1 ≠ child } : Pool).Sound :=
      ⟨sound.handle, sound.starting⟩
    dsimp only
    split
    · exact restarted_sound waited spawns
    · exact ⟨sound.handle, sound.starting⟩

theorem closeEnds_kept (kept : pool.Kept) (child : Nat) (spawns : Bool) :
    (pool.closeEnds child spawns).Kept ↔
      ((pool.closing.find? fun entry => entry.1 = child).map (·.2) = some .restart →
        pool.slot.busy = false → pool.waiters = []) := by
  unfold closeEnds
  split
  next missing =>
    rw [missing]
    exact ⟨fun _ isRestart => absurd isRestart (by simp), fun _ => kept⟩
  next other closer found =>
    rw [found]
    have waited : ({ pool with
        closing := pool.closing.filter fun entry => entry.1 ≠ child } : Pool).Kept :=
      ⟨kept.exclusive, kept.accounted, kept.served⟩
    cases closer with
    | restart =>
        exact (restarted_kept waited spawns).trans
          ⟨fun spares _ => spares, fun spares => spares rfl⟩
    | stop =>
        exact ⟨fun _ isRestart => absurd isRestart (by simp), fun _ =>
          ⟨kept.exclusive, kept.accounted, fun _ => rfl⟩⟩

theorem clock_kept (kept : pool.Kept) (now : Nat) :
    ({ pool with now } : Pool).Kept ↔
      (pool.slot.busy = false → pool.now < pool.slot.circuitOpenUntil →
        pool.slot.circuitOpenUntil ≤ now → pool.waiters = []) := by
  refine ⟨fun after free _ closed => after.served ⟨free, closed⟩, fun spares =>
    ⟨kept.exclusive, kept.accounted, fun free => ?_⟩⟩
  by_cases wasOpen : pool.now < pool.slot.circuitOpenUntil
  · exact spares free.1 wasOpen free.2
  · exact kept.served ⟨free.1, Nat.not_lt.mp wasOpen⟩

/-! ## Runs -/

theorem step_sound (sound : pool.Sound) (event : Event) : (pool.step options event).Sound := by
  cases event with
  | clock now => exact ⟨sound.handle, sound.starting⟩
  | start spawns => exact sound.ensureSlotStarted spawns
  | acquire arguments => exact acquire_sound sound arguments
  | ready lease spawns =>
      by_cases known : lease < pool.leases.length
      · have stepped : pool.step options (.ready lease spawns) =
            (pool.ensureSlotStarted spawns).2 := if_pos known
        rw [stepped]
        exact sound.ensureSlotStarted spawns
      · have stepped : pool.step options (.ready lease spawns) = pool := if_neg known
        rw [stepped]
        exact sound
  | release lease => exact release_sound sound lease
  | startEnds child ready => exact startEnds_sound sound child ready
  | exit child jitter => exact exit_sound options sound child jitter
  | restartSlot slotId spawns => exact restartSlot_sound sound slotId spawns
  | stop => exact stop_sound sound
  | closeEnds child spawns => exact closeEnds_sound sound child spawns

/-- A step keeps the promises exactly when it spares the gaps. -/
theorem step_kept (sound : pool.Sound) (kept : pool.Kept) (event : Event) :
    (pool.step options event).Kept ↔ Spares options pool event := by
  cases event with
  | clock now => exact clock_kept kept now
  | start spawns => exact (ensureSlotStarted_kept pool spawns).trans (iff_true_intro kept)
  | acquire arguments => exact acquire_kept kept arguments
  | ready lease spawns =>
      by_cases known : lease < pool.leases.length
      · have stepped : pool.step options (.ready lease spawns) =
            (pool.ensureSlotStarted spawns).2 := if_pos known
        rw [stepped]
        exact (ensureSlotStarted_kept pool spawns).trans (iff_true_intro kept)
      · have stepped : pool.step options (.ready lease spawns) = pool := if_neg known
        rw [stepped]
        exact iff_true_intro kept
  | release lease => exact release_kept kept lease
  | startEnds child ready => exact startEnds_kept sound kept child ready
  | exit child jitter => exact exit_kept options kept child jitter
  | restartSlot slotId spawns => exact restartSlot_kept kept slotId spawns
  | stop => exact stop_kept kept
  | closeEnds child spawns => exact closeEnds_kept kept child spawns

variable (slotId : String)

theorem created_sound : (Pool.created slotId).Sound :=
  ⟨fun _ isHandle => absurd isHandle (by simp [created]), fun _ member =>
    absurd member (by simp [created])⟩

theorem created_kept : (Pool.created slotId).Kept :=
  ⟨Nat.zero_le 1, fun _ known => absurd known (Nat.not_lt_zero _), fun _ => rfl⟩

end Pool

/-- A run keeps the promises in all its states if and only if each of its steps spares the
gaps. -/
theorem pool_kept_iff (options : Options) (slotId : String) (events : List Event) :
    (poolMachine options slotId).Along (Spares options) (Pool.created slotId) events ↔
      ∀ first, first <+: events → ((poolMachine options slotId).run first).Kept :=
  @Machine.along_iff_everywhere _ _ (poolMachine options slotId) Pool.Sound Pool.Kept
    (Spares options)
    (fun _ event sound => Pool.step_sound options sound event)
    (fun _ event sound kept => Pool.step_kept options sound kept event) _
    (Pool.created_sound slotId) (Pool.created_kept slotId) events

/-- Two callers, the second waits; the child of the first one exits, and the first one releases
its lease after the second one got the slot. A third caller gets it too. -/
def staleRelease : List Event :=
  [.start true, .startEnds 0 true, .acquire {}, .ready 0 true,
    .acquire { waitMs := some 1000 }, .exit 0 0, .release 0, .acquire {}]

theorem staleRelease_shares_slot :
    ¬∀ (options : Options) (slotId : String) (pool : Pool),
      (poolMachine options slotId).Reachable pool → pool.Kept := by
  intro always
  have kept := always ⟨3, 100, 30000⟩ "cursor-slot-1" _ ⟨staleRelease, rfl⟩
  have shared : ((poolMachine ⟨3, 100, 30000⟩ "cursor-slot-1").run
      staleRelease).unreleased.length = 2 := by decide +kernel
  have exclusive := kept.exclusive
  omega

end Triangle.CursorPool
