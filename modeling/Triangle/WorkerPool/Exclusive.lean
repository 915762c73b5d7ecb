import Triangle.WorkerPool.Slots

/-!
# Exclusive slots

Each slot has at most one lease that is neither released nor revoked and at most
one living child, and a release frees no slot that someone else has, in every
run in which the operations on a slot do not overlap. The pool does not see to
that: it looks at `busy` and at the handle only, and both are reset before the
old child is closed; and a lease may be released again while its generation
lasts.
-/

namespace Triangle.WorkerPool

open Triangle.Semantics

/-- A call does not overlap with another operation on its slot: a slot is
reserved, visited or warmed while no operation is in flight on it; a release of
the current generation of a busy slot is that of its holder; and a child that
fails to start is not left alive. -/
def Apart (options : Options) (process : Nat) (world : World) : Call → Choice → Prop
  | .acquire arguments, _ =>
      ReservesIdle world (world.acquire options arguments process).1
  | .finishGrant slot _, _ =>
      (world.slots slot).processHandle = none ∨ world.isCircuitOpen slot = true →
        ReservesIdle (world.dropGrant slot) ((world.dropGrant slot).drainWaiters options)
  | .failGrant slot, _ =>
      ReservesIdle (world.dropGrant slot) ((world.dropGrant slot).drainWaiters options)
  | .drainWaiters, _ => ReservesIdle world (world.drainWaiters options)
  | .release ref success, _ => ∀ lease, world.leases[ref]? = some lease →
      ((world.slots lease.slot).generation = lease.generation →
        (world.slots lease.slot).busy = true → lease.active = true) ∧
      ReservesIdle (world.settleRelease ref lease success)
        ((world.settleRelease ref lease success).drainWaiters options)
  | .beginWork slot, _ => world.working slot = none
  | .visitSlot slot, _ => world.working slot = none
  | .startProcess _ _, choice => choice.succeeds = false → choice.alive = false
  | .initializeProcess _ _, choice => choice.succeeds = false → choice.alive = false
  | _, _ => True

/-- The calls of a run do not overlap. -/
def WithoutOverlap (options : Options) (state : PoolState) (event : PoolEvent) : Prop :=
  ∀ process choice request next, event = .resume process choice →
    state.running process = some (.call request next) →
    Apart options process state.world request choice

variable {options : Options} {world before after : World} {process slot : Nat} {known : Knowledge}
  {choice : Choice}

/-! ## What others hold -/

theorem knows_nothing (process : Nat) (world : World) : Knows process world .nothing := by
  intro slot work isHeld
  cases isHeld

/-- What is left to the operations in flight they still hold. -/
theorem Knows.spares (knows : Knows process before known) (spares : Spares before after) :
    Knows process after known := by
  intro slot work isHeld
  obtain ⟨isWorked, isOpening⟩ := knows slot work isHeld
  obtain ⟨working, opening⟩ := spares slot (by
    rw [isWorked]
    exact nofun)
  exact ⟨working.trans isWorked, opening.trans isOpening⟩

/-- What an operation does with a call. -/
structure Performed (process : Nat) (later : Knowledge) (before after : World) : Prop where
  kept : Kept after
  knows : Knows process after later
  others : ∀ other otherKnown, other ≠ process → Knows other before otherKnown →
    Knows other after otherKnown

/-- A call that takes no slot from an operation in flight. -/
theorem Performed.spares (kept : Kept after) (knows : Knows process before known)
    (spares : Spares before after) : Performed process known before after where
  kept := kept
  knows := knows.spares spares
  others _ _ _ otherKnows := otherKnows.spares spares

/-- A call that changes the work on one slot, which no other operation holds. -/
theorem Performed.at_slot (kept : Kept after) (knows : Knows process after known)
    (isOwn : ∀ other work, other ≠ process → before.working slot ≠ some (.task other, work))
    (elsewhere : ∀ place, place ≠ slot →
      after.working place = before.working place ∧ after.opening place = before.opening place) :
    Performed process known before after where
  kept := kept
  knows := knows
  others other otherKnown different otherKnows := by
    intro place work isHeld
    obtain ⟨isWorked, isOpening⟩ := otherKnows place work isHeld
    obtain ⟨working, opening⟩ := elsewhere place (by
      rintro rfl
      exact isOwn other work different isWorked)
    exact ⟨working.trans isWorked, opening.trans isOpening⟩

/-- A call that ends with a drain of the waiters. -/
theorem Performed.drain (performed : Performed process known before after)
    (reserves : ReservesIdle after (after.drainWaiters options)) :
    Performed process known before (after.drainWaiters options) := by
  obtain ⟨kept, spares⟩ := drainLoop_kept after.waiters performed.kept reserves
  exact
    { kept
      knows := performed.knows.spares spares
      others := fun other otherKnown different otherKnows =>
        (performed.others other otherKnown different otherKnows).spares spares }

theorem own_free (isFree : world.working slot = none) :
    ∀ other work, other ≠ process → world.working slot ≠ some (.task other, work) := by
  intro other work _ isWorked
  rw [isFree] at isWorked
  cases isWorked

theorem own_held {held : Work} (isHeld : world.working slot = some (.task process, held)) :
    ∀ other work, other ≠ process → world.working slot ≠ some (.task other, work) := by
  intro other work different isWorked
  rw [isHeld] at isWorked
  cases isWorked
  exact different rfl

variable {work : Work} {request : Call} {state : PoolState} {event : PoolEvent}

theorem knows_at {opening : Option Nat} (isWorked : world.working slot = some (.task process, work))
    (isOpening : world.opening slot = opening) :
    Knows process world ⟨some (slot, work), opening⟩ := by
  intro place other isHeld
  cases isHeld
  exact ⟨isWorked, isOpening⟩

/-- A slot without operation in flight has no child on its way. -/
theorem Kept.not_opening (kept : Kept world) (isFree : world.working slot = none) :
    world.opening slot = none := by
  by_contra isOpening
  exact (kept.slots slot).opened isOpening isFree

/-! ## The calls -/

/-- What `acquire` comes to before it waits. -/
theorem acquire_cases (options : Options) (world : World) (arguments : AcquireOptions)
    (process : Nat) :
    (∃ problem, world.acquire options arguments process = (world, .error problem)) ∨
      (∃ problem, world.acquire options arguments process =
        (world.refreshCircuits, .error problem)) ∨
      (∃ index, (world.slots index).busy = false ∧ world.acquire options arguments process =
        (world.refreshCircuits.reserve index (.task process), .ok (.reserved index))) ∨
      ∃ waiters nextWaiter waiter, world.acquire options arguments process =
        (World.drainWaiters options { world.refreshCircuits with waiters, nextWaiter },
          .ok (.waiting waiter)) := by
  unfold World.acquire
  by_cases notStarted : world.started = false
  · exact .inl ⟨.notStarted, by simp [notStarted]⟩
  by_cases isDraining : world.draining = true
  · exact .inl ⟨.draining, by simp [notStarted, isDraining]⟩
  by_cases allOpen : world.refreshCircuits.allCircuitsOpen options = true
  · exact .inr (.inl ⟨.circuitOpen, by simp [notStarted, isDraining, allOpen]⟩)
  simp only [notStarted, isDraining, allOpen]
  cases isReserved : world.tryReserveSlot options
      (arguments.stickySlot.orElse fun _ => arguments.conversationKey.bind world.sticky)
      (.task process) with
  | some found =>
      obtain ⟨index, reserved⟩ := found
      obtain ⟨isIdle, rfl⟩ := tryReserveSlot_some isReserved
      exact .inr (.inr (.inl ⟨index, isIdle, rfl⟩))
  | none =>
      by_cases noWait : arguments.waitMs = 0
      · exact .inr (.inl ⟨.overloaded, by simp [noWait]⟩)
      · exact .inr (.inr (.inr ⟨_, _, _, by simp only [noWait, if_false]; rfl⟩))

section

variable (kept : Kept world)
include kept

theorem acquire_performed {arguments : AcquireOptions}
    (reserves : ReservesIdle world (world.acquire options arguments process).1) :
    Performed process
      (learn .nothing (.acquire arguments) (world.acquire options arguments process).2) world
      (world.acquire options arguments process).1 := by
  have refreshed : Performed process .nothing world world.refreshCircuits :=
    Performed.spares kept.refreshCircuits (knows_nothing process world) fun _ _ => ⟨rfl, rfl⟩
  rcases acquire_cases options world arguments process with ⟨problem, same⟩ | ⟨problem, same⟩ |
    ⟨index, isIdle, same⟩ | ⟨waiters, nextWaiter, waiter, same⟩
  · rw [same]
    exact Performed.spares kept (knows_nothing process world) fun _ _ => ⟨rfl, rfl⟩
  · rw [same]
    exact refreshed
  · rw [same] at reserves ⊢
    have isFree : world.working index = none :=
      reserves index isIdle ((reserve_busy _ index).mpr (.inl rfl))
    refine Performed.at_slot (kept.refreshCircuits.reserve isFree ?_ process) ?_ (own_free isFree) ?_
    · rw [(untouched_refreshCircuits index).busy]
      exact isIdle
    · refine knows_at ?_ (kept.not_opening isFree)
      simp [World.reserve, World.setWorking]
    · intro place different
      exact ⟨(reserve_others _ different).working, rfl⟩
  · rw [same] at reserves ⊢
    have queued : Performed process .nothing world
        { world.refreshCircuits with waiters, nextWaiter } := by
      refine Performed.spares ?_ (knows_nothing process world) fun _ _ => ⟨rfl, rfl⟩
      exact kept.refreshCircuits.untouched (fun _ => ⟨rfl, rfl, rfl, rfl, fun _ isActive => isActive,
        fun _ entry isChild isHere isLive => ⟨entry, isChild, isHere, isLive⟩⟩) rfl rfl
    refine queued.drain fun slot notBusy isBusy => reserves slot ?_ isBusy
    rw [← (untouched_refreshCircuits slot).busy]
    exact notBusy

section

variable (knows : Knows process world (.holding slot .grant))
include knows

theorem dropGrant_performed : Performed process .nothing world (world.dropGrant slot) := by
  obtain ⟨isHeld, notOpening⟩ := knows slot .grant rfl
  refine Performed.at_slot (kept.dropGrant isHeld notOpening) (knows_nothing _ _) (own_held isHeld) ?_
  intro place different
  exact ⟨(dropGrant_others different).working, rfl⟩

theorem finishGrant_performed {conversationKey : Option String}
    (reserves : (world.slots slot).processHandle = none ∨ world.isCircuitOpen slot = true →
      ReservesIdle (world.dropGrant slot) ((world.dropGrant slot).drainWaiters options)) :
    Performed process .nothing world (world.finishGrant options slot conversationKey).1 := by
  unfold World.finishGrant
  split
  next isGone =>
    refine (dropGrant_performed kept knows).drain (reserves ?_)
    simpa using isGone
  next =>
    obtain ⟨isHeld, notOpening⟩ := knows slot .grant rfl
    refine Performed.at_slot (kept.grantLease isHeld notOpening _ rfl) (knows_nothing _ _)
      (own_held isHeld) ?_
    intro place different
    simp [World.setWorking, different]

end

theorem release_performed (knows : Knows process world known) {ref : Nat} {success : Bool}
    (apart : Apart options process world (.release ref success) choice) :
    Performed process known world (world.release options ref success) := by
  unfold World.release
  cases isLease : world.leases[ref]? with
  | none => exact Performed.spares kept knows fun _ _ => ⟨rfl, rfl⟩
  | some lease =>
      obtain ⟨byHolder, reserves⟩ := apart lease isLease
      refine Performed.drain ?_ reserves
      exact Performed.spares (kept.settleRelease isLease success byHolder) knows
        (settleRelease_spares ref lease success)

/-- A child that starts or fails to. -/
theorem awaitChild_performed {child : Nat} (knows : Knows process world (.moving slot work child))
    (noLeak : choice.succeeds = false → choice.alive = false) :
    (choice.succeeds = true → Performed process (.moving slot work child) world
      (world.awaitChild slot child choice).1) ∧
    (choice.succeeds = false → Performed process (.holding slot work) world
      (world.awaitChild slot child choice).1) := by
  obtain ⟨isHeld, isOpening⟩ := knows slot work rfl
  unfold World.awaitChild
  constructor
  · intro succeeds
    simp only [succeeds, if_true]
    split
    · exact Performed.spares kept knows fun _ _ => ⟨rfl, rfl⟩
    · exact Performed.spares (kept.endChild child) knows fun _ _ => ⟨rfl, rfl⟩
  · intro fails
    simp only [fails, noLeak fails]
    refine Performed.at_slot (kept.closeChild isHeld isOpening) ?_ (own_held isHeld) ?_
    · exact knows_at isHeld (by simp [World.setOpening])
    · intro place different
      exact ⟨rfl, by simp [World.setOpening, World.endChild, different]⟩

theorem openProcess_performed (knows : Knows process world (.holding slot work)) :
    Performed process (learn (.holding slot work) (.openProcess slot) (world.openProcess slot).2) world
      (world.openProcess slot).1 := by
  obtain ⟨isHeld, notOpening⟩ := knows slot work rfl
  refine Performed.at_slot (kept.openProcess isHeld notOpening) ?_ (own_held isHeld) ?_
  · unfold World.openProcess
    split
    · exact knows
    · exact knows_at isHeld (by simp [World.setOpening])
  · intro place different
    unfold World.openProcess
    split
    · exact ⟨rfl, rfl⟩
    · exact ⟨rfl, by simp [World.setOpening, different]⟩

theorem takeGrant_performed {choice : Choice} :
    Performed process
      (learn .nothing .takeGrant (perform options process world .takeGrant choice).2) world
      (perform options process world .takeGrant choice).1 := by
  unfold perform
  cases isFirst : world.granting with
  | nil => exact Performed.spares kept (knows_nothing process world) fun _ _ => ⟨rfl, rfl⟩
  | cons grant rest =>
      obtain ⟨isQueued, notOpening⟩ := kept.queued grant (by simp [isFirst])
      have isOwn : ∀ other work, other ≠ process →
          world.working grant.slot ≠ some (.task other, work) := by
        intro other work _ isWorked
        rw [isQueued] at isWorked
        cases isWorked
      refine Performed.at_slot (kept.takeGrant isFirst process) ?_ isOwn ?_
      · exact knows_at (by simp [World.setWorking]) notOpening
      · intro place different
        exact ⟨by simp [World.setWorking, different], rfl⟩

theorem visitSlot_performed (isFree : world.working slot = none) :
    Performed process ⟨some (slot, .maintenance), (world.visitSlot slot process).2⟩ world
      (world.visitSlot slot process).1 := by
  refine Performed.at_slot (kept.visitSlot isFree process) ?_ (own_free isFree) ?_
  · exact knows_at (by simp [World.visitSlot, World.setWorking])
      (by simp [World.visitSlot, World.setOpening, World.setWorking])
  · intro place different
    simp [World.visitSlot, World.setSlot, World.setOpening, World.setWorking, different]

end

/-- Every slot keeps what it has. -/
theorem Performed.quiet (kept : Kept before) (knows : Knows process before known)
    (busy : ∀ slot, (after.slots slot).busy = (before.slots slot).busy)
    (processHandle : ∀ slot, (after.slots slot).processHandle = (before.slots slot).processHandle)
    (opening : after.opening = before.opening) (working : after.working = before.working)
    (leases : after.leases = before.leases) (children : after.children = before.children)
    (granting : after.granting = before.granting) (releases : after.releases = before.releases) :
    Performed process known before after := by
  refine Performed.spares (kept.untouched (fun slot => ?_) granting releases) knows fun slot _ => ?_
  · refine ⟨busy slot, processHandle slot, by rw [opening], by rw [working], fun ref isActive => ?_,
      fun child entry isChild isHere isLive => ⟨entry, children ▸ isChild, isHere, isLive⟩⟩
    obtain ⟨lease, isLease, isThere, active⟩ := isActive
    exact ⟨lease, leases ▸ isLease, isThere, active⟩
  · rw [opening, working]
    exact ⟨rfl, rfl⟩

/-- Every allowed call that does not overlap with others. -/
theorem perform_performed (kept : Kept world) (knows : Knows process world known)
    (isAllowed : Allowed known request) (apart : Apart options process world request choice) :
    Performed process (learn known request (perform options process world request choice).2) world
      (perform options process world request choice).1 := by
  have same : Performed process known world world :=
    Performed.spares kept knows fun _ _ => ⟨rfl, rfl⟩
  cases request with
  | acquire arguments =>
      cases isAllowed
      exact acquire_performed kept apart
  | takeGrant =>
      cases isAllowed
      exact takeGrant_performed kept
  | openProcess slot =>
      obtain ⟨work, rfl⟩ := isAllowed
      exact openProcess_performed kept knows
  | startProcess | initializeProcess =>
      obtain ⟨work, rfl⟩ := isAllowed
      obtain ⟨succeeds, fails⟩ := awaitChild_performed kept knows apart
      cases isDone : choice.succeeds with
      | true => simpa [perform, World.awaitChild, learn, isDone] using succeeds isDone
      | false =>
          simpa [perform, World.awaitChild, learn, isDone, Knowledge.moving, Knowledge.holding] using
            fails isDone
  | installProcess slot child =>
      obtain ⟨work, rfl⟩ := isAllowed
      obtain ⟨isHeld, isOpening⟩ := knows slot work rfl
      change Performed process ⟨some (slot, work), none⟩ world (world.installProcess slot child)
      refine Performed.at_slot (kept.installProcess isHeld isOpening) ?_ (own_held isHeld) ?_
      · exact knows_at isHeld (by simp [World.installProcess, World.setOpening])
      · intro place different
        exact ⟨rfl, by simp [World.installProcess, World.setOpening, World.setSlot, different]⟩
  | finishGrant slot conversationKey =>
      cases isAllowed
      exact finishGrant_performed kept knows apart
  | failGrant slot =>
      cases isAllowed
      exact (dropGrant_performed kept knows).drain apart
  | release lease success => exact release_performed kept knows apart
  | drainWaiters => exact same.drain apart
  | beginStart =>
      by_cases isStarted : world.started = true
      · simpa [perform, learn, isStarted] using same
      · have admits : Performed process known world { world with draining := false } :=
          Performed.quiet kept knows (fun _ => rfl) (fun _ => rfl) rfl rfl rfl rfl rfl rfl
        simpa [perform, learn, isStarted] using admits
  | beginWork slot =>
      cases isAllowed
      change Performed process ⟨some (slot, .warming), none⟩ world
        (world.setWorking slot (some (.task process, .warming)))
      refine Performed.at_slot (kept.beginWork apart process) ?_ (own_free apart) ?_
      · exact knows_at (by simp [World.setWorking]) (kept.not_opening apart)
      · intro place different
        exact ⟨by simp [World.setWorking, different], rfl⟩
  | endWork slot =>
      obtain ⟨work, -, rfl⟩ := isAllowed
      obtain ⟨isHeld, notOpening⟩ := knows slot work rfl
      change Performed process .nothing world (world.setWorking slot none)
      refine Performed.at_slot (kept.endWork isHeld notOpening) (knows_nothing _ _)
        (own_held isHeld) ?_
      intro place different
      exact ⟨by simp [World.setWorking, different], rfl⟩
  | markStarted | beginStop | clearSticky =>
      exact Performed.quiet kept knows (fun _ => rfl) (fun _ => rfl) rfl rfl rfl rfl rfl rfl
  | assertStarted => exact same
  | visitSlot slot =>
      cases isAllowed
      exact visitSlot_performed kept apart
  | closeProcess slot child =>
      cases isAllowed
      obtain ⟨isHeld, isOpening⟩ := knows slot .maintenance rfl
      change Performed process ⟨some (slot, .maintenance), none⟩ world
        ((world.endChild child).setOpening slot none)
      refine Performed.at_slot (kept.closeChild isHeld isOpening) ?_ (own_held isHeld) ?_
      · exact knows_at isHeld (by simp [World.setOpening])
      · intro place different
        exact ⟨rfl, by simp [World.setOpening, World.endChild, different]⟩
  | noteCrash slot =>
      refine Performed.quiet kept knows (fun other => ?_) (fun other => ?_) rfl rfl rfl rfl rfl rfl
      · by_cases isHere : other = slot
        · simp [perform, World.noteCrash, World.setSlot, isHere]
        · simp [perform, World.noteCrash, World.setSlot, isHere]
      · by_cases isHere : other = slot
        · simp [perform, World.noteCrash, World.setSlot, isHere]
        · simp [perform, World.noteCrash, World.setSlot, isHere]
  | isCircuitOpen slot => exact same
  | rememberSticky | timeoutWaiter | passTime =>
      exact Performed.quiet kept knows (fun _ => rfl) (fun _ => rfl) rfl rfl rfl rfl rfl rfl
  | childExit child =>
      exact Performed.spares (kept.endChild child) knows fun _ _ => ⟨rfl, rfl⟩

/-! ## Every run -/

/-- Each slot has one lease and one child at most, and no release freed a slot
that another caller had. -/
structure Exclusive (world : World) : Prop where
  leases : ∀ slot first second, ActiveAt world slot first → ActiveAt world slot second →
    first = second
  children : ∀ (first second : Nat) (entry other : Child), world.children[first]? = some entry →
    world.children[second]? = some other → entry.slot = other.slot → entry.live = true →
    other.live = true → first = second
  releases : ∀ entry ∈ world.releases, entry.freed = true → entry.heldByOther = false

theorem Kept.exclusive (kept : Kept world) : Exclusive world where
  leases slot := (kept.slots slot).unique
  children first second entry other isFirst isSecond sameSlot isLive otherLive := by
    have here := kept.slots entry.slot
    have ofFirst := here.living first entry isFirst rfl isLive
    have ofSecond := here.living second other isSecond sameSlot.symm otherLive
    -- A slot that has a child starts and closes none.
    cases hasHandle : (world.slots entry.slot).processHandle with
    | none =>
        rw [hasHandle] at ofFirst ofSecond
        have isOpening := ofFirst.resolve_left nofun
        rw [ofSecond.resolve_left nofun] at isOpening
        exact (Option.some.inj isOpening).symm
    | some child =>
        have notOpening := here.exclusive (by simp [hasHandle])
        rw [hasHandle, notOpening] at ofFirst ofSecond
        have isFirstChild := ofFirst.resolve_right nofun
        rw [ofSecond.resolve_right nofun] at isFirstChild
        exact (Option.some.inj isFirstChild).symm
  releases := kept.releases

theorem emptyWorld_kept : Kept emptyWorld where
  slots slot :=
    { idle := fun _ ref isActive => by
        obtain ⟨lease, isLease, -⟩ := isActive
        cases isLease
      granted := fun _ isWorked => by cases isWorked
      maintained := fun _ isWorked => by cases isWorked
      unique := fun first second isFirst _ => by
        obtain ⟨lease, isLease, -⟩ := isFirst
        cases isLease
      living := fun child entry isChild => by cases isChild
      exclusive := fun hasHandle => absurd rfl hasHandle
      opened := fun isOpening => absurd rfl isOpening }
  queued grant member := by cases member
  distinct := List.nodup_nil
  releases entry member := by cases member

/-- The pool keeps its invariant, and the operations hold what they work with. -/
abbrev PoolSound (state : PoolState) : Prop :=
  Interleaving.Sound Allowed (fun _ _ => True) learn Kept Knows state

theorem poolSound_step (apart : WithoutOverlap options state event) (sound : PoolSound state) :
    PoolSound ((operations options).step state event) := by
  refine Interleaving.Sound.step .nothing ?_ ?_ ?_ ?_ ?_ ?_ apart sound
  · exact fun command => Program.Meets.imp (fun _ _ _ => trivial) (code_moves command)
  · exact fun _ _ kept => kept
  · exact fun process world _ => knows_nothing process world
  · exact fun _ _ _ _ _ knows => knows
  · intro state process request next choice known apart running kept knows isAllowed
    have performed := perform_performed kept knows isAllowed
      (apart process choice request next rfl running)
    exact ⟨performed.kept, trivial, performed.knows⟩
  · intro state process other request next choice known otherKnown apart running different kept
      knows isAllowed otherKnows
    have performed := perform_performed kept knows isAllowed
      (apart process choice request next rfl running)
    exact performed.others other otherKnown different otherKnows

/-- In every run without overlap the slots are exclusive at every moment. -/
theorem pool_exclusive (options : Options) (events : List PoolEvent)
    (apart : (poolMachine options).Along (WithoutOverlap options) (poolMachine options).initial
      events) : Exclusive ((poolMachine options).run events).world := by
  have start : PoolSound (poolMachine options).initial := ⟨emptyWorld_kept, nofun⟩
  have sound := @Machine.Along.invariant _ _ _ _ PoolSound
    (fun _ _ apart sound => poolSound_step apart sound) _ start _ apart
  exact sound.world.exclusive

/-! ## Runs that overlap -/

/-- A pool of one slot. -/
def sampleOptions : Options where
  size := 1
  crashThreshold := 3
  backoffBaseMs := 1000
  backoffMaxMs := 60000

/-- Children start and stay alive. -/
def sampleChoice : Choice where
  succeeds := true
  alive := true
  jitter := 0

/-- An operation begins, and makes some calls. -/
def begins (process : Nat) (command : Command) (calls : Nat) : List PoolEvent :=
  .start process command :: List.replicate calls (.resume process sampleChoice)

/-- An operation that began earlier makes some calls more. -/
def resumes (process : Nat) (calls : Nat) : List PoolEvent :=
  List.replicate calls (.resume process sampleChoice)

/-- The pool starts, and a caller gets and returns the slot. -/
def acquiredAndReleased : List PoolEvent :=
  begins 0 .start 9 ++ begins 1 (.acquire {}) 4 ++ begins 2 (.release 0 true) 2

/-- The first caller returns the slot again when a second one has it; a third
one gets it. -/
def releasedTwice : List PoolEvent :=
  acquiredAndReleased ++ begins 1 (.acquire {}) 4 ++ begins 2 (.release 0 true) 2 ++
    begins 1 (.acquire {}) 4

/-- A caller gets the slot while its old child is being closed. -/
def acquiredDuringRestart : List PoolEvent :=
  begins 0 .start 9 ++ begins 1 (.restartSlot none false) 2 ++ begins 2 (.acquire {}) 2 ++
    resumes 1 3

/-- A test for `Apart` when nobody waits. -/
def isApart (options : Options) (process : Nat) (world : World) : Call → Choice → Bool
  | .acquire arguments, _ =>
      match (world.acquire options arguments process).2 with
      | .ok (.reserved slot) => (world.working slot).isNone
      | .ok (.waiting _) => false
      | .error _ => true
  | .finishGrant _ _, _ => world.waiters.isEmpty
  | .failGrant _, _ => world.waiters.isEmpty
  | .drainWaiters, _ => world.waiters.isEmpty
  | .release ref _, _ => world.waiters.isEmpty && (world.leases[ref]?).all fun lease =>
      (world.slots lease.slot).generation ≠ lease.generation ||
        !(world.slots lease.slot).busy || lease.active
  | .beginWork slot, _ => (world.working slot).isNone
  | .visitSlot slot, _ => (world.working slot).isNone
  | .startProcess _ _, choice => choice.succeeds || !choice.alive
  | .initializeProcess _ _, choice => choice.succeeds || !choice.alive
  | _, _ => true

def isWithoutOverlap (options : Options) (state : PoolState) : PoolEvent → Bool
  | .resume process choice =>
      match state.running process with
      | some (.call request _) => isApart options process state.world request choice
      | _ => true
  | _ => true

theorem drainWaiters_reservesIdle (nobodyWaits : world.waiters = []) :
    ReservesIdle world (world.drainWaiters options) := by
  intro slot isIdle isBusy
  unfold World.drainWaiters at isBusy
  rw [nobodyWaits] at isBusy
  change (world.slots slot).busy = true at isBusy
  rw [isIdle] at isBusy
  cases isBusy

theorem settleRelease_waiters (ref : Nat) (lease : Lease) (success : Bool) :
    (world.settleRelease ref lease success).waiters = world.waiters := by
  rcases settleRelease_cases world ref lease success with same | ⟨-, freed, sticky, -, -, same⟩
  · rw [same]
  · rw [same]

theorem apart_of_test (passes : isApart options process world request choice = true) :
    Apart options process world request choice := by
  cases request with
  | acquire arguments =>
      intro slot isIdle isBusy
      rcases acquire_cases options world arguments process with ⟨problem, same⟩ | ⟨problem, same⟩ |
        ⟨index, -, same⟩ | ⟨waiters, nextWaiter, waiter, same⟩
      · rw [same] at isBusy
        exact absurd (isIdle.symm.trans isBusy) nofun
      · rw [same, (untouched_refreshCircuits slot).busy, isIdle] at isBusy
        cases isBusy
      · rw [same] at isBusy
        simp only [isApart, same, Option.isNone_iff_eq_none] at passes
        rcases (reserve_busy _ slot).mp isBusy with rfl | wasBusy
        · exact passes
        · rw [(untouched_refreshCircuits slot).busy, isIdle] at wasBusy
          cases wasBusy
      · simp [isApart, same] at passes
  | finishGrant slot conversationKey =>
      exact fun _ => drainWaiters_reservesIdle (List.isEmpty_iff.mp passes)
  | failGrant | drainWaiters => exact drainWaiters_reservesIdle (List.isEmpty_iff.mp passes)
  | release ref success =>
      intro lease isLease
      simp only [isApart, isLease, Bool.and_eq_true, List.isEmpty_iff, Option.all_some,
        Bool.or_eq_true, decide_eq_true_eq, Bool.not_eq_true'] at passes
      refine ⟨fun isCurrent isBusy => ?_, drainWaiters_reservesIdle ?_⟩
      · simpa [isCurrent, isBusy] using passes.2
      · rw [settleRelease_waiters]
        exact passes.1
  | beginWork | visitSlot => exact Option.isNone_iff_eq_none.mp passes
  | startProcess | initializeProcess =>
      intro fails
      simpa [isApart, fails] using passes
  | _ => trivial

theorem withoutOverlap_of_test (passes : isWithoutOverlap options state event = true) :
    WithoutOverlap options state event := by
  rintro process choice request next rfl running
  simp only [isWithoutOverlap, running] at passes
  exact apart_of_test passes

theorem pool_exclusive_released :
    ((poolMachine sampleOptions).run acquiredAndReleased).world.releases = [⟨true, false⟩] ∧
      Exclusive ((poolMachine sampleOptions).run acquiredAndReleased).world := by
  have evaluated : (poolMachine sampleOptions).Along
      (fun state event => isWithoutOverlap sampleOptions state event = true)
        (poolMachine sampleOptions).initial acquiredAndReleased ∧
      ((poolMachine sampleOptions).run acquiredAndReleased).world.releases = [⟨true, false⟩] := by
    decide +kernel
  exact ⟨evaluated.2, pool_exclusive sampleOptions acquiredAndReleased
    (evaluated.1.mono fun _ _ passes => withoutOverlap_of_test passes)⟩

/-- A second release of a lease frees the slot of its next holder, which is then
granted to a third caller; and a slot whose old child is still being closed gets
two new ones, one from the restart and one from a caller. -/
theorem slots_shared :
    ¬ (∀ events slot first second,
        ActiveAt ((poolMachine sampleOptions).run events).world slot first →
        ActiveAt ((poolMachine sampleOptions).run events).world slot second → first = second) ∧
      ¬ (∀ events (first second : Nat) (entry other : Child),
        ((poolMachine sampleOptions).run events).world.children[first]? = some entry →
        ((poolMachine sampleOptions).run events).world.children[second]? = some other →
        entry.slot = other.slot → entry.live = true → other.live = true → first = second) ∧
      ¬ ∀ events, ∀ entry ∈ ((poolMachine sampleOptions).run events).world.releases,
        entry.freed = true → entry.heldByOther = false := by
  have evaluated : ((poolMachine sampleOptions).run releasedTwice).world.leases.map
        (fun lease => (lease.slot, lease.active)) = [(0, false), (0, true), (0, true)] ∧
      ((poolMachine sampleOptions).run releasedTwice).world.releases =
        [⟨true, false⟩, ⟨true, true⟩] ∧
      ((poolMachine sampleOptions).run acquiredDuringRestart).world.children =
        [⟨0, false⟩, ⟨0, true⟩, ⟨0, true⟩] := by
    decide +kernel
  obtain ⟨leases, releases, children⟩ := evaluated
  refine ⟨fun unique => ?_, fun unique => ?_, fun kept => ?_⟩
  · have isActive : ∀ ref, (((poolMachine sampleOptions).run releasedTwice).world.leases.map
        (fun lease => (lease.slot, lease.active)))[ref]? = some (0, true) →
        ActiveAt ((poolMachine sampleOptions).run releasedTwice).world 0 ref := by
      intro ref isPair
      rw [List.getElem?_map] at isPair
      obtain ⟨lease, isLease, pair⟩ := Option.map_eq_some_iff.mp isPair
      exact ⟨lease, isLease, congrArg Prod.fst pair, congrArg Prod.snd pair⟩
    have same := unique releasedTwice 0 1 2 (isActive 1 (by rw [leases]; rfl))
      (isActive 2 (by rw [leases]; rfl))
    omega
  · have same := unique acquiredDuringRestart 1 2 ⟨0, true⟩ ⟨0, true⟩ (by rw [children]; rfl)
      (by rw [children]; rfl) rfl rfl rfl
    omega
  · have free := kept releasedTwice ⟨true, true⟩ (by simp [releases]) rfl
    cases free

end Triangle.WorkerPool
