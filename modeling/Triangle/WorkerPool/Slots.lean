import Mathlib.Data.List.Nodup
import Triangle.WorkerPool.Contract

/-!
# The slots of the pool

What holds of each slot as long as the operations on it do not overlap: at most
one lease of the slot is neither released nor revoked, none while the slot is
not busy or a grant of it is in flight, and a living child of the slot is the one
that it has or the one that is being started or closed.
-/

namespace Triangle.WorkerPool

open Triangle.Semantics

/-- A lease of the slot that is neither released nor revoked. -/
def ActiveAt (world : World) (slot ref : Nat) : Prop :=
  ∃ lease, world.leases[ref]? = some lease ∧ lease.slot = slot ∧ lease.active = true

/-- The slots that became busy had no operation in flight. -/
def ReservesIdle (before after : World) : Prop :=
  ∀ slot, (before.slots slot).busy = false → (after.slots slot).busy = true →
    before.working slot = none

/-- The invariant of one slot. -/
structure SlotKept (world : World) (slot : Nat) : Prop where
  idle : (world.slots slot).busy = false → ∀ ref, ¬ ActiveAt world slot ref
  granted : ∀ worker, world.working slot = some (worker, .grant) →
    (world.slots slot).busy = true ∧ ∀ ref, ¬ ActiveAt world slot ref
  maintained : ∀ worker, world.working slot = some (worker, .maintenance) →
    (world.slots slot).busy = false
  unique : ∀ first second, ActiveAt world slot first → ActiveAt world slot second → first = second
  living : ∀ (child : Nat) (entry : Child), world.children[child]? = some entry →
    entry.slot = slot → entry.live = true →
    (world.slots slot).processHandle = some child ∨ world.opening slot = some child
  exclusive : (world.slots slot).processHandle ≠ none → world.opening slot = none
  opened : world.opening slot ≠ none → world.working slot ≠ none

/-- The invariant of the pool. -/
structure Kept (world : World) : Prop where
  slots : ∀ slot, SlotKept world slot
  queued : ∀ grant ∈ world.granting, world.working grant.slot = some (.queued, .grant) ∧
    world.opening grant.slot = none
  distinct : (world.granting.map Grant.slot).Nodup
  releases : ∀ entry ∈ world.releases, entry.freed = true → entry.heldByOther = false

/-- What an operation holds it does hold. -/
def Knows (process : Nat) (world : World) (known : Knowledge) : Prop :=
  ∀ slot work, known.work = some (slot, work) →
    world.working slot = some (.task process, work) ∧ world.opening slot = known.opening

/-- A change leaves a slot as it is, but for leases that end and children that exit. -/
structure Untouched (before after : World) (slot : Nat) : Prop where
  busy : (after.slots slot).busy = (before.slots slot).busy
  processHandle : (after.slots slot).processHandle = (before.slots slot).processHandle
  opening : after.opening slot = before.opening slot
  working : after.working slot = before.working slot
  leases : ∀ ref, ActiveAt after slot ref → ActiveAt before slot ref
  children : ∀ (child : Nat) (entry : Child), after.children[child]? = some entry →
    entry.slot = slot → entry.live = true →
    ∃ earlier, before.children[child]? = some earlier ∧ earlier.slot = slot ∧ earlier.live = true

variable {options : Options} {world before after : World} {process slot : Nat} {known : Knowledge}

theorem living_same (child : Nat) (entry : Child) (isChild : world.children[child]? = some entry)
    (isThere : entry.slot = slot) (isLive : entry.live = true) :
    ∃ earlier, world.children[child]? = some earlier ∧ earlier.slot = slot ∧ earlier.live = true :=
  ⟨entry, isChild, isThere, isLive⟩

theorem SlotKept.untouched (kept : SlotKept before slot) (same : Untouched before after slot) :
    SlotKept after slot where
  idle isIdle ref isActive := by
    rw [same.busy] at isIdle
    exact kept.idle isIdle ref (same.leases ref isActive)
  granted worker isWorked := by
    rw [same.working] at isWorked
    rw [same.busy]
    obtain ⟨isBusy, isFree⟩ := kept.granted worker isWorked
    exact ⟨isBusy, fun ref isActive => isFree ref (same.leases ref isActive)⟩
  maintained worker isWorked := by
    rw [same.working] at isWorked
    rw [same.busy]
    exact kept.maintained worker isWorked
  unique first second isFirst isSecond :=
    kept.unique first second (same.leases first isFirst) (same.leases second isSecond)
  living child entry isChild isHere isLive := by
    obtain ⟨earlier, wasChild, wasHere, wasLive⟩ := same.children child entry isChild isHere isLive
    rw [same.processHandle, same.opening]
    exact kept.living child earlier wasChild wasHere wasLive
  exclusive hasHandle := by
    rw [same.processHandle] at hasHandle
    rw [same.opening]
    exact kept.exclusive hasHandle
  opened isOpening := by
    rw [same.opening] at isOpening
    rw [same.working]
    exact kept.opened isOpening

/-- A change that leaves every slot and the lists as they are. -/
theorem Kept.untouched (kept : Kept before) (same : ∀ slot, Untouched before after slot)
    (granting : after.granting = before.granting) (releases : after.releases = before.releases) :
    Kept after where
  slots slot := (kept.slots slot).untouched (same slot)
  queued grant member := by
    rw [granting] at member
    rw [(same grant.slot).working, (same grant.slot).opening]
    exact kept.queued grant member
  distinct := by
    rw [granting]
    exact kept.distinct
  releases := by
    rw [releases]
    exact kept.releases

/-- The slot of an operation is not one that waits for its grant. -/
theorem Kept.not_queued (kept : Kept world) (isHeld : ∀ work, world.working slot ≠ some (.queued, work)) :
    ∀ grant ∈ world.granting, grant.slot ≠ slot := by
  rintro grant member rfl
  exact isHeld .grant (kept.queued grant member).1

/-- A change of one slot that is not waiting for its grant. -/
theorem Kept.at_slot (kept : Kept before) (isHeld : ∀ work, before.working slot ≠ some (.queued, work))
    (others : ∀ other, other ≠ slot → Untouched before after other) (here : SlotKept after slot)
    (granting : after.granting = before.granting) (releases : after.releases = before.releases) :
    Kept after where
  slots other := by
    by_cases same : other = slot
    · rw [same]
      exact here
    · exact (kept.slots other).untouched (others other same)
  queued grant member := by
    rw [granting] at member
    have different := kept.not_queued isHeld grant member
    rw [(others grant.slot different).working, (others grant.slot different).opening]
    exact kept.queued grant member
  distinct := by
    rw [granting]
    exact kept.distinct
  releases := by
    rw [releases]
    exact kept.releases

theorem untouched_refreshCircuits (slot : Nat) : Untouched world world.refreshCircuits slot where
  busy := by
    unfold World.refreshCircuits
    dsimp only
    split <;> rfl
  processHandle := by
    unfold World.refreshCircuits
    dsimp only
    split <;> rfl
  opening := rfl
  working := rfl
  leases _ isActive := isActive
  children _ entry isChild isHere isLive := ⟨entry, isChild, isHere, isLive⟩

theorem Kept.refreshCircuits (kept : Kept world) : Kept world.refreshCircuits :=
  kept.untouched untouched_refreshCircuits rfl rfl

/-! ## Reservations -/

variable {stickySlot : Option Nat} {other ref child place : Nat} {work : Work} {leases : List Lease}
  {lease : Lease}

/-- A slot that is picked is not busy. -/
theorem pickSlot_idle (picked : world.pickSlot options stickySlot = some slot) :
    (world.slots slot).busy = false := by
  unfold World.pickSlot at picked
  dsimp only at picked
  cases isSticky : stickySlot.filter fun index =>
      index < options.size && (!(world.slots index).busy && world.isHealthy index) with
  | some index =>
      rw [isSticky] at picked
      cases picked
      have passes := (Option.filter_eq_some_iff.mp isSticky).2
      simp only [Bool.and_eq_true, Bool.not_eq_true'] at passes
      exact passes.2.1
  | none =>
      rw [isSticky] at picked
      cases isFree : (List.range options.size).find? fun index =>
          !(world.slots index).busy && world.isHealthy index with
      | some index =>
          rw [isFree] at picked
          cases picked
          have passes := List.find?_some isFree
          simp only [Bool.and_eq_true, Bool.not_eq_true'] at passes
          exact passes.1
      | none =>
          rw [isFree] at picked
          have passes := List.find?_some picked
          simp only [Bool.and_eq_true, Bool.not_eq_true'] at passes
          exact passes.1.1

/-- A reservation takes a slot that is not busy, after the circuits were refreshed. -/
theorem tryReserveSlot_some {worker : Worker}
    (reserved : world.tryReserveSlot options stickySlot worker = some (slot, after)) :
    (world.slots slot).busy = false ∧ after = world.refreshCircuits.reserve slot worker := by
  obtain ⟨index, picked, isPair⟩ := Option.map_eq_some_iff.mp reserved
  cases isPair
  exact ⟨(untouched_refreshCircuits _).busy.symm.trans (pickSlot_idle picked), rfl⟩

variable (worker : Worker)

theorem reserve_others (different : other ≠ slot) :
    Untouched world (world.reserve slot worker) other where
  busy := by simp [World.reserve, World.setSlot, World.setWorking, different]
  processHandle := by simp [World.reserve, World.setSlot, World.setWorking, different]
  opening := rfl
  working := by simp [World.reserve, World.setSlot, World.setWorking, different]
  leases _ isActive := isActive
  children _ entry isChild isHere isLive := ⟨entry, isChild, isHere, isLive⟩

theorem reserve_busy (other : Nat) :
    ((world.reserve slot worker).slots other).busy = true ↔
      other = slot ∨ (world.slots other).busy = true := by
  by_cases same : other = slot
  · simp [World.reserve, World.setSlot, World.setWorking, same]
  · simp [World.reserve, World.setSlot, World.setWorking, same]

theorem SlotKept.reserve (kept : SlotKept world slot) (isIdle : (world.slots slot).busy = false)
    (worker : Worker) : SlotKept (world.reserve slot worker) slot where
  idle isBusy := by simp [World.reserve, World.setSlot, World.setWorking] at isBusy
  granted _ _ := ⟨by simp [World.reserve, World.setSlot, World.setWorking],
    fun ref isActive => kept.idle isIdle ref isActive⟩
  maintained other isWorked := by
    simp [World.reserve, World.setSlot, World.setWorking] at isWorked
  unique first second isFirst _ := absurd isFirst (kept.idle isIdle first)
  living child entry isChild isHere isLive := by
    have before := kept.living child entry isChild isHere isLive
    simpa [World.reserve, World.setSlot, World.setWorking] using before
  exclusive hasHandle := by
    apply kept.exclusive
    simpa [World.reserve, World.setSlot, World.setWorking] using hasHandle
  opened _ := by simp [World.reserve, World.setSlot, World.setWorking]

theorem free_not_queued (isFree : world.working slot = none) :
    ∀ other, world.working slot ≠ some (.queued, other) := by
  intro other isQueued
  rw [isFree] at isQueued
  cases isQueued

/-- A slot without operation in flight that is not busy is reserved by a task. -/
theorem Kept.reserve (kept : Kept world) (isFree : world.working slot = none)
    (isIdle : (world.slots slot).busy = false) (process : Nat) :
    Kept (world.reserve slot (.task process)) :=
  kept.at_slot (free_not_queued isFree) (fun _ different => reserve_others _ different)
    ((kept.slots slot).reserve isIdle _) rfl rfl

/-- A slot is reserved for a waiter. -/
theorem Kept.reserveQueued (kept : Kept world) (isFree : world.working slot = none)
    (isIdle : (world.slots slot).busy = false) (conversationKey : Option String) :
    Kept { world.reserve slot .queued with
      granting := world.granting ++ [⟨slot, conversationKey⟩] } where
  slots other := by
    have same : SlotKept (world.reserve slot .queued) other := by
      by_cases same : other = slot
      · rw [same]
        exact (kept.slots slot).reserve isIdle _
      · exact (kept.slots other).untouched (reserve_others _ same)
    exact same.untouched ⟨rfl, rfl, rfl, rfl, fun _ isActive => isActive,
      fun _ entry isChild isHere isLive => ⟨entry, isChild, isHere, isLive⟩⟩
  queued grant member := by
    change (world.reserve slot .queued).working grant.slot = _ ∧ world.opening grant.slot = none
    rcases List.mem_append.mp member with old | new
    · have different : grant.slot ≠ slot := by
        intro same
        have isQueued := (kept.queued grant old).1
        rw [same, isFree] at isQueued
        cases isQueued
      rw [(reserve_others _ different).working]
      exact kept.queued grant old
    · rw [List.mem_singleton.mp new]
      refine ⟨by simp [World.reserve, World.setWorking], ?_⟩
      by_contra isOpening
      exact (kept.slots slot).opened isOpening isFree
  distinct := by
    rw [List.map_append, List.map_singleton]
    refine List.Nodup.append kept.distinct (List.nodup_singleton _) ?_
    rw [List.disjoint_singleton]
    intro member
    obtain ⟨grant, isGrant, same⟩ := List.mem_map.mp member
    have isQueued := (kept.queued grant isGrant).1
    rw [same, isFree] at isQueued
    cases isQueued
  releases := kept.releases

/-- What becomes of the first waiter. -/
theorem drainLoop_cons (world : World) (next : Waiter) (rest : List Waiter) :
    world.drainLoop options (next :: rest) = world.drainLoop options rest ∨
      world.drainLoop options (next :: rest) = world.refreshCircuits.drainLoop options rest ∨
      world.drainLoop options (next :: rest) =
        { world.refreshCircuits with waiters := next :: rest } ∨
      ∃ index, (world.slots index).busy = false ∧ world.drainLoop options (next :: rest) =
        World.drainLoop options { world.refreshCircuits.reserve index .queued with
          granting := world.granting ++ [⟨index, next.conversationKey⟩] } rest := by
  simp only [World.drainLoop.eq_2]
  by_cases isOver : next.deadline ≤ world.now
  · simp [isOver]
  · simp only [isOver, if_false]
    cases isReserved : world.tryReserveSlot options
        (next.stickySlot.orElse fun _ => next.conversationKey.bind world.sticky) .queued with
    | none =>
        by_cases allOpen : world.refreshCircuits.allCircuitsOpen options = true
        · simp [allOpen]
        · simp [allOpen]
    | some found =>
        obtain ⟨index, reserved⟩ := found
        obtain ⟨isIdle, rfl⟩ := tryReserveSlot_some isReserved
        exact .inr (.inr (.inr ⟨index, isIdle, rfl⟩))

variable (waiters : List Waiter)

/-- Reserving for waiters makes no slot idle. -/
theorem drainLoop_busy (slot : Nat) (isBusy : (world.slots slot).busy = true) :
    ((world.drainLoop options waiters).slots slot).busy = true := by
  induction waiters generalizing world with
  | nil => exact isBusy
  | cons next rest ih =>
      have refreshed : (world.refreshCircuits.slots slot).busy = true := by
        rw [(untouched_refreshCircuits slot).busy]
        exact isBusy
      rcases @drainLoop_cons options world next rest with same | same | same | ⟨index, -, same⟩
      · rw [same]
        exact ih isBusy
      · rw [same]
        exact ih refreshed
      · rw [same]
        exact refreshed
      · rw [same]
        apply ih
        exact (reserve_busy .queued slot).mpr (.inr refreshed)

/-- Only the list of waiters is different. -/
theorem Kept.withWaiters (kept : Kept world) (waiters : List Waiter) :
    Kept { world with waiters } :=
  kept.untouched (fun _ => ⟨rfl, rfl, rfl, rfl, fun _ isActive => isActive,
    fun _ entry isChild isHere isLive => ⟨entry, isChild, isHere, isLive⟩⟩) rfl rfl

/-- What an operation in flight has is left to it. -/
def Spares (before after : World) : Prop :=
  ∀ slot, before.working slot ≠ none →
    after.working slot = before.working slot ∧ after.opening slot = before.opening slot

/-- Draining keeps the invariant and takes no slot from an operation in flight,
if the slots it reserves had none. -/
theorem drainLoop_kept (kept : Kept world)
    (reserves : ReservesIdle world (world.drainLoop options waiters)) :
    Kept (world.drainLoop options waiters) ∧ Spares world (world.drainLoop options waiters) := by
  induction waiters generalizing world with
  | nil => exact ⟨kept.withWaiters [], fun _ _ => ⟨rfl, rfl⟩⟩
  | cons next rest ih =>
      rcases @drainLoop_cons options world next rest with same | same | same | ⟨index, isIdle, same⟩
      · rw [same] at reserves ⊢
        exact ih kept reserves
      · rw [same] at reserves ⊢
        refine ih kept.refreshCircuits fun slot notBusy isBusy => ?_
        rw [(untouched_refreshCircuits slot).busy] at notBusy
        exact reserves slot notBusy isBusy
      · rw [same]
        exact ⟨kept.refreshCircuits.withWaiters _, fun _ _ => ⟨rfl, rfl⟩⟩
      · rw [same] at reserves ⊢
        -- The slot stays busy to the end, so the condition speaks of it.
        have isFree : world.working index = none := by
          refine reserves index isIdle (drainLoop_busy rest index ?_)
          exact (reserve_busy .queued index).mpr (.inl rfl)
        have refreshedIdle : (world.refreshCircuits.slots index).busy = false := by
          rw [(untouched_refreshCircuits index).busy]
          exact isIdle
        have unreserved : ∀ slot, world.working slot ≠ none →
            (world.refreshCircuits.reserve index .queued).working slot = world.working slot := by
          intro slot isWorked
          apply (reserve_others .queued _).working
          rintro rfl
          exact isWorked isFree
        obtain ⟨keptAfter, spares⟩ := ih
          (kept.refreshCircuits.reserveQueued isFree refreshedIdle next.conversationKey) (by
            intro slot notBusy isBusy
            change (world.refreshCircuits.reserve index .queued).working slot = none
            have different : slot ≠ index := by
              rintro rfl
              rw [(reserve_busy .queued slot).mpr (.inl rfl)] at notBusy
              cases notBusy
            rw [(reserve_others .queued different).working]
            refine reserves slot ?_ isBusy
            rw [← (untouched_refreshCircuits slot).busy]
            exact (reserve_others .queued different).busy.symm.trans notBusy)
        refine ⟨keptAfter, fun slot isWorked => ?_⟩
        have isSame := unreserved slot isWorked
        obtain ⟨working, opening⟩ := spares slot (by
          change (world.refreshCircuits.reserve index .queued).working slot ≠ none
          rw [isSame]
          exact isWorked)
        exact ⟨working.trans isSame, opening⟩

/-! ## Work on one slot -/

/-- A slot that an operation other than a queued grant holds. -/
theorem held_not_queued (isHeld : world.working slot = some (.task process, work)) :
    ∀ other, world.working slot ≠ some (.queued, other) := by
  intro other isQueued
  rw [isHeld] at isQueued
  cases isQueued

theorem dropGrant_others (different : other ≠ slot) :
    Untouched world (world.dropGrant slot) other where
  busy := by simp [World.dropGrant, World.setSlot, World.setWorking, different]
  processHandle := by simp [World.dropGrant, World.setSlot, World.setWorking, different]
  opening := rfl
  working := by simp [World.dropGrant, World.setSlot, World.setWorking, different]
  leases _ isActive := isActive
  children _ entry isChild isHere isLive := ⟨entry, isChild, isHere, isLive⟩

theorem Kept.dropGrant (kept : Kept world)
    (isHeld : world.working slot = some (.task process, .grant))
    (notOpening : world.opening slot = none) : Kept (world.dropGrant slot) := by
  have here := kept.slots slot
  have isFree := (here.granted _ isHeld).2
  refine kept.at_slot (held_not_queued isHeld) (fun _ different => dropGrant_others different) ?_
    rfl rfl
  exact
    { idle := fun _ => isFree
      granted := fun worker isWorked => by
        simp [World.dropGrant, World.setWorking] at isWorked
      maintained := fun worker isWorked => by
        simp [World.dropGrant, World.setWorking] at isWorked
      unique := here.unique
      living := fun child entry isChild isHere isLive => by
        simpa [World.dropGrant, World.setSlot, World.setWorking] using
          here.living child entry isChild isHere isLive
      exclusive := fun _ => notOpening
      opened := fun isOpening => absurd notOpening isOpening }

/-- A lease more: it is the only active one of its slot. -/
theorem activeAt_append
    (isActive : ∃ entry, (leases ++ [lease])[ref]? = some entry ∧ entry.slot = other ∧
      entry.active = true) :
    (∃ entry, leases[ref]? = some entry ∧ entry.slot = other ∧ entry.active = true) ∨
      ref = leases.length ∧ other = lease.slot := by
  obtain ⟨entry, isEntry, isHere, active⟩ := isActive
  rcases Nat.lt_trichotomy ref leases.length with below | same | above
  · rw [List.getElem?_append_left below] at isEntry
    exact .inl ⟨entry, isEntry, isHere, active⟩
  · subst same
    rw [List.getElem?_concat_length] at isEntry
    cases isEntry
    exact .inr ⟨rfl, isHere.symm⟩
  · rw [List.getElem?_eq_none (by simp; omega)] at isEntry
    cases isEntry

theorem Kept.grantLease (kept : Kept world)
    (isHeld : world.working slot = some (.task process, .grant))
    (notOpening : world.opening slot = none) (lease : Lease) (isHere : lease.slot = slot) :
    Kept (({ world with leases := world.leases ++ [lease] } : World).setWorking slot none) := by
  have here := kept.slots slot
  obtain ⟨isBusy, isFree⟩ := here.granted _ isHeld
  refine kept.at_slot (held_not_queued isHeld) (fun other different => ?_) ?_ rfl rfl
  · refine ⟨rfl, rfl, rfl, by simp [World.setWorking, different], fun ref isActive => ?_,
      living_same⟩
    rcases activeAt_append isActive with old | ⟨-, isNew⟩
    · exact old
    · exact absurd (isNew.trans isHere) different
  · -- Before the grant the slot had no active lease.
    have isNew : ∀ ref, ActiveAt (({ world with leases := world.leases ++ [lease] } :
        World).setWorking slot none) slot ref → ref = world.leases.length := by
      intro ref isActive
      rcases activeAt_append isActive with old | ⟨isRef, -⟩
      · exact absurd old (isFree ref)
      · exact isRef
    exact
      { idle := fun isIdle => by
          change (world.slots slot).busy = false at isIdle
          rw [isBusy] at isIdle
          cases isIdle
        granted := fun worker isWorked => by simp [World.setWorking] at isWorked
        maintained := fun worker isWorked => by simp [World.setWorking] at isWorked
        unique := fun first second isFirst isSecond => by
          rw [isNew first isFirst, isNew second isSecond]
        living := here.living
        exclusive := here.exclusive
        opened := fun isOpening => absurd notOpening isOpening }

theorem Kept.endWork (kept : Kept world) (isHeld : world.working slot = some (.task process, work))
    (notOpening : world.opening slot = none) : Kept (world.setWorking slot none) := by
  have here := kept.slots slot
  refine kept.at_slot (held_not_queued isHeld) (fun other different => ?_) ?_ rfl rfl
  · exact ⟨rfl, rfl, rfl, by simp [World.setWorking, different], fun _ isActive => isActive,
      living_same⟩
  · exact
      { idle := here.idle
        granted := fun worker isWorked => by simp [World.setWorking] at isWorked
        maintained := fun worker isWorked => by simp [World.setWorking] at isWorked
        unique := here.unique
        living := here.living
        exclusive := here.exclusive
        opened := fun isOpening => absurd notOpening isOpening }

theorem Kept.beginWork (kept : Kept world) (isFree : world.working slot = none) (process : Nat) :
    Kept (world.setWorking slot (some (.task process, .warming))) := by
  have here := kept.slots slot
  refine kept.at_slot (free_not_queued isFree) (fun other different => ?_) ?_ rfl rfl
  · exact ⟨rfl, rfl, rfl, by simp [World.setWorking, different], fun _ isActive => isActive,
      living_same⟩
  · exact
      { idle := here.idle
        granted := fun worker isWorked => by simp [World.setWorking] at isWorked
        maintained := fun worker isWorked => by simp [World.setWorking] at isWorked
        unique := here.unique
        living := here.living
        exclusive := here.exclusive
        opened := fun _ => by simp [World.setWorking] }

/-! ## Children -/

/-- Children that exit are all that is lost. -/
theorem endChild_living {children : List Child} {entry : Child}
    (isEntry : (children.modify child fun entry => { entry with live := false })[place]? = some entry)
    (isLive : entry.live = true) : place ≠ child ∧ children[place]? = some entry := by
  rw [List.getElem?_modify] at isEntry
  obtain ⟨old, isOld, isNew⟩ := Option.map_eq_some_iff.mp isEntry
  by_cases same : child = place
  · rw [if_pos same] at isNew
    rw [← isNew] at isLive
    cases isLive
  · rw [if_neg same] at isNew
    refine ⟨Ne.symm same, ?_⟩
    rw [isOld]
    exact congrArg some isNew

theorem untouched_endChild (child : Nat) (slot : Nat) : Untouched world (world.endChild child) slot where
  busy := rfl
  processHandle := rfl
  opening := rfl
  working := rfl
  leases _ isActive := isActive
  children _ entry isChild isHere isLive :=
    ⟨entry, (endChild_living isChild isLive).2, isHere, isLive⟩

theorem Kept.endChild (kept : Kept world) (child : Nat) : Kept (world.endChild child) :=
  kept.untouched (untouched_endChild child) rfl rfl

theorem setOpening_others {child : Option Nat} (different : other ≠ slot) :
    Untouched world (world.setOpening slot child) other where
  busy := rfl
  processHandle := rfl
  opening := by simp [World.setOpening, different]
  working := rfl
  leases _ isActive := isActive
  children _ entry isChild isHere isLive := ⟨entry, isChild, isHere, isLive⟩

section

variable (kept : Kept world) (isHeld : world.working slot = some (.task process, work))
include kept isHeld

/-- The child that an operation starts or closes has ended. -/
theorem Kept.closeChild (isOpening : world.opening slot = some child) :
    Kept ((world.endChild child).setOpening slot none) := by
  have here := kept.slots slot
  have keptEnd := kept.endChild child
  refine keptEnd.at_slot (held_not_queued isHeld) (fun _ different => setOpening_others different)
    ?_ rfl rfl
  exact
    { idle := here.idle
      granted := here.granted
      maintained := here.maintained
      unique := here.unique
      living := fun other entry isChild isHere isLive => by
        obtain ⟨different, isOld⟩ := endChild_living isChild isLive
        rcases here.living other entry isOld isHere isLive with isHandle | isOpen
        · exact .inl isHandle
        · rw [isOpening] at isOpen
          exact absurd (Option.some.inj isOpen).symm different
      exclusive := fun _ => by simp [World.setOpening]
      opened := fun isOpen => by simp [World.setOpening] at isOpen }

theorem Kept.openProcess (notOpening : world.opening slot = none) :
    Kept (world.openProcess slot).1 := by
  have here := kept.slots slot
  unfold World.openProcess
  cases hasHandle : (world.slots slot).processHandle with
  | some child => exact kept
  | none =>
      dsimp only
      -- A child of another slot is an old one.
      have isOld : ∀ (place : Nat) (entry : Child),
          (world.children ++ [(⟨slot, true⟩ : Child)])[place]? = some entry →
          world.children[place]? = some entry ∨ place = world.children.length ∧ entry.slot = slot := by
        intro place entry isEntry
        rcases Nat.lt_trichotomy place world.children.length with below | same | above
        · rw [List.getElem?_append_left below] at isEntry
          exact .inl isEntry
        · subst same
          rw [List.getElem?_concat_length] at isEntry
          cases isEntry
          exact .inr ⟨rfl, rfl⟩
        · rw [List.getElem?_eq_none (by simp; omega)] at isEntry
          cases isEntry
      refine kept.at_slot (held_not_queued isHeld) (fun other different => ?_) ?_ rfl rfl
      · refine ⟨rfl, rfl, by simp [World.setOpening, different], rfl, fun _ isActive => isActive,
          fun place entry isChild isThere isLive => ?_⟩
        rcases isOld place entry isChild with old | ⟨-, isHere⟩
        · exact ⟨entry, old, isThere, isLive⟩
        · exact absurd (isThere.symm.trans isHere) different
      · exact
          { idle := here.idle
            granted := here.granted
            maintained := here.maintained
            unique := here.unique
            living := fun place entry isChild isHere isLive => by
              rcases isOld place entry isChild with old | ⟨isNew, -⟩
              · rcases here.living place entry old isHere isLive with isHandle | isOpen
                · rw [hasHandle] at isHandle
                  cases isHandle
                · rw [notOpening] at isOpen
                  cases isOpen
              · right
                simp [World.setOpening, isNew]
            exclusive := fun hasOne => absurd hasHandle hasOne
            opened := fun _ => by
              change world.working slot ≠ none
              rw [isHeld]
              rintro ⟨⟩ }

theorem Kept.installProcess (isOpening : world.opening slot = some child) :
    Kept (world.installProcess slot child) := by
  have here := kept.slots slot
  have noHandle : (world.slots slot).processHandle = none := by
    by_contra hasHandle
    rw [here.exclusive hasHandle] at isOpening
    cases isOpening
  refine kept.at_slot (held_not_queued isHeld) (fun other different => ?_) ?_ rfl rfl
  · exact ⟨by simp [World.installProcess, World.setSlot, World.setOpening, different],
      by simp [World.installProcess, World.setSlot, World.setOpening, different],
      by simp [World.installProcess, World.setSlot, World.setOpening, different], rfl,
      fun _ isActive => isActive, living_same⟩
  · exact
      { idle := fun isIdle ref isActive => by
          refine here.idle ?_ ref isActive
          simpa [World.installProcess, World.setSlot, World.setOpening] using isIdle
        granted := fun worker isWorked => by
          obtain ⟨isBusy, isFree⟩ := here.granted worker isWorked
          refine ⟨?_, isFree⟩
          simpa [World.installProcess, World.setSlot, World.setOpening] using isBusy
        maintained := fun worker isWorked => by
          simpa [World.installProcess, World.setSlot, World.setOpening] using
            here.maintained worker isWorked
        unique := here.unique
        living := fun place entry isChild isHere isLive => by
          rcases here.living place entry isChild isHere isLive with isHandle | isOpen
          · rw [noHandle] at isHandle
            cases isHandle
          · rw [isOpening] at isOpen
            left
            simp [World.installProcess, World.setSlot, World.setOpening, Option.some.inj isOpen]
        exclusive := fun _ => by simp [World.installProcess, World.setOpening]
        opened := fun isOpen => by simp [World.installProcess, World.setOpening] at isOpen }

end

/-- A visit ends the leases of the slot, and takes over its child. -/
theorem Kept.visitSlot (kept : Kept world) (isFree : world.working slot = none) (process : Nat) :
    Kept (world.visitSlot slot process).1 := by
  have here := kept.slots slot
  have notOpening : world.opening slot = none := by
    by_contra isOpening
    exact here.opened isOpening isFree
  -- An active lease was active before, and is not one of the slot.
  have wasActive : ∀ other ref, ActiveAt (world.visitSlot slot process).1 other ref →
      other ≠ slot ∧ ActiveAt world other ref := by
    rintro other ref ⟨lease, isLease, isThere, isActive⟩
    change (world.leases.map _)[ref]? = some lease at isLease
    rw [List.getElem?_map] at isLease
    obtain ⟨old, isOld, isNew⟩ := Option.map_eq_some_iff.mp isLease
    split at isNew
    next => simp [← isNew, Lease.active] at isActive
    next elsewhere =>
      subst isNew
      exact ⟨isThere ▸ elsewhere, old, isOld, isThere, isActive⟩
  refine kept.at_slot (free_not_queued isFree) (fun other different => ?_) ?_ rfl rfl
  · exact ⟨by simp [World.visitSlot, World.setSlot, World.setOpening, World.setWorking, different],
      by simp [World.visitSlot, World.setSlot, World.setOpening, World.setWorking, different],
      by simp [World.visitSlot, World.setSlot, World.setOpening, World.setWorking, different],
      by simp [World.visitSlot, World.setSlot, World.setOpening, World.setWorking, different],
      fun ref isActive => (wasActive other ref isActive).2, living_same⟩
  · exact
      { idle := fun _ ref isActive => (wasActive slot ref isActive).1 rfl
        granted := fun worker isWorked => by
          simp [World.visitSlot, World.setWorking] at isWorked
        maintained := fun _ _ => by
          simp [World.visitSlot, World.setSlot, World.setOpening, World.setWorking]
        unique := fun first _ isFirst _ => absurd rfl (wasActive slot first isFirst).1
        living := fun child entry isChild isHere isLive => by
          right
          rcases here.living child entry isChild isHere isLive with isHandle | isOpen
          · simp [World.visitSlot, World.setOpening, World.setWorking, isHandle]
          · rw [notOpening] at isOpen
            cases isOpen
        exclusive := fun hasHandle => by
          simp [World.visitSlot, World.setSlot, World.setOpening, World.setWorking] at hasHandle
        opened := fun _ => by simp [World.visitSlot, World.setWorking] }

/-- The continuation of a grant takes its slot over. -/
theorem Kept.takeGrant (kept : Kept world) {grant : Grant} {rest : List Grant}
    (isFirst : world.granting = grant :: rest) (process : Nat) :
    Kept (({ world with granting := rest } : World).setWorking grant.slot
      (some (.task process, .grant))) := by
  have isQueued := kept.queued grant (by rw [isFirst]; exact List.mem_cons_self)
  have distinct := kept.distinct
  rw [isFirst, List.map_cons, List.nodup_cons] at distinct
  have here := kept.slots grant.slot
  refine ⟨fun other => ?_, fun later member => ?_, distinct.2, kept.releases⟩
  · by_cases same : other = grant.slot
    · rw [same]
      obtain ⟨isBusy, isFree⟩ := here.granted _ isQueued.1
      exact
        { idle := here.idle
          granted := fun _ _ => ⟨isBusy, isFree⟩
          maintained := fun worker isWorked => by simp [World.setWorking] at isWorked
          unique := here.unique
          living := here.living
          exclusive := here.exclusive
          opened := fun isOpening => absurd isQueued.2 isOpening }
    · exact (kept.slots other).untouched ⟨rfl, rfl, rfl, by simp [World.setWorking, same],
        fun _ isActive => isActive, living_same⟩
  · have different : later.slot ≠ grant.slot := by
      intro same
      exact distinct.1 (same ▸ List.mem_map_of_mem member)
    obtain ⟨isLater, notOpening⟩ := kept.queued later (by
      rw [isFirst]
      exact List.mem_cons_of_mem _ member)
    refine ⟨?_, notOpening⟩
    simp only [World.setWorking, Function.update_of_ne different]
    exact isLater

/-! ## Releases -/

/-- The holder of a slot is alone with it. -/
theorem Kept.holder_alone (kept : Kept world) (isLease : world.leases[ref]? = some lease)
    (isActive : lease.active = true) : world.heldByOther ref lease = false := by
  have here := kept.slots lease.slot
  have active : ActiveAt world lease.slot ref := ⟨lease, isLease, rfl, isActive⟩
  unfold World.heldByOther
  rw [Bool.or_eq_false_iff]
  constructor
  · cases isWorked : world.working lease.slot with
    | none => rfl
    | some held =>
        obtain ⟨worker, work⟩ := held
        rw [Option.any_some, decide_eq_false_iff_not]
        rintro rfl
        exact (here.granted worker isWorked).2 ref active
  · rw [Bool.eq_false_iff]
    intro isAny
    obtain ⟨⟨other, place⟩, member, holds⟩ := List.any_eq_true.mp isAny
    simp only [Bool.and_eq_true, decide_eq_true_eq, ne_eq] at holds
    obtain ⟨⟨different, sameSlot⟩, otherActive⟩ := holds
    have isOther := List.mem_zipIdx_iff_getElem?.mp member
    exact different (here.unique place ref ⟨other, isOther, sameSlot, otherActive⟩ active)

theorem activeAt_released
    (isActive : ∃ entry, (leases.modify ref fun entry => { entry with released := true })[place]? =
      some entry ∧ entry.slot = other ∧ entry.active = true) :
    place ≠ ref ∧ ∃ entry, leases[place]? = some entry ∧ entry.slot = other ∧
      entry.active = true := by
  obtain ⟨entry, isEntry, isThere, active⟩ := isActive
  rw [List.getElem?_modify] at isEntry
  obtain ⟨old, isOld, isNew⟩ := Option.map_eq_some_iff.mp isEntry
  by_cases same : ref = place
  · rw [if_pos same] at isNew
    simp [← isNew, Lease.active] at active
  · rw [if_neg same] at isNew
    cases isNew
    exact ⟨Ne.symm same, entry, isOld, isThere, active⟩

/-- A release ends its lease. It also makes the slot idle if it is of the current generation. -/
theorem settleRelease_cases (world : World) (ref : Nat) (lease : Lease) (success : Bool) :
    world.settleRelease ref lease success =
        { world with
          leases := world.leases.modify ref fun entry => { entry with released := true }
          releases := world.releases ++ [⟨false, world.heldByOther ref lease⟩] } ∨
      (world.slots lease.slot).generation = lease.generation ∧
        ∃ (freed : Slot) (sticky : String → Option Nat), freed.busy = false ∧
          freed.processHandle = (world.slots lease.slot).processHandle ∧
          world.settleRelease ref lease success =
            { world with
              slots := Function.update world.slots lease.slot freed
              sticky
              leases := world.leases.modify ref fun entry => { entry with released := true }
              releases := world.releases ++
                [⟨(world.slots lease.slot).busy, world.heldByOther ref lease⟩] } := by
  unfold World.settleRelease
  dsimp only
  split
  · exact .inl rfl
  next isCurrent =>
    refine .inr ⟨not_not.mp isCurrent, { world.slots lease.slot with
      busy := false
      crashCount := if success then 0 else (world.slots lease.slot).crashCount
      circuitOpenUntil := if success then 0 else (world.slots lease.slot).circuitOpenUntil }, ?_⟩
    cases lease.conversationKey.filter fun key => !key.isEmpty with
    | some key => exact ⟨Function.update world.sticky key (some lease.slot), rfl, rfl, rfl⟩
    | none => exact ⟨world.sticky, rfl, rfl, rfl⟩

theorem settleRelease_spares (ref : Nat) (lease : Lease) (success : Bool) :
    Spares world (world.settleRelease ref lease success) := by
  intro slot _
  rcases settleRelease_cases world ref lease success with same | ⟨-, freed, sticky, -, -, same⟩
  · rw [same]
    exact ⟨rfl, rfl⟩
  · rw [same]
    exact ⟨rfl, rfl⟩

/-- A slot that its holder gives back. -/
theorem SlotKept.free (kept : SlotKept before slot) (isIdle : (after.slots slot).busy = false)
    (processHandle : (after.slots slot).processHandle = (before.slots slot).processHandle)
    (opening : after.opening slot = before.opening slot)
    (working : after.working slot = before.working slot) (children : after.children = before.children)
    (notGranted : ∀ worker, before.working slot ≠ some (worker, .grant))
    (isFree : ∀ ref, ¬ ActiveAt after slot ref) : SlotKept after slot where
  idle _ := isFree
  granted worker isWorked := by
    rw [working] at isWorked
    exact absurd isWorked (notGranted worker)
  maintained _ _ := isIdle
  unique first _ isFirst _ := absurd isFirst (isFree first)
  living := by
    rw [processHandle, opening, children]
    exact kept.living
  exclusive := by
    rw [processHandle, opening]
    exact kept.exclusive
  opened := by
    rw [opening, working]
    exact kept.opened

/-- A release by the holder, or one that finds the slot idle or its generation over. -/
theorem Kept.settleRelease (kept : Kept world) (isLease : world.leases[ref]? = some lease)
    (success : Bool) (byHolder : (world.slots lease.slot).generation = lease.generation →
      (world.slots lease.slot).busy = true → lease.active = true) :
    Kept (world.settleRelease ref lease success) := by
  have here := kept.slots lease.slot
  rcases settleRelease_cases world ref lease success with
    same | ⟨isCurrent, freed, sticky, isIdle, sameHandle, same⟩
  · rw [same]
    refine ⟨fun other => (kept.slots other).untouched ?_, kept.queued, kept.distinct, ?_⟩
    · exact ⟨rfl, rfl, rfl, rfl, fun _ isActive => (activeAt_released isActive).2, living_same⟩
    · intro entry member isFreed
      rcases List.mem_append.mp member with old | new
      · exact kept.releases entry old isFreed
      · rw [List.mem_singleton.mp new] at isFreed
        cases isFreed
  · rw [same]
    -- The slot had no active lease but this one, and no grant in flight.
    have isFree : (∀ place, place ≠ ref → ¬ ActiveAt world lease.slot place) ∧
        ∀ worker, world.working lease.slot ≠ some (worker, .grant) := by
      by_cases isBusy : (world.slots lease.slot).busy = true
      · have active : ActiveAt world lease.slot ref :=
          ⟨lease, isLease, rfl, byHolder isCurrent isBusy⟩
        constructor
        · intro place different isActive
          exact different (here.unique place ref isActive active)
        · intro worker isWorked
          exact (here.granted worker isWorked).2 ref active
      · constructor
        · intro place _
          exact here.idle (Bool.eq_false_iff.mpr isBusy) place
        · intro worker isWorked
          exact isBusy (here.granted worker isWorked).1
    refine ⟨fun other => ?_, kept.queued, kept.distinct, ?_⟩
    · by_cases isHere : other = lease.slot
      · subst isHere
        refine here.free ?_ ?_ rfl rfl rfl isFree.2 fun place isActive => ?_
        · simpa using isIdle
        · simpa using sameHandle
        · obtain ⟨different, wasActive⟩ := activeAt_released isActive
          exact isFree.1 place different wasActive
      · refine (kept.slots other).untouched ⟨?_, ?_, rfl, rfl,
          fun _ isActive => (activeAt_released isActive).2, living_same⟩
        · simp [isHere]
        · simp [isHere]
    · intro entry member isFreed
      rcases List.mem_append.mp member with old | new
      · exact kept.releases entry old isFreed
      · rw [List.mem_singleton.mp new] at isFreed ⊢
        exact kept.holder_alone isLease (byHolder isCurrent isFreed)

end Triangle.WorkerPool
