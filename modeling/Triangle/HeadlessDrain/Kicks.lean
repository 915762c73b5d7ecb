import Triangle.HeadlessDrain.Drain

/-!
# Kicks of a drain

No kick is lost while its drain is not stopped: an attempt begins at or after it, or one is
in flight that hands it over, or a microtask of an earlier attempt will serve it.
-/

namespace Triangle.HeadlessDrain

open Triangle.Semantics Triangle.Std

variable {Sense State : Type}

/-- Every kick that was taken, and after which `stop` was not called, was followed by an
attempt that began at or after it. -/
def KicksServed (history : List (Entry Sense)) : Prop :=
  ∀ newer reason status older, history = newer ++ .kicked reason status :: older →
    status.isTaken = true → .stopCalled ∉ newer → ∃ attempt reason, .began attempt reason ∈ newer

/-- A kick was taken, and since then no attempt has begun and `stop` was not called. -/
def isWaiting : List (Entry Sense) → Bool
  | [] => false
  | .began _ _ :: _ => false
  | .stopCalled :: _ => false
  | .kicked _ status :: older => status.isTaken || isWaiting older
  | .ended _ _ _ :: older => isWaiting older
  | .skipped _ :: older => isWaiting older

/-- Where no kick waits, every kick was served. -/
theorem kicksServed_of_not_waiting {history : List (Entry Sense)}
    (notWaiting : isWaiting history = false) : KicksServed history := by
  intro newer reason status older isSplit taken notStopped
  induction newer generalizing history with
  | nil =>
      subst isSplit
      simp [isWaiting, taken] at notWaiting
  | cons entry newer ih =>
      subst isSplit
      have goesOn (rest : isWaiting (newer ++ .kicked reason status :: older) = false) :
          ∃ attempt reason, .began attempt reason ∈ entry :: newer := by
        obtain ⟨attempt, began, isIn⟩ :=
          ih rest rfl (fun isIn => notStopped (.tail _ isIn))
        exact ⟨attempt, began, .tail _ isIn⟩
      cases entry with
      | kicked first answered =>
          rw [List.cons_append, isWaiting, Bool.or_eq_false_iff] at notWaiting
          exact goesOn notWaiting.2
      | began attempt first => exact ⟨attempt, first, .head _⟩
      | ended | skipped => exact goesOn notWaiting
      | stopCalled => exact absurd (.head _) notStopped

namespace Drain

/-- The drain is started, not stopping, with no attempt in flight and no pending microtask. -/
def IsAtRest (drain : Drain Sense State) : Prop :=
  drain.started = true ∧ drain.stopping = false ∧ drain.inFlight = none ∧ drain.microtasks = []

/-! ## The invariant -/

/-- What every step keeps. A kick that waits is pending at the attempt in flight, or handed to
a microtask. -/
structure Sound (drain : Drain Sense State) : Prop where
  single : drain.attempts.map (·.id) = drain.inFlight.toList
  running : drain.inFlight ≠ none → drain.started = true
  awaited : ∀ id ∈ drain.stops, drain.stopping = true ∧ drain.inFlight = some id
  truthy : drain.pendingKickReason ≠ some ""
  handed : isWaiting drain.history = true → drain.isOff = false ∧
    (drain.inFlight ≠ none ∧ drain.pendingKickReason ≠ none ∨
      drain.inFlight = none ∧ drain.microtasks ≠ [])

/-- What the invariant reads of a drain. -/
def core (drain : Drain Sense State) :=
  (drain.attempts.map (·.id), drain.inFlight, drain.started, drain.stopping,
    drain.pendingKickReason, drain.microtasks, drain.stops, isWaiting drain.history)

variable {drain other : Drain Sense State}

/-- A step on what the invariant does not read keeps it. -/
theorem Sound.of_core (sound : drain.Sound) (same : other.core = drain.core) : other.Sound := by
  simp only [core, Prod.mk.injEq] at same
  obtain ⟨ids, flight, on, off, pending, tasks, waits, waiting⟩ := same
  constructor
  · rw [ids, flight, sound.single]
  · rw [flight, on]
    exact sound.running
  · rw [waits, off, flight]
    exact sound.awaited
  · rw [pending]
    exact sound.truthy
  · unfold isOff
    rw [waiting, on, off, flight, pending, tasks]
    exact sound.handed

@[simp] theorem schedule_core : drain.schedule.core = drain.core := by
  unfold schedule
  split <;> rfl

@[simp] theorem setPhase_core (id : Nat) (phase : Phase Sense) :
    (drain.setPhase id phase).core = drain.core := by
  have ids : (drain.setPhase id phase).attempts.map (·.id) = drain.attempts.map (·.id) := by
    rw [setPhase, List.map_map]
    refine List.map_congr_left fun attempt _ => ?_
    by_cases isThis : attempt.id = id <;> simp [isThis]
  rw [core, ids]
  rfl

@[simp] theorem finish_core (id : Nat) (empty : Bool) (sense : Sense) :
    (drain.finish id empty sense).core = drain.core :=
  setPhase_core id .ended

/-- A drain that is on and has no attempt in flight begins one, and no kick waits then. -/
theorem Sound.begins (idle : drain.inFlight = none) (isOn : drain.isOff = false)
    (single : drain.attempts = []) (noStops : drain.stops = [])
    (truthy : drain.pendingKickReason ≠ some "") (reason : String) :
    (drain.drainOnce reason).2.Sound := by
  rw [drainOnce, isOn, idle, if_neg Bool.false_ne_true, if_neg (by simp), runDrainAttempt, isOn,
    if_neg Bool.false_ne_true]
  constructor
  · simp [single]
  · intro _
    simp only [isOff, Bool.or_eq_false_iff, Bool.not_eq_false'] at isOn
    exact isOn.1
  · intro id isIn
    simp only [noStops] at isIn
    exact absurd isIn (List.not_mem_nil)
  · exact truthy
  · intro waiting
    exact absurd waiting Bool.false_ne_true

/-- No `stop` waits while no attempt is in flight. -/
theorem Sound.noStops (sound : drain.Sound) (idle : drain.inFlight = none) : drain.stops = [] := by
  refine List.eq_nil_iff_forall_not_mem.2 fun id isIn => ?_
  have := (sound.awaited id isIn).2
  rw [idle] at this
  exact nomatch this

/-- No attempt exists while none is in flight. -/
theorem Sound.noAttempts (sound : drain.Sound) (idle : drain.inFlight = none) :
    drain.attempts = [] := by
  have ids := sound.single
  rw [idle] at ids
  exact List.map_eq_nil_iff.1 ids

variable {reason : String} {id : Nat}

/-- A pending kick keeps the invariant while an attempt is in flight. -/
theorem Sound.pend (sound : drain.Sound) (notEmpty : reason ≠ "") (busy : drain.inFlight ≠ none)
    (isOn : drain.isOff = false) (history : List (Entry Sense)) :
    Sound { drain with pendingKickReason := some reason, history := history } where
  single := sound.single
  running := sound.running
  awaited := sound.awaited
  truthy := fun same => notEmpty (Option.some.inj same)
  handed := fun _ => ⟨isOn, .inl ⟨busy, nofun⟩⟩

theorem Sound.drainOnce (sound : drain.Sound) (reason : String) :
    (drain.drainOnce reason).2.Sound := by
  by_cases isOff : drain.isOff = true
  · rw [Drain.drainOnce, if_pos isOff]
    exact sound
  · rw [Bool.not_eq_true] at isOff
    by_cases idle : drain.inFlight = none
    · exact .begins idle isOff (sound.noAttempts idle) (sound.noStops idle) sound.truthy reason
    · have busy : drain.inFlight.isSome = true := Option.isSome_iff_ne_none.2 idle
      rw [Drain.drainOnce, isOff, if_neg Bool.false_ne_true, if_pos busy]
      split
      · exact sound.pend (by decide) idle isOff drain.history
      · exact sound

/-- The reason of a kick is not empty. -/
theorem ne_empty_of_isKickReason (valid : isKickReason reason = true) : reason ≠ "" := by
  rintro rfl
  simp [isKickReason, Json.codeUnits] at valid

section

variable (sound : drain.Sound)
include sound

theorem Sound.kick (reason : String) : (drain.kick reason).Sound := by
  unfold Drain.kick
  split
  · exact sound.of_core rfl
  · rename_i valid
    rw [Bool.not_eq_false] at valid
    split
    · exact sound.of_core rfl
    · rename_i isOff
      rw [Bool.not_eq_true] at isOff
      split
      · rename_i busy
        refine sound.pend ?_ (Option.isSome_iff_ne_none.1 busy) isOff _
        split
        · decide
        · exact ne_empty_of_isKickReason valid
      · rename_i idle
        rw [Bool.not_eq_true, Option.isSome_eq_false_iff, Option.isNone_iff_eq_none] at idle
        have noted : (drain.kicked reason .accepted).inFlight = none := idle
        exact .begins noted isOff (sound.noAttempts idle) (sound.noStops idle) sound.truthy reason

theorem Sound.callbackEnds (index : Nat) : (drain.callbackEnds index).Sound := by
  unfold Drain.callbackEnds
  split
  · exact sound
  · split
    · exact sound
    · exact sound.of_core (schedule_core.trans rfl)

/-- An attempt that has not settled is the one in flight. -/
theorem Sound.inFlight_of_phase {phase : Phase Sense} (found : drain.phase? id = some phase) :
    drain.inFlight = some id := by
  unfold phase? at found
  obtain ⟨attempt, isFound, -⟩ := Option.map_eq_some_iff.1 found
  have isIn : attempt.id ∈ drain.attempts.map (·.id) :=
    List.mem_map_of_mem (List.mem_of_find?_eq_some isFound)
  have isThis := List.find?_some isFound
  rw [sound.single, Option.mem_toList] at isIn
  rw [isIn, of_decide_eq_true isThis]

section

variable (isFlight : drain.inFlight = some id)
include isFlight

/-- The attempt in flight is the only one. -/
theorem Sound.onlyAttempt : drain.attempts.filter (fun attempt => attempt.id ≠ id) = [] := by
  refine List.filter_eq_nil_iff.2 fun attempt isIn => ?_
  have isIn : attempt.id ∈ drain.attempts.map (·.id) := List.mem_map_of_mem isIn
  rw [sound.single, isFlight, Option.toList_some, List.mem_singleton] at isIn
  simp [isIn]

/-- All `stop` calls that wait, wait for the attempt in flight. -/
theorem Sound.onlyStops : drain.stops.filter (· ≠ id) = [] := by
  refine List.filter_eq_nil_iff.2 fun waits isIn => ?_
  have isThis := (sound.awaited waits isIn).2
  rw [isFlight, Option.some.injEq] at isThis
  simp [isThis]

/-- What is left of the drain by the `finally` block of the attempt in flight. -/
theorem Sound.finallyBlock_eq :
    drain.finallyBlock id =
      match drain.pendingKickReason with
      | none => { drain with attempts := [], inFlight := none }
      | some trailingReason =>
        if drain.isOff = true then { drain with attempts := [], inFlight := none }
        else
          { drain with
            attempts := []
            inFlight := none
            pendingKickReason := none
            microtasks := drain.microtasks ++ [trailingReason] } := by
  unfold finallyBlock
  rw [sound.onlyAttempt isFlight, if_pos isFlight]
  cases isPending : drain.pendingKickReason with
  | none => rfl
  | some trailingReason =>
      have truthy : trailingReason ≠ "" := fun same => sound.truthy (by rw [isPending, same])
      cases isOn : drain.started <;> cases stopping : drain.stopping <;>
        simp [isOff, isOn, stopping, truthy]

/-- An attempt that settles under `stop` leaves the drain stopped. -/
theorem Sound.settles_stopped (released : id ∈ drain.stops) :
    ((drain.finallyBlock id).releaseStops id).Sound := by
  have off : drain.isOff = true := by
    rw [isOff, (sound.awaited id released).1, Bool.or_true]
  have notWaiting : isWaiting drain.history = false := by
    rw [← Bool.not_eq_true]
    intro waiting
    exact absurd ((sound.handed waiting).1.symm.trans off) Bool.false_ne_true
  have isFinally : drain.finallyBlock id = { drain with attempts := [], inFlight := none } := by
    rw [sound.finallyBlock_eq isFlight]
    split
    · rfl
    · rw [if_pos off]
  rw [isFinally, releaseStops, if_pos released]
  constructor
  · rfl
  · exact fun busy => absurd rfl busy
  · intro waits isIn
    simp only [sound.onlyStops isFlight] at isIn
    exact absurd isIn List.not_mem_nil
  · exact sound.truthy
  · intro waiting
    exact absurd (notWaiting.symm.trans waiting) Bool.false_ne_true

/-- An attempt that settles with no `stop` waiting hands a pending kick to a microtask. -/
theorem Sound.settles_free (free : id ∉ drain.stops) :
    ((drain.finallyBlock id).releaseStops id).Sound := by
  have noStops : drain.stops = [] := by
    refine List.eq_nil_iff_forall_not_mem.2 fun waits isIn => ?_
    have isThis := (sound.awaited waits isIn).2
    rw [isFlight, Option.some.injEq] at isThis
    exact free (isThis ▸ isIn)
  have noneAwaited : ∀ waits ∈ drain.stops,
      drain.stopping = true ∧ (none : Option Nat) = some waits := by
    intro waits isIn
    rw [noStops] at isIn
    exact absurd isIn List.not_mem_nil
  rw [sound.finallyBlock_eq isFlight]
  cases isPending : drain.pendingKickReason with
  | none =>
      simp only
      rw [releaseStops, if_neg free]
      refine ⟨rfl, fun busy => absurd rfl busy, noneAwaited, isPending ▸ sound.truthy,
        fun waiting => ?_⟩
      obtain ⟨-, ⟨-, pending⟩ | ⟨idle, -⟩⟩ := sound.handed waiting
      · exact absurd isPending pending
      · exact nomatch isFlight.symm.trans idle
  | some trailingReason =>
      by_cases off : drain.isOff = true
      · simp only
        rw [if_pos off, releaseStops, if_neg free]
        refine ⟨rfl, fun busy => absurd rfl busy, noneAwaited, isPending ▸ sound.truthy,
        fun waiting => ?_⟩
        exact absurd ((sound.handed waiting).1.symm.trans off) Bool.false_ne_true
      · simp only
        rw [if_neg off, releaseStops, if_neg free]
        rw [Bool.not_eq_true] at off
        exact ⟨rfl, fun busy => absurd rfl busy, noneAwaited, nofun,
          fun _ => ⟨off, .inr ⟨rfl, by simp⟩⟩⟩

end

theorem Sound.settles (id : Nat) : (drain.settles id).Sound := by
  unfold Drain.settles
  split
  · rename_i found
    have isFlight := sound.inFlight_of_phase found
    by_cases released : id ∈ drain.stops
    · exact sound.settles_stopped isFlight released
    · exact sound.settles_free isFlight released
  · exact sound

/-- A microtask serves the kicks that wait, or an attempt that began before it does. -/
theorem Sound.microtask : drain.microtask.Sound := by
  unfold Drain.microtask
  split
  · exact sound
  · rename_i trailingReason rest queued
    simp only
    split
    · rename_i notRun
      refine ⟨sound.single, sound.running, sound.awaited, sound.truthy, fun waiting => ?_⟩
      obtain ⟨isOn, ⟨busy, pending⟩ | ⟨idle, -⟩⟩ := sound.handed waiting
      · exact ⟨isOn, .inl ⟨busy, pending⟩⟩
      · change (drain.isOff || drain.inFlight.isSome) = true at notRun
        rw [isOn, idle] at notRun
        exact absurd notRun Bool.false_ne_true
    · rename_i runs
      rw [Bool.not_eq_true, Bool.or_eq_false_iff] at runs
      have idle : drain.inFlight = none := by simpa using runs.2
      have taken : ({ drain with microtasks := rest } : Drain Sense State).inFlight = none := idle
      exact .begins taken runs.1 (sound.noAttempts idle) (sound.noStops idle) sound.truthy
        trailingReason

theorem Sound.start (runLoop : Bool) : (drain.start runLoop).Sound := by
  unfold Drain.start
  split
  · exact sound
  · rename_i notStarted
    rw [Bool.not_eq_true] at notStarted
    have idle : drain.inFlight = none := by
      by_contra busy
      exact absurd (notStarted.symm.trans (sound.running busy)) Bool.false_ne_true
    refine ⟨sound.single, sound.running, ?_, nofun, fun waiting => ?_⟩
    · intro id isIn
      simp only [sound.noStops idle] at isIn
      exact absurd isIn List.not_mem_nil
    · have isOn := (sound.handed waiting).1
      rw [isOff, notStarted, Bool.not_false, Bool.true_or] at isOn
      exact absurd isOn.symm Bool.false_ne_true

theorem Sound.recovers (index : Nat) (succeeds : Bool) : (drain.recovers index succeeds).Sound := by
  unfold Drain.recovers
  split
  · exact sound
  · rename_i runLoop waits
    have isStarted : Sound { drain with
        starts := drain.starts.eraseIdx index, started := true } := by
      refine ⟨sound.single, fun _ => rfl, sound.awaited, sound.truthy, fun waiting => ?_⟩
      obtain ⟨isOn, served⟩ := sound.handed waiting
      simp only [isOff, Bool.or_eq_false_iff] at isOn ⊢
      exact ⟨⟨rfl, isOn.2⟩, served⟩
    simp only
    split
    · exact sound.of_core rfl
    · split
      · exact isStarted.of_core schedule_core
      · exact isStarted

theorem Sound.stop : drain.stop.Sound := by
  unfold Drain.stop
  simp only
  split
  · rename_i id busy
    refine ⟨sound.single, sound.running, ?_, nofun, fun waiting => ?_⟩
    · intro waits isIn
      refine ⟨rfl, ?_⟩
      rcases List.mem_append.1 isIn with earlier | isNew
      · exact (sound.awaited waits earlier).2
      · rw [List.mem_singleton.1 isNew]
        exact busy
    · exact absurd waiting Bool.false_ne_true
  · rename_i idle
    refine ⟨sound.single, fun busy => absurd idle busy, ?_, nofun, fun waiting => ?_⟩
    · intro waits isIn
      simp only [sound.noStops idle] at isIn
      exact absurd isIn List.not_mem_nil
    · exact absurd waiting Bool.false_ne_true

end

variable {policy : IdlePolicy Sense State} {recordsFailures : Bool}

theorem Sound.tick (sound : drain.Sound) (sense : Sense) : (drain.tick policy sense).Sound := by
  unfold Drain.tick
  split
  · exact sound
  · have evaluated : Sound { drain with
        timer := false, idle := (policy.evaluateTick sense drain.idle).2 } := sound.of_core rfl
    simp only
    split
    · exact evaluated.of_core rfl
    · have drained := evaluated.drainOnce (policy.evaluateTick sense drain.idle).1.reason
      split
      · rename_i isAnswer
        rw [isAnswer] at drained
        exact drained.of_core rfl
      · rename_i isAnswer
        rw [isAnswer] at drained
        exact drained.of_core rfl

theorem Sound.resolved (sound : drain.Sound) (id : Nat) (resolution : Resolution) (sense : Sense) :
    (drain.resolved policy id resolution sense).Sound := by
  unfold Drain.resolved
  split
  · split
    · exact sound.of_core (finish_core _ _ _)
    · exact sound.of_core (finish_core _ _ _)
    · exact sound.of_core (setPhase_core _ _)
  · exact sound

theorem Sound.delivered (sound : drain.Sound) (id : Nat) (succeeds : Bool) (sense : Sense) :
    (drain.delivered policy recordsFailures id succeeds sense).Sound := by
  unfold Drain.delivered
  split
  · simp only
    split
    · exact sound.of_core (setPhase_core _ _)
    · exact sound.of_core (finish_core _ _ _)
  · exact sound

theorem Sound.failureRecorded (sound : drain.Sound) (id : Nat) :
    (drain.failureRecorded id).Sound := by
  unfold Drain.failureRecorded
  split
  · exact sound.of_core (finish_core _ _ _)
  · exact sound

theorem Sound.step (sound : drain.Sound) (event : Event Sense) :
    (drain.step policy recordsFailures event).Sound := by
  cases event with
  | kick reason => exact sound.kick reason
  | drainOnce reason => exact sound.drainOnce reason
  | tick sense => exact sound.tick sense
  | callbackEnds index => exact sound.callbackEnds index
  | resolved id resolution sense => exact sound.resolved id resolution sense
  | delivered id succeeds sense => exact sound.delivered id succeeds sense
  | failureRecorded id => exact sound.failureRecorded id
  | settles id => exact sound.settles id
  | microtask => exact sound.microtask
  | start runLoop => exact sound.start runLoop
  | recovers index succeeds => exact sound.recovers index succeeds
  | stop => exact sound.stop

/-- The invariant holds in every state of every run. -/
theorem sound_of_reachable (reached : (drainMachine policy recordsFailures).Reachable drain) :
    drain.Sound := by
  have start : (createHeadlessCodexDrain policy).Sound :=
    ⟨rfl, fun busy => absurd rfl busy, nofun, nofun, nofun⟩
  exact reached.invariant start (fun _ event sound => sound.step event)

/-- At most one attempt is in flight. -/
theorem Sound.attempts_le_one (sound : drain.Sound) : drain.attempts.length ≤ 1 := by
  rw [← List.length_map (·.id), sound.single]
  cases drain.inFlight <;> simp

/-- A drain at rest has no kick that waits. -/
theorem Sound.kicksServed (sound : drain.Sound) (atRest : drain.IsAtRest) :
    KicksServed drain.history := by
  obtain ⟨-, -, idle, noTask⟩ := atRest
  refine kicksServed_of_not_waiting ?_
  rw [← Bool.not_eq_true]
  intro waiting
  obtain ⟨-, ⟨busy, -⟩ | ⟨-, queued⟩⟩ := sound.handed waiting
  · exact busy idle
  · exact queued noTask

end Drain

end Triangle.HeadlessDrain
