import Mathlib.Data.List.Nodup
import Triangle.WakeScheduler.Scheduler

/-!
# Lanes of a profile scheduler

What holds of the job and of the state of each instance: a job is the only one of its
instance, holds the gates through which it went, and an instance that has something to
reconcile is queued or has a job that will see to it.
-/

namespace Triangle.WakeScheduler

open Triangle.Semantics Triangle.Std

/-- The watermark that a job has captured, while its operation is not over. -/
def Phase.captured : Phase → Option Int
  | .atProfile highWatermark | .atGlobal highWatermark | .calling _ highWatermark =>
      some highWatermark
  | .sleeping | .ended _ | .left _ => none

/-- The profile's gate has admitted the job. -/
def Phase.holdsProfile : Phase → Bool
  | .atGlobal _ | .calling _ _ | .ended _ => true
  | .sleeping | .atProfile _ | .left _ => false

/-- The global gate has admitted the job. -/
def Phase.holdsGlobal : Phase → Bool
  | .calling _ _ | .ended _ => true
  | .sleeping | .atProfile _ | .atGlobal _ | .left _ => false

/-- An instance was dropped, and no wake of it came since. -/
def isDropped (instanceId : String) : List Entry → Bool
  | [] => false
  | .dropped other :: older => other = instanceId || isDropped instanceId older
  | .submitted submission :: older =>
      submission.instanceId ≠ instanceId && isDropped instanceId older
  | .began _ :: older => isDropped instanceId older
  | .reconciled _ :: older => isDropped instanceId older

variable {options : Options}

namespace Scheduler

/-- A job's watermark is a watermark of its instance, above what is reconciled while it waits
for the harness, and it holds the gates that admitted it. -/
structure JobOk (scheduler : Scheduler options) (job : Job) : Prop where
  below : ∀ highWatermark, job.phase.captured = some highWatermark →
    highWatermark ≤ (scheduler.states job.instanceId).highWatermark
  above : ∀ kind highWatermark, job.phase = .calling kind highWatermark →
    (scheduler.states job.instanceId).lastReconciled < highWatermark
  profile : job.phase.holdsProfile = true →
    .job job.id ∈ (scheduler.profileGates job.instanceId).active
  global : job.phase.holdsGlobal = true → .job job.id ∈ scheduler.globalGate.active

/-- A job will see to everything its instance has to reconcile: another job follows it, or it
carries the highest watermark, or it has failed. -/
def Serves (scheduler : Scheduler options) (job : Job) : Prop :=
  (scheduler.states job.instanceId).dirty = true ∨
    match job.phase with
    | .sleeping => True
    | .atProfile highWatermark | .atGlobal highWatermark | .calling _ highWatermark =>
        highWatermark = (scheduler.states job.instanceId).highWatermark
    | .ended failure | .left failure => failure ≠ none

/-- The state of an instance fits its jobs and the queue. -/
structure LaneOk (scheduler : Scheduler options) (instanceId : String) : Prop where
  active : (scheduler.states instanceId).active = true ↔
    ∃ job ∈ scheduler.jobs, job.instanceId = instanceId
  low : (scheduler.states instanceId).lastReconciled ≤
    (scheduler.states instanceId).highWatermark
  queued : instanceId ∈ scheduler.queue → (scheduler.states instanceId).active = false
  served : scheduler.stopped = false →
    (scheduler.states instanceId).lastReconciled < (scheduler.states instanceId).highWatermark →
    isDropped instanceId scheduler.history = false →
    instanceId ∈ scheduler.queue ∨
      ∃ job ∈ scheduler.jobs, job.instanceId = instanceId ∧ scheduler.Serves job

/-- What every step keeps. -/
structure Sound (scheduler : Scheduler options) : Prop where
  ids : (scheduler.jobs.map (·.id)).Nodup
  fresh : ∀ job ∈ scheduler.jobs, job.id < scheduler.nextJob
  instances : (scheduler.jobs.map (·.instanceId)).Nodup
  count : scheduler.inFlight = scheduler.jobs.length
  queue : scheduler.queue.Nodup
  jobs : ∀ job ∈ scheduler.jobs, scheduler.JobOk job
  lanes : ∀ instanceId, scheduler.LaneOk instanceId

variable {scheduler other : Scheduler options} {job : Job} {id : Nat} {phase : Phase}

/-! ## Jobs -/

theorem job?_some (found : scheduler.job? id = some job) :
    job ∈ scheduler.jobs ∧ job.id = id := by
  unfold job? at found
  have isThis := List.find?_some found
  exact ⟨List.mem_of_find?_eq_some found, of_decide_eq_true isThis⟩

variable {first second : Job} {instanceId : String} {failure : Option Failure}

/-- Two jobs of one id are the same. -/
theorem Sound.sameJob (sound : scheduler.Sound) (isFirst : first ∈ scheduler.jobs)
    (isSecond : second ∈ scheduler.jobs) (same : first.id = second.id) : first = second :=
  List.inj_on_of_nodup_map sound.ids isFirst isSecond same

/-- Two jobs of one instance are the same. -/
theorem Sound.sameInstance (sound : scheduler.Sound) (isFirst : first ∈ scheduler.jobs)
    (isSecond : second ∈ scheduler.jobs) (same : first.instanceId = second.instanceId) :
    first = second :=
  List.inj_on_of_nodup_map sound.instances isFirst isSecond same

/-- The jobs after one has gone on to a phase. -/
theorem Sound.mem_setPhase (sound : scheduler.Sound) (isJob : job ∈ scheduler.jobs) {any : Job} :
    any ∈ (scheduler.setPhase job.id phase).jobs ↔
      any = { job with phase := phase } ∨ any ∈ scheduler.jobs ∧ any.id ≠ job.id := by
  rw [setPhase, List.mem_map]
  constructor
  · rintro ⟨earlier, isIn, rfl⟩
    by_cases isThis : earlier.id = job.id
    · rw [if_pos isThis, sound.sameJob isIn isJob isThis]
      exact .inl rfl
    · rw [if_neg isThis]
      exact .inr ⟨isIn, isThis⟩
  · rintro (rfl | ⟨isIn, differs⟩)
    · exact ⟨job, isJob, if_pos rfl⟩
    · exact ⟨any, isIn, if_neg differs⟩

@[simp] theorem setPhase_ids :
    (scheduler.setPhase id phase).jobs.map (·.id) = scheduler.jobs.map (·.id) := by
  rw [setPhase, List.map_map]
  refine List.map_congr_left fun job _ => ?_
  by_cases isThis : job.id = id <;> simp [isThis]

@[simp] theorem setPhase_instances :
    (scheduler.setPhase id phase).jobs.map (·.instanceId) = scheduler.jobs.map (·.instanceId) := by
  rw [setPhase, List.map_map]
  refine List.map_congr_left fun job _ => ?_
  by_cases isThis : job.id = id <;> simp [isThis]

/-- A job whose instance is unchanged, and whose gates still hold it, stays well. -/
theorem JobOk.congr (ok : scheduler.JobOk job)
    (state : other.states job.instanceId = scheduler.states job.instanceId)
    (profile : .job job.id ∈ (scheduler.profileGates job.instanceId).active →
      .job job.id ∈ (other.profileGates job.instanceId).active)
    (global : .job job.id ∈ scheduler.globalGate.active → .job job.id ∈ other.globalGate.active) :
    other.JobOk job where
  below := by
    rw [state]
    exact ok.below
  above := by
    rw [state]
    exact ok.above
  profile := fun holds => profile (ok.profile holds)
  global := fun holds => global (ok.global holds)

/-- A lane whose state, jobs and place in the queue are unchanged stays well. -/
theorem LaneOk.congr (lane : scheduler.LaneOk instanceId)
    (state : other.states instanceId = scheduler.states instanceId)
    (jobs : ∀ any : Job, any.instanceId = instanceId →
      (any ∈ other.jobs ↔ any ∈ scheduler.jobs))
    (queue : instanceId ∈ other.queue ↔ instanceId ∈ scheduler.queue)
    (stopped : other.stopped = scheduler.stopped)
    (dropped : isDropped instanceId other.history = isDropped instanceId scheduler.history) :
    other.LaneOk instanceId := by
  refine ⟨?_, ?_, ?_, ?_⟩
  · rw [state, lane.active]
    exact exists_congr fun any => and_congr_left fun same => (jobs any same).symm
  · rw [state]
    exact lane.low
  · rw [queue, state]
    exact lane.queued
  · rw [stopped, state, dropped, queue]
    intro running owed notDropped
    refine (lane.served running owed notDropped).imp_right ?_
    rintro ⟨served, isIn, same, serves⟩
    refine ⟨served, (jobs served same).2 isIn, same, ?_⟩
    unfold Serves at serves ⊢
    rw [same] at serves ⊢
    rw [state]
    exact serves

/-- The job of an instance that has something to reconcile serves it. -/
theorem Sound.serves (sound : scheduler.Sound) (isJob : job ∈ scheduler.jobs)
    (running : scheduler.stopped = false)
    (owed : (scheduler.states job.instanceId).lastReconciled <
      (scheduler.states job.instanceId).highWatermark)
    (notDropped : isDropped job.instanceId scheduler.history = false) : scheduler.Serves job := by
  have lane := sound.lanes job.instanceId
  rcases lane.served running owed notDropped with queued | ⟨served, isIn, same, serves⟩
  · have isActive := lane.active.2 ⟨job, isJob, rfl⟩
    exact absurd ((lane.queued queued).symm.trans isActive) Bool.false_ne_true
  · rwa [sound.sameInstance isIn isJob same] at serves

/-! ## A job goes on -/

/-- A step in which one job goes on to a phase, and nothing changes for other instances. -/
structure Moves (scheduler other : Scheduler options) (job : Job) (phase : Phase) : Prop where
  jobs : other.jobs = (scheduler.setPhase job.id phase).jobs
  queue : other.queue = scheduler.queue
  inFlight : other.inFlight = scheduler.inFlight
  stopped : other.stopped = scheduler.stopped
  nextJob : other.nextJob = scheduler.nextJob
  states : ∀ instanceId, instanceId ≠ job.instanceId →
    other.states instanceId = scheduler.states instanceId
  active : (other.states job.instanceId).active = (scheduler.states job.instanceId).active
  profile : ∀ instanceId id, id ≠ job.id → .job id ∈ (scheduler.profileGates instanceId).active →
    .job id ∈ (other.profileGates instanceId).active
  global : ∀ id, id ≠ job.id → .job id ∈ scheduler.globalGate.active →
    .job id ∈ other.globalGate.active
  dropped : ∀ instanceId, isDropped instanceId other.history =
    isDropped instanceId scheduler.history

/-- A job that goes on keeps what holds, if it is well in its new phase and serves its
instance as far as it did. -/
theorem Sound.moves (sound : scheduler.Sound) (isJob : job ∈ scheduler.jobs)
    (moves : scheduler.Moves other job phase)
    (ok : other.JobOk { job with phase := phase })
    (low : (other.states job.instanceId).lastReconciled ≤
      (other.states job.instanceId).highWatermark)
    (serves : scheduler.stopped = false → (other.states job.instanceId).lastReconciled <
      (other.states job.instanceId).highWatermark →
      isDropped job.instanceId scheduler.history = false →
      other.Serves { job with phase := phase }) : other.Sound where
  ids := by
    rw [moves.jobs, setPhase_ids]
    exact sound.ids
  fresh := by
    intro any isIn
    rw [moves.jobs, sound.mem_setPhase isJob] at isIn
    rw [moves.nextJob]
    rcases isIn with rfl | ⟨isIn, -⟩
    · exact sound.fresh job isJob
    · exact sound.fresh any isIn
  instances := by
    rw [moves.jobs, setPhase_instances]
    exact sound.instances
  count := by
    have length : (scheduler.setPhase job.id phase).jobs.length = scheduler.jobs.length := by
      rw [setPhase, List.length_map]
    rw [moves.inFlight, moves.jobs, length, sound.count]
  queue := by
    rw [moves.queue]
    exact sound.queue
  jobs := by
    intro any isIn
    rw [moves.jobs, sound.mem_setPhase isJob] at isIn
    rcases isIn with rfl | ⟨isIn, differs⟩
    · exact ok
    · have notThis : any.instanceId ≠ job.instanceId :=
        fun same => differs (congrArg Job.id (sound.sameInstance isIn isJob same))
      exact (sound.jobs any isIn).congr (moves.states any.instanceId notThis)
        (moves.profile any.instanceId any.id differs) (moves.global any.id differs)
  lanes := by
    intro instanceId
    have lane := sound.lanes instanceId
    have hasJob : (∃ any ∈ other.jobs, any.instanceId = instanceId) ↔
        ∃ any ∈ scheduler.jobs, any.instanceId = instanceId := by
      rw [moves.jobs, ← List.mem_map, ← List.mem_map, setPhase_instances]
    by_cases isThis : instanceId = job.instanceId
    · subst isThis
      refine ⟨?_, low, ?_, ?_⟩
      · rw [moves.active, hasJob]
        exact lane.active
      · rw [moves.queue, moves.active]
        exact lane.queued
      · intro running owed notDropped
        rw [moves.stopped] at running
        rw [moves.dropped] at notDropped
        refine .inr ⟨{ job with phase := phase }, ?_, rfl, serves running owed notDropped⟩
        rw [moves.jobs, sound.mem_setPhase isJob]
        exact .inl rfl
    · refine lane.congr (moves.states instanceId isThis) (fun any isInstance => ?_)
        (by rw [moves.queue]) moves.stopped (moves.dropped instanceId)
      rw [moves.jobs, sound.mem_setPhase isJob]
      refine ⟨?_, fun isIn => .inr ⟨isIn, ?_⟩⟩
      · rintro (rfl | ⟨isIn, -⟩)
        · exact absurd isInstance.symm isThis
        · exact isIn
      · intro same
        rw [sound.sameJob isIn isJob same] at isInstance
        exact isThis isInstance.symm

theorem moves_setPhase (scheduler : Scheduler options) (job : Job) (phase : Phase) :
    scheduler.Moves (scheduler.setPhase job.id phase) job phase :=
  ⟨rfl, rfl, rfl, rfl, rfl, fun _ _ => rfl, rfl, fun _ _ _ isActive => isActive,
    fun _ _ isActive => isActive, fun _ => rfl⟩

/-- The gate of a profile may change, as long as it keeps other jobs. -/
theorem Moves.changeProfileGate (moves : scheduler.Moves other job phase) (instanceId : String)
    {change : Gate 1 Ticket → Gate 1 Ticket}
    (keeps : ∀ gate id, id ≠ job.id → .job id ∈ gate.active → .job id ∈ (change gate).active) :
    scheduler.Moves (other.changeProfileGate instanceId change) job phase :=
  { moves with
    profile := by
      intro any id differs isActive
      have kept := moves.profile any id differs isActive
      unfold Scheduler.changeProfileGate
      by_cases isThis : any = instanceId
      · subst isThis
        simp only [Function.update_self]
        exact keeps _ id differs kept
      · simp only [Function.update_of_ne isThis]
        exact kept }

/-- The global gate may change, as long as it keeps other jobs. -/
theorem Moves.changeGlobalGate (moves : scheduler.Moves other job phase)
    (gate : Gate options.limit Ticket)
    (keeps : ∀ id, id ≠ job.id → .job id ∈ other.globalGate.active → .job id ∈ gate.active) :
    scheduler.Moves { other with globalGate := gate } job phase :=
  { moves with
    global := fun id differs isActive => keeps id differs (moves.global id differs isActive) }

/-- The state of the job's instance may change, but stays active. -/
theorem Moves.change (moves : scheduler.Moves other job phase)
    {change : ProfileState → ProfileState}
    (active : ∀ state, (change state).active = state.active) :
    scheduler.Moves (other.change job.instanceId change) job phase :=
  { moves with
    states := by
      intro any differs
      rw [← moves.states any differs]
      exact Function.update_of_ne differs _ _
    active := by
      rw [← moves.active, ← active (other.states job.instanceId)]
      exact congrArg ProfileState.active (Function.update_self _ _ _) }

section

variable (moves : scheduler.Moves other job phase) (call : HarnessCall)
include moves call

/-- A harness call may be noted. -/
theorem Moves.began : scheduler.Moves (other.note (.began call)) job phase :=
  { moves with dropped := moves.dropped }

theorem Moves.reconciled : scheduler.Moves (other.note (.reconciled call)) job phase :=
  { moves with dropped := moves.dropped }

end

/-- A job that captures the high watermark goes to its profile's gate. -/
theorem Sound.callGate (sound : scheduler.Sound) (isJob : job ∈ scheduler.jobs) :
    (scheduler.callGate job.id job.instanceId).Sound := by
  have moves : scheduler.Moves (scheduler.callGate job.id job.instanceId) job
      (.atProfile (scheduler.states job.instanceId).highWatermark) :=
    (moves_setPhase scheduler job _).changeProfileGate job.instanceId
      fun _ _ _ isActive => Gate.acquire_active isActive
  refine sound.moves isJob moves ⟨?_, nofun, nofun, nofun⟩ (sound.lanes job.instanceId).low
    fun _ _ _ => .inr rfl
  intro highWatermark captured
  exact le_of_eq (Option.some.inj captured).symm

/-! ## Queue and wakes -/

/-- A queued instance gets its job. -/
theorem Sound.starts (sound : scheduler.Sound) {rest : List String}
    (isQueue : scheduler.queue = instanceId :: rest) (now : String → ℚ) :
    (Scheduler.runState { scheduler with queue := rest } now instanceId).Sound := by
  have lane := sound.lanes instanceId
  have notIn : instanceId ∉ rest := by
    have := sound.queue
    rw [isQueue] at this
    exact (List.nodup_cons.1 this).1
  have notActive : (scheduler.states instanceId).active = false :=
    lane.queued (isQueue ▸ List.mem_cons_self)
  have noJob : ∀ job ∈ scheduler.jobs, job.instanceId ≠ instanceId := by
    intro job isIn same
    exact absurd (notActive.symm.trans (lane.active.2 ⟨job, isIn, same⟩)) Bool.false_ne_true
  let job : Job := { id := scheduler.nextJob, instanceId := instanceId, phase := .sleeping }
  let started : Scheduler options := {
    Scheduler.change { scheduler with queue := rest } instanceId ({ · with active := true }) with
    inFlight := scheduler.inFlight + 1
    jobs := scheduler.jobs ++ [job]
    nextJob := scheduler.nextJob + 1 }
  have startedSound : started.Sound := by
    refine ⟨?_, ?_, ?_, ?_, ?_, ?_, ?_⟩
    · rw [List.map_append, List.map_singleton]
      refine List.nodup_append.2 ⟨sound.ids, List.nodup_singleton _, ?_⟩
      intro id isIn other isOther
      obtain ⟨earlier, isEarlier, rfl⟩ := List.mem_map.1 isIn
      rw [List.mem_singleton.1 isOther]
      exact Nat.ne_of_lt (sound.fresh earlier isEarlier)
    · intro any isIn
      rcases List.mem_append.1 isIn with isIn | isNew
      · exact Nat.lt_succ_of_lt (sound.fresh any isIn)
      · rw [List.mem_singleton.1 isNew]
        exact Nat.lt_succ_self _
    · rw [List.map_append, List.map_singleton]
      refine List.nodup_append.2 ⟨sound.instances, List.nodup_singleton _, ?_⟩
      intro other isIn same isSame
      obtain ⟨earlier, isEarlier, rfl⟩ := List.mem_map.1 isIn
      rw [List.mem_singleton.1 isSame]
      exact noJob earlier isEarlier
    · change scheduler.inFlight + 1 = ((scheduler.jobs ++ [job]).length : Int)
      rw [List.length_append, sound.count]
      rfl
    · have := sound.queue
      rw [isQueue] at this
      exact (List.nodup_cons.1 this).2
    · intro any isIn
      rcases List.mem_append.1 isIn with isIn | isNew
      · exact (sound.jobs any isIn).congr (Function.update_of_ne (noJob any isIn) _ _)
          (fun isActive => isActive) (fun isActive => isActive)
      · rw [List.mem_singleton.1 isNew]
        exact ⟨nofun, nofun, nofun, nofun⟩
    · intro any
      by_cases isThis : any = instanceId
      · subst isThis
        have state : started.states any = { scheduler.states any with active := true } :=
          Function.update_self _ _ _
        refine ⟨?_, ?_, fun isIn => absurd isIn notIn, fun _ _ _ => .inr ?_⟩
        · rw [state]
          exact ⟨fun _ => ⟨job, List.mem_append_right _ (List.mem_singleton_self _), rfl⟩,
            fun _ => rfl⟩
        · rw [state]
          exact lane.low
        · exact ⟨job, List.mem_append_right _ (List.mem_singleton_self _), rfl, .inr trivial⟩
      · refine (sound.lanes any).congr (Function.update_of_ne isThis _ _) (fun served same => ?_)
          ?_ rfl rfl
        · refine List.mem_append.trans (or_iff_left fun isNew => ?_)
          rw [List.mem_singleton.1 isNew] at same
          exact isThis same.symm
        · rw [isQueue, List.mem_cons, or_iff_right isThis]
          exact Iff.rfl
  unfold runState
  simp only
  split
  · exact startedSound
  · have isNew : job ∈ started.jobs := List.mem_append_right _ (List.mem_singleton_self _)
    exact startedSound.callGate isNew

theorem runState_queue (now : String → ℚ) (instanceId : String) :
    (scheduler.runState now instanceId).queue = scheduler.queue := by
  unfold runState
  simp only
  split <;> rfl

theorem Sound.pumpQueue (now : String → ℚ) (queue : List String) (sound : scheduler.Sound)
    (isQueue : scheduler.queue = queue) : (Scheduler.pumpQueue now queue scheduler).Sound := by
  induction queue generalizing scheduler with
  | nil => exact sound
  | cons instanceId rest ih =>
      have notActive : (scheduler.states instanceId).active = false :=
        (sound.lanes instanceId).queued (isQueue ▸ List.mem_cons_self)
      rw [Scheduler.pumpQueue_cons]
      simp only [notActive, Bool.false_eq_true, if_false]
      exact ih (sound.starts isQueue now) (runState_queue now instanceId)

theorem Sound.pump (sound : scheduler.Sound) (now : String → ℚ) : (scheduler.pump now).Sound := by
  unfold Scheduler.pump
  split
  · exact sound
  · exact sound.pumpQueue now scheduler.queue rfl

/-- A wake raises the high watermark to its own at least, and nothing else. -/
theorem raise_spec (watermark : Int) (reason : String) (state : ProfileState) :
    watermark ≤ (raise watermark reason state).highWatermark ∧
      raise watermark reason state =
        { state with highWatermark := (raise watermark reason state).highWatermark } ∧
      state.highWatermark ≤ (raise watermark reason state).highWatermark := by
  unfold raise
  split_ifs <;> simp_all <;> omega

/-- A step in which a wake of an instance is taken: a job of the instance is told of it, or the
instance is queued. -/
structure Wakes (scheduler other : Scheduler options) (instanceId : String) : Prop where
  jobs : other.jobs = scheduler.jobs
  inFlight : other.inFlight = scheduler.inFlight
  nextJob : other.nextJob = scheduler.nextJob
  stopped : other.stopped = scheduler.stopped
  profileGates : other.profileGates = scheduler.profileGates
  globalGate : other.globalGate = scheduler.globalGate
  states : ∀ any, any ≠ instanceId → other.states any = scheduler.states any
  active : (other.states instanceId).active = (scheduler.states instanceId).active
  lastReconciled : (other.states instanceId).lastReconciled =
    (scheduler.states instanceId).lastReconciled
  raised : (scheduler.states instanceId).highWatermark ≤
    (other.states instanceId).highWatermark
  dropped : ∀ any, any ≠ instanceId →
    isDropped any other.history = isDropped any scheduler.history
  queue : other.queue.Nodup
  queued : ∀ any, any ∈ other.queue ↔
    any ∈ scheduler.queue ∨ any = instanceId ∧ (scheduler.states instanceId).active = false
  told : (scheduler.states instanceId).active = true → (other.states instanceId).dirty = true

theorem Sound.wakes (sound : scheduler.Sound) {instanceId : String}
    (wakes : scheduler.Wakes other instanceId) : other.Sound where
  ids := by
    rw [wakes.jobs]
    exact sound.ids
  fresh := by
    rw [wakes.jobs, wakes.nextJob]
    exact sound.fresh
  instances := by
    rw [wakes.jobs]
    exact sound.instances
  count := by
    rw [wakes.inFlight, wakes.jobs]
    exact sound.count
  queue := wakes.queue
  jobs := by
    intro any isIn
    rw [wakes.jobs] at isIn
    have ok := sound.jobs any isIn
    by_cases isThis : any.instanceId = instanceId
    · subst isThis
      refine ⟨?_, ?_, ?_, ?_⟩
      · intro highWatermark captured
        exact le_trans (ok.below highWatermark captured) wakes.raised
      · rw [wakes.lastReconciled]
        exact ok.above
      · rw [wakes.profileGates]
        exact ok.profile
      · rw [wakes.globalGate]
        exact ok.global
    · refine ok.congr (wakes.states any.instanceId isThis) ?_ ?_
      · rw [wakes.profileGates]
        exact id
      · rw [wakes.globalGate]
        exact id
  lanes := by
    intro any
    have lane := sound.lanes any
    by_cases isThis : any = instanceId
    · subst isThis
      refine ⟨?_, ?_, ?_, ?_⟩
      · rw [wakes.active, wakes.jobs]
        exact lane.active
      · rw [wakes.lastReconciled]
        exact le_trans lane.low wakes.raised
      · rw [wakes.queued, wakes.active]
        rintro (isIn | ⟨-, notActive⟩)
        · exact lane.queued isIn
        · exact notActive
      · intro _ _ _
        cases isActive : (scheduler.states any).active with
        | false => exact .inl ((wakes.queued any).2 (.inr ⟨rfl, isActive⟩))
        | true =>
            obtain ⟨served, isIn, same⟩ := lane.active.1 isActive
            refine .inr ⟨served, wakes.jobs ▸ isIn, same, .inl ?_⟩
            rw [same]
            exact wakes.told isActive
    · refine lane.congr (wakes.states any isThis) (fun _ _ => by rw [wakes.jobs]) ?_ wakes.stopped
        (wakes.dropped any isThis)
      rw [wakes.queued, or_iff_left fun same => isThis same.1]

theorem enqueue_eq (instanceId : String) :
    scheduler.enqueue instanceId =
      { scheduler with queue := (scheduler.enqueue instanceId).queue } := by
  unfold enqueue
  split <;> rfl

theorem mem_enqueue {instanceId any : String} :
    any ∈ (scheduler.enqueue instanceId).queue ↔ any ∈ scheduler.queue ∨ any = instanceId := by
  unfold enqueue
  split
  · rename_i isIn
    exact ⟨.inl, fun either => either.elim id fun same => same ▸ isIn⟩
  · rw [List.mem_append, List.mem_singleton]

theorem enqueue_nodup (nodup : scheduler.queue.Nodup) (instanceId : String) :
    (scheduler.enqueue instanceId).queue.Nodup := by
  unfold enqueue
  split
  · exact nodup
  · rename_i notIn
    refine List.nodup_append.2 ⟨nodup, List.nodup_singleton _, ?_⟩
    intro any isIn other isOther
    rw [List.mem_singleton.1 isOther]
    exact fun same => notIn (same ▸ isIn)

theorem Sound.submitWake (sound : scheduler.Sound) (instanceId : String)
    (highWatermark : Option Int) (reason : String) (now : String → ℚ) :
    (scheduler.submitWake instanceId highWatermark reason now).Sound := by
  unfold Scheduler.submitWake
  split
  · exact sound
  · obtain ⟨-, raises, higher⟩ := raise_spec (watermarkOf highWatermark) reason
      (scheduler.states instanceId)
    have others (submission : Submission) (same : submission.instanceId = instanceId)
        (any : String) (differs : any ≠ instanceId) :
        isDropped any (.submitted submission :: scheduler.history) =
          isDropped any scheduler.history := by
      rw [isDropped, same]
      simp [Ne.symm differs]
    simp only
    split
    · rename_i isActive
      refine @Sound.wakes _ _ _ sound instanceId
        ⟨rfl, rfl, rfl, rfl, rfl, rfl, ?_, ?_, ?_, ?_, others _ rfl, sound.queue, ?_, ?_⟩
      · intro any differs
        simp only [noteWake, change, note, Function.update_of_ne differs]
      · simp only [noteWake, change, note, Function.update_self]
        rw [raises]
      · simp only [noteWake, change, note, Function.update_self]
        rw [raises]
      · simpa only [noteWake, change, note, Function.update_self] using higher
      · simp [noteWake, change, note, isActive]
      · simp [noteWake, change, note]
    · rename_i notActive
      rw [Bool.not_eq_true] at notActive
      rw [enqueue_eq]
      refine Sound.pump ?_ now
      refine @Sound.wakes _ _ _ sound instanceId
        ⟨rfl, rfl, rfl, rfl, rfl, rfl, ?_, ?_, ?_, ?_, others _ rfl, ?_, ?_, ?_⟩
      · intro any differs
        simp only [noteWake, change, note, Function.update_of_ne differs]
      · simp only [noteWake, change, note, Function.update_self]
        rw [raises]
      · simp only [noteWake, change, note, Function.update_self]
        rw [raises]
      · simpa only [noteWake, change, note, Function.update_self] using higher
      · refine enqueue_nodup ?_ instanceId
        exact sound.queue
      · intro any
        rw [mem_enqueue, notActive]
        simp [noteWake, change, note]
      · intro isActive
        exact absurd (notActive.symm.trans isActive) Bool.false_ne_true

/-! ## The steps of a job -/

/-- A job that goes on within its instance's state, to a phase that serves as far as the one
before it. -/
theorem Sound.goes (sound : scheduler.Sound) (isJob : job ∈ scheduler.jobs)
    (moves : scheduler.Moves other job phase)
    (same : other.states job.instanceId = scheduler.states job.instanceId)
    (ok : other.JobOk { job with phase := phase })
    (serves : scheduler.stopped = false → scheduler.Serves job →
      (scheduler.states job.instanceId).dirty = false →
      (scheduler.states job.instanceId).lastReconciled <
        (scheduler.states job.instanceId).highWatermark →
      other.Serves { job with phase := phase }) :
    other.Sound := by
  refine sound.moves isJob moves ok ?_ fun running owed notDropped => ?_
  · rw [same]
    exact (sound.lanes job.instanceId).low
  · rw [same] at owed
    have served := sound.serves isJob running owed notDropped
    cases isDirty : (scheduler.states job.instanceId).dirty with
    | true =>
        refine .inl ?_
        change (other.states job.instanceId).dirty = true
        rw [same]
        exact isDirty
    | false => exact serves running served isDirty owed

theorem Sound.awakes (sound : scheduler.Sound) (id : Nat) : (scheduler.awakes id).Sound := by
  unfold Scheduler.awakes
  split
  · rename_i id instanceId found
    obtain ⟨isJob, rfl⟩ := job?_some found
    split
    · rename_i stopped
      refine sound.goes isJob (moves_setPhase scheduler _ (.left none)) rfl
        ⟨nofun, nofun, nofun, nofun⟩ fun running => ?_
      exact absurd (running.symm.trans stopped) Bool.false_ne_true
    · exact sound.callGate isJob
  · exact sound

/-- A job that leaves the gates with a failure serves its instance. -/
theorem Sound.fails (sound : scheduler.Sound) (isJob : job ∈ scheduler.jobs)
    {failure : Failure} (moves : scheduler.Moves other job (.left (some failure)))
    (same : other.states job.instanceId = scheduler.states job.instanceId) : other.Sound :=
  sound.goes isJob moves same ⟨nofun, nofun, nofun, nofun⟩ fun _ _ _ _ => .inr nofun

/-- A job's ticket is not that of another. -/
theorem ticket_ne {first second : Nat} (differs : first ≠ second) :
    Ticket.job first ≠ .job second :=
  fun same => differs (Ticket.job.inj same)

/-- A job that has left its profile's gate, and its new phase. -/
theorem moves_release (scheduler : Scheduler options) (job : Job) (phase : Phase) :
    scheduler.Moves ((scheduler.setPhase job.id phase).changeProfileGate job.instanceId
      (·.release (.job job.id))) job phase :=
  (moves_setPhase scheduler job phase).changeProfileGate job.instanceId
    fun _ _ differs isActive => Gate.release_active (ticket_ne differs) isActive

variable {highWatermark : Int} {kind : CallKind}

section

variable (sound : scheduler.Sound)
include sound

/-- A job goes from its profile's gate to the global gate. -/
theorem Sound.toGlobal (isJob : job ∈ scheduler.jobs)
    (isPhase : job.phase = .atProfile highWatermark)
    (isActive : .job job.id ∈ (scheduler.profileGates job.instanceId).active) :
    Sound { scheduler.setPhase job.id (.atGlobal highWatermark) with
      globalGate := scheduler.globalGate.acquire (.job job.id) } := by
  have ok := sound.jobs job isJob
  have moves := (moves_setPhase scheduler job (.atGlobal highWatermark)).changeGlobalGate
    (scheduler.globalGate.acquire (.job job.id)) fun _ _ isIn => Gate.acquire_active isIn
  refine sound.goes isJob moves rfl ⟨?_, nofun, fun _ => isActive, nofun⟩ ?_
  · intro captured isCaptured
    exact ok.below captured (isPhase ▸ isCaptured)
  · intro _ serves notDirty _
    unfold Serves at serves
    rw [isPhase, notDirty] at serves
    exact .inr (serves.resolve_left Bool.false_ne_true)

theorem Sound.entersProfile (id : Nat) : (scheduler.entersProfile id).Sound := by
  unfold Scheduler.entersProfile
  split
  · rename_i id instanceId highWatermark found
    obtain ⟨isJob, rfl⟩ := job?_some found
    split
    · rename_i isActive
      split
      · exact sound.fails isJob (moves_release scheduler _ _) rfl
      · exact sound.toGlobal isJob rfl isActive
    · exact sound
  · exact sound

/-- A harness call begins in the global gate, with a watermark above what is reconciled. -/
theorem Sound.beginCall (isJob : job ∈ scheduler.jobs)
    (captured : job.phase.captured = some highWatermark)
    (profile : .job job.id ∈ (scheduler.profileGates job.instanceId).active)
    (global : .job job.id ∈ scheduler.globalGate.active)
    (above : (scheduler.states job.instanceId).lastReconciled < highWatermark) :
    (scheduler.beginCall ⟨job.id, kind, job.instanceId, highWatermark⟩).Sound := by
  have ok := sound.jobs job isJob
  have moves := (moves_setPhase scheduler job (.calling kind highWatermark)).began
    ⟨job.id, kind, job.instanceId, highWatermark⟩
  refine sound.goes isJob moves rfl ⟨?_, ?_, fun _ => profile, fun _ => global⟩ ?_
  · intro other isCaptured
    exact ok.below other (captured.trans isCaptured)
  · intro other value isPhase
    rw [← (Phase.calling.inj isPhase).2]
    exact above
  · intro _ serves notDirty _
    refine .inr ?_
    unfold Serves at serves
    rw [notDirty] at serves
    have serves := serves.resolve_left Bool.false_ne_true
    cases isPhase : job.phase with
    | sleeping => exact nomatch isPhase ▸ captured
    | atProfile | atGlobal | calling =>
        rw [isPhase] at captured serves
        exact (Option.some.inj captured).symm.trans serves
    | ended | left => exact nomatch isPhase ▸ captured

/-- A job in the gates whose operation has nothing to do ends there. -/
theorem Sound.endsCovered (isJob : job ∈ scheduler.jobs)
    (isPhase : job.phase = .atGlobal highWatermark)
    (isActive : .job job.id ∈ scheduler.globalGate.active)
    (covered : highWatermark ≤ (scheduler.states job.instanceId).lastReconciled) :
    (scheduler.setPhase job.id (.ended none)).Sound := by
  have ok := sound.jobs job isJob
  have profile := ok.profile (by rw [isPhase]; rfl)
  refine sound.goes isJob (moves_setPhase scheduler job _) rfl
    ⟨nofun, nofun, fun _ => profile, fun _ => isActive⟩ ?_
  intro _ serves notDirty owed
  unfold Serves at serves
  rw [isPhase, notDirty] at serves
  have highest := serves.resolve_left Bool.false_ne_true
  simp only at highest
  omega

theorem Sound.entersGlobal (id : Nat) : (scheduler.entersGlobal id).Sound := by
  unfold Scheduler.entersGlobal
  split
  · rename_i id instanceId highWatermark found
    obtain ⟨isJob, rfl⟩ := job?_some found
    split
    · rename_i isActive
      split
      · rename_i covered
        exact sound.endsCovered isJob rfl isActive covered
      · rename_i above
        exact sound.beginCall isJob rfl ((sound.jobs _ isJob).profile rfl) isActive
          (not_le.1 above)
    · exact sound
  · exact sound

section

variable (isJob : job ∈ scheduler.jobs) (isPhase : job.phase = .calling kind highWatermark)
include isJob isPhase

/-- A job in the gates stays in them when its operation ends. -/
theorem Sound.ended_ok (failure : Option Failure)
    (profileGates : other.profileGates = scheduler.profileGates)
    (globalGate : other.globalGate = scheduler.globalGate) :
    other.JobOk { job with phase := .ended failure } := by
  have ok := sound.jobs job isJob
  refine ⟨nofun, nofun, fun _ => ?_, fun _ => ?_⟩
  · rw [profileGates]
    exact ok.profile (by rw [isPhase]; rfl)
  · rw [globalGate]
    exact ok.global (by rw [isPhase]; rfl)

/-- A harness call that fails ends its operation with the failure. -/
theorem Sound.callFails (failure : Failure) :
    (scheduler.setPhase job.id (.ended (some failure))).Sound :=
  sound.goes isJob (moves_setPhase scheduler job _) rfl
    (sound.ended_ok isJob isPhase _ rfl rfl) fun _ _ _ _ => .inr nofun

/-- A harness call that finds nothing more reconciles its instance up to its watermark. A wake
above it has made the instance dirty. -/
theorem Sound.reconcile :
    (scheduler.reconcile ⟨job.id, kind, job.instanceId, highWatermark⟩).Sound := by
  have ok := sound.jobs job isJob
  let call : HarnessCall := ⟨job.id, kind, job.instanceId, highWatermark⟩
  have active (state : ProfileState) :
      { state with lastReconciled := highWatermark }.active = state.active := rfl
  have moves : scheduler.Moves (scheduler.reconcile call) job (.ended none) :=
    ((moves_setPhase scheduler job (.ended none)).change active).reconciled call
  have state : (scheduler.reconcile call).states job.instanceId =
      { scheduler.states job.instanceId with lastReconciled := highWatermark } :=
    Function.update_self _ _ _
  refine sound.moves isJob moves (sound.ended_ok isJob isPhase none rfl rfl) ?_ ?_
  · rw [state]
    exact ok.below highWatermark (by rw [isPhase]; rfl)
  · rw [state]
    intro running owed notDropped
    have above := ok.above kind highWatermark isPhase
    have serves := sound.serves isJob running (lt_trans above owed) notDropped
    unfold Serves at serves ⊢
    rw [isPhase] at serves
    rcases serves with isDirty | highest
    · refine .inl ?_
      simp only
      rw [state]
      exact isDirty
    · exact absurd highest (ne_of_lt owed)

end

/-- Resetting the back-off keeps what holds. -/
theorem Sound.resetBackoff (instanceId : String) : (scheduler.resetBackoff instanceId).Sound := by
  have states (any : String) :
      ((scheduler.resetBackoff instanceId).states any).active = (scheduler.states any).active ∧
      ((scheduler.resetBackoff instanceId).states any).dirty = (scheduler.states any).dirty ∧
      ((scheduler.resetBackoff instanceId).states any).lastReconciled =
        (scheduler.states any).lastReconciled ∧
      ((scheduler.resetBackoff instanceId).states any).highWatermark =
        (scheduler.states any).highWatermark := by
    unfold Scheduler.resetBackoff Scheduler.change
    by_cases isThis : any = instanceId
    · subst isThis
      simp only [Function.update_self, and_self]
    · simp only [Function.update_of_ne isThis, and_self]
  refine ⟨sound.ids, sound.fresh, sound.instances, sound.count, sound.queue, ?_, ?_⟩
  · intro job isIn
    obtain ⟨-, -, last, high⟩ := states job.instanceId
    have ok := sound.jobs job isIn
    refine ⟨?_, ?_, ok.profile, ok.global⟩
    · rw [high]
      exact ok.below
    · rw [last]
      exact ok.above
  · intro any
    obtain ⟨active, -, last, high⟩ := states any
    have lane := sound.lanes any
    refine ⟨?_, ?_, ?_, ?_⟩
    · rw [active]
      exact lane.active
    · rw [last, high]
      exact lane.low
    · rw [active]
      exact lane.queued
    · rw [last, high]
      intro running owed notDropped
      refine (lane.served running owed notDropped).imp_right ?_
      rintro ⟨served, isIn, same, serves⟩
      refine ⟨served, isIn, same, ?_⟩
      obtain ⟨-, dirty, -, high⟩ := states served.instanceId
      unfold Serves at serves ⊢
      rw [dirty, high]
      exact serves

/-- A run that leaves more to do makes its instance dirty. -/
theorem Sound.more (isJob : job ∈ scheduler.jobs)
    (isPhase : job.phase = .calling kind highWatermark) :
    ((scheduler.setPhase job.id (.ended none)).change job.instanceId
      ({ · with dirty := true })).Sound := by
  have active (state : ProfileState) : { state with dirty := true }.active = state.active := rfl
  have moves := (moves_setPhase scheduler job (.ended none)).change active
  have state : ((scheduler.setPhase job.id (.ended none)).change job.instanceId
      ({ · with dirty := true })).states job.instanceId =
      { scheduler.states job.instanceId with dirty := true } :=
    Function.update_self _ _ _
  refine sound.moves isJob moves (sound.ended_ok isJob isPhase none rfl rfl) ?_ ?_
  · rw [state]
    exact (sound.lanes job.instanceId).low
  · intro _ _ _
    exact .inl (by simp only [state])

theorem Sound.answers (id : Nat) (result : HarnessResult) :
    (scheduler.answers id result).Sound := by
  unfold Scheduler.answers
  split
  · rename_i id instanceId kind highWatermark found
    obtain ⟨isJob, rfl⟩ := job?_some found
    have ok := sound.jobs _ isJob
    split
    · exact sound.callFails isJob rfl _
    · exact sound.beginCall isJob rfl (ok.profile rfl) (ok.global rfl) (ok.above _ _ rfl)
    · exact sound.reconcile isJob rfl
    · exact (sound.more isJob rfl).resetBackoff instanceId
    · exact (sound.reconcile isJob rfl).resetBackoff instanceId
  · exact sound

/-- A job leaves both gates with what its operation ended with. -/
theorem Sound.leavesGates (isJob : job ∈ scheduler.jobs) (isPhase : job.phase = .ended failure) :
    Sound { (scheduler.setPhase job.id (.left failure)).changeProfileGate job.instanceId
        (·.release (.job job.id)) with
      globalGate := scheduler.globalGate.release (.job job.id) } := by
  have moves := (moves_release scheduler job (.left failure)).changeGlobalGate
    (scheduler.globalGate.release (.job job.id))
    fun _ differs isIn => Gate.release_active (ticket_ne differs) isIn
  refine sound.goes isJob moves rfl ⟨nofun, nofun, nofun, nofun⟩ ?_
  intro _ serves notDirty _
  unfold Serves at serves
  rw [isPhase, notDirty] at serves
  exact .inr (serves.resolve_left Bool.false_ne_true)

theorem Sound.leaves (id : Nat) : (scheduler.leaves id).Sound := by
  unfold Scheduler.leaves
  split
  · rename_i found
    obtain ⟨isJob, rfl⟩ := job?_some found
    exact sound.leavesGates isJob rfl
  · exact sound

theorem Sound.gateRejects (id : Nat) : (scheduler.gateRejects id).Sound := by
  unfold Scheduler.gateRejects
  split
  · exact sound
  · split
    · rename_i instanceId _ found
      obtain ⟨isJob, rfl⟩ := job?_some found
      split
      · have moves := moves_setPhase scheduler
        refine sound.fails isJob ((moves _ _).changeProfileGate instanceId ?_) rfl
        exact fun _ _ _ isActive => isActive
      · exact sound
    · rename_i found
      obtain ⟨isJob, rfl⟩ := job?_some found
      split
      · refine sound.fails isJob ((moves_release scheduler _ _).changeGlobalGate _ ?_) rfl
        exact fun _ _ isActive => isActive
      · exact sound
    · exact sound

end

/-- A step in which a job is over, and its instance queued if it has something to reconcile. -/
structure Settles (scheduler other : Scheduler options) (job : Job) : Prop where
  jobs : other.jobs = scheduler.jobs.filter fun any => any.id ≠ job.id
  inFlight : other.inFlight = scheduler.inFlight - 1
  nextJob : other.nextJob = scheduler.nextJob
  stopped : other.stopped = scheduler.stopped
  profileGates : other.profileGates = scheduler.profileGates
  globalGate : other.globalGate = scheduler.globalGate
  states : ∀ any, any ≠ job.instanceId → other.states any = scheduler.states any
  active : (other.states job.instanceId).active = false
  lastReconciled : (other.states job.instanceId).lastReconciled =
    (scheduler.states job.instanceId).lastReconciled
  highWatermark : (other.states job.instanceId).highWatermark =
    (scheduler.states job.instanceId).highWatermark
  dropped : ∀ any, any ≠ job.instanceId →
    isDropped any other.history = isDropped any scheduler.history
  queue : other.queue.Nodup
  queued : ∀ any, any ≠ job.instanceId → (any ∈ other.queue ↔ any ∈ scheduler.queue)
  requeued : scheduler.stopped = false →
    (scheduler.states job.instanceId).lastReconciled <
      (scheduler.states job.instanceId).highWatermark →
    isDropped job.instanceId other.history = false → job.instanceId ∈ other.queue

theorem Sound.settled (sound : scheduler.Sound) (isJob : job ∈ scheduler.jobs)
    (settles : scheduler.Settles other job) : other.Sound where
  ids := by
    rw [settles.jobs]
    exact sound.ids.sublist (List.filter_sublist.map _)
  fresh := by
    intro any isIn
    rw [settles.jobs] at isIn
    rw [settles.nextJob]
    exact sound.fresh any (List.mem_filter.1 isIn).1
  instances := by
    rw [settles.jobs]
    exact sound.instances.sublist (List.filter_sublist.map _)
  count := by
    have one : (scheduler.jobs.filter fun any => any.id ≠ job.id).length + 1 =
        scheduler.jobs.length := by
      have erased : (scheduler.jobs.filter fun any => any.id ≠ job.id) =
          scheduler.jobs.erase job := by
        rw [(sound.ids.of_map _).erase_eq_filter]
        refine List.filter_congr fun any isIn => ?_
        rw [Bool.eq_iff_iff]
        simp only [ne_eq, decide_not, Bool.not_eq_true', decide_eq_false_iff_not, bne_iff_ne]
        exact ⟨fun differs same => differs (congrArg Job.id same),
          fun differs same => differs (sound.sameJob isIn isJob same)⟩
      rw [erased, List.length_erase_of_mem isJob]
      exact Nat.sub_add_cancel (List.length_pos_of_mem isJob)
    rw [settles.inFlight, settles.jobs, sound.count]
    omega
  queue := settles.queue
  jobs := by
    intro any isIn
    rw [settles.jobs, List.mem_filter, decide_eq_true_eq] at isIn
    have notThis : any.instanceId ≠ job.instanceId :=
      fun same => isIn.2 (congrArg Job.id (sound.sameInstance isIn.1 isJob same))
    refine (sound.jobs any isIn.1).congr (settles.states any.instanceId notThis) ?_ ?_
    · rw [settles.profileGates]
      exact id
    · rw [settles.globalGate]
      exact id
  lanes := by
    intro any
    have lane := sound.lanes any
    have kept (served : Job) (differs : served.instanceId ≠ job.instanceId) :
        served ∈ other.jobs ↔ served ∈ scheduler.jobs := by
      rw [settles.jobs, List.mem_filter, decide_eq_true_eq]
      refine ⟨fun isIn => isIn.1, fun isIn => ⟨isIn, fun same => differs ?_⟩⟩
      rw [sound.sameJob isIn isJob same]
    by_cases isThis : any = job.instanceId
    · subst isThis
      refine ⟨?_, ?_, fun _ => settles.active, ?_⟩
      · rw [settles.active]
        refine ⟨by intros; contradiction, ?_⟩
        rintro ⟨served, isIn, same⟩
        rw [settles.jobs, List.mem_filter, decide_eq_true_eq] at isIn
        exact absurd (congrArg Job.id (sound.sameInstance isIn.1 isJob same)) isIn.2
      · rw [settles.lastReconciled, settles.highWatermark]
        exact lane.low
      · rw [settles.stopped, settles.lastReconciled, settles.highWatermark]
        intro running owed notDropped
        exact .inl (settles.requeued running owed notDropped)
    · exact lane.congr (settles.states any isThis) (fun served same => kept served (same ▸ isThis))
        (settles.queued any isThis) settles.stopped (settles.dropped any isThis)

/-- The `catch` block changes no watermark, and leaves a failed instance dirty. -/
theorem catchBlock_spec (scheduler : Scheduler options) (instanceId : String)
    (failure : Option Failure) (now random : ℚ) :
    ∃ state : ProfileState,
      scheduler.catchBlock instanceId failure now random =
        scheduler.change instanceId (fun _ => state) ∧
      state.lastReconciled = (scheduler.states instanceId).lastReconciled ∧
      state.highWatermark = (scheduler.states instanceId).highWatermark ∧
      ((scheduler.states instanceId).dirty = true → state.dirty = true) ∧
      (failure = some .other → scheduler.stopped = false → state.dirty = true) := by
  unfold Scheduler.catchBlock
  split
  · exact ⟨_, rfl, rfl, rfl, fun _ => rfl, fun _ _ => rfl⟩
  · rename_i notOther
    refine ⟨scheduler.states instanceId, ?_, rfl, rfl, id, ?_⟩
    · rw [change, Function.update_eq_self]
    · exact fun isOther running => absurd ⟨isOther, running⟩ notOther

/-- The `finally` block queues a dirty instance again. -/
theorem finallyBlock_spec (scheduler : Scheduler options) (instanceId : String) :
    ∃ (state : ProfileState) (queue : List String),
      scheduler.finallyBlock instanceId =
        { scheduler.change instanceId (fun _ => state) with
          inFlight := scheduler.inFlight - 1, queue := queue } ∧
      state.active = false ∧
      state.lastReconciled = (scheduler.states instanceId).lastReconciled ∧
      state.highWatermark = (scheduler.states instanceId).highWatermark ∧
      (scheduler.queue.Nodup → queue.Nodup) ∧
      (∀ any, any ≠ instanceId → (any ∈ queue ↔ any ∈ scheduler.queue)) ∧
      ((scheduler.states instanceId).dirty = true → scheduler.stopped = false →
        instanceId ∈ queue) := by
  unfold Scheduler.finallyBlock
  simp only
  split
  · refine ⟨{ scheduler.states instanceId with active := false, dirty := false },
      (scheduler.enqueue instanceId).queue, ?_, rfl, rfl, rfl,
      fun nodup => enqueue_nodup nodup instanceId, fun any differs => ?_,
      fun _ _ => mem_enqueue.2 (.inr rfl)⟩
    · unfold enqueue change
      simp only [Function.update_self, Function.update_idem]
      split <;> rfl
    · rw [mem_enqueue]
      exact or_iff_left differs
  · rename_i notQueued
    refine ⟨{ scheduler.states instanceId with active := false }, scheduler.queue, rfl, rfl, rfl,
      rfl, id, fun _ _ => Iff.rfl, fun isDirty running => ?_⟩
    exact absurd ⟨isDirty, running⟩ notQueued

/-- A job that settles leaves nothing to reconcile, or leaves its instance dirty, or drops it. -/
theorem Sound.settles_job (sound : scheduler.Sound) (isJob : job ∈ scheduler.jobs)
    (isPhase : job.phase = .left failure) (now random : ℚ) :
    scheduler.Settles (((scheduler.jobOver job.id job.instanceId failure).catchBlock
      job.instanceId failure now random).finallyBlock job.instanceId) job := by
  obtain ⟨caught, isCaught, caughtLast, caughtHigh, staysDirty, failed⟩ :=
    catchBlock_spec (scheduler.jobOver job.id job.instanceId failure) job.instanceId failure now
      random
  rw [isCaught]
  obtain ⟨state, queue, isFinal, notActive, last, high, nodup, others, requeued⟩ :=
    finallyBlock_spec ((scheduler.jobOver job.id job.instanceId failure).change job.instanceId
      fun _ => caught) job.instanceId
  rw [isFinal]
  simp only [change, Function.update_self, Function.update_idem] at last high requeued ⊢
  refine ⟨rfl, rfl, rfl, rfl, rfl, rfl, fun any differs => Function.update_of_ne differs _ _,
    ?_, ?_, ?_, ?_, nodup sound.queue, others, ?_⟩
  · simpa only [Function.update_self] using notActive
  · simp only [Function.update_self]
    exact last.trans caughtLast
  · simp only [Function.update_self]
    exact high.trans caughtHigh
  · intro any differs
    simp only [jobOver]
    split
    · rw [isDropped]
      simp [Ne.symm differs]
    · rfl
  · intro running owed notDropped
    refine requeued ?_ running
    simp only [jobOver] at notDropped
    cases isDirty : (scheduler.states job.instanceId).dirty with
    | true => exact staysDirty isDirty
    | false =>
        have wasKept : ¬ (failure = some .abort ∧
            (scheduler.states job.instanceId).dirty = false) := by
          intro drops
          rw [if_pos drops, isDropped] at notDropped
          simp at notDropped
        rw [if_neg wasKept] at notDropped
        have serves := sound.serves isJob running owed notDropped
        unfold Serves at serves
        rw [isPhase, isDirty] at serves
        have isFailure : failure ≠ none := serves.resolve_left Bool.false_ne_true
        refine failed ?_ running
        match failure, isFailure with
        | some .other, _ => rfl
        | some .abort, _ => exact absurd ⟨rfl, isDirty⟩ wasKept

theorem Sound.settles (sound : scheduler.Sound) (id : Nat) (now random : ℚ) :
    (scheduler.settles id now random).Sound := by
  unfold Scheduler.settles
  split
  · rename_i id instanceId failure found
    obtain ⟨isJob, rfl⟩ := job?_some found
    exact sound.settled isJob (sound.settles_job isJob rfl now random)
  · exact sound

theorem Sound.stop (sound : scheduler.Sound) : scheduler.stop.Sound := by
  refine ⟨sound.ids, sound.fresh, sound.instances, sound.count, List.nodup_nil, ?_, ?_⟩
  · intro job isIn
    exact (sound.jobs job isIn).congr rfl id id
  · intro instanceId
    have lane := sound.lanes instanceId
    refine ⟨lane.active, lane.low, fun isIn => absurd isIn List.not_mem_nil, fun running => ?_⟩
    exact absurd running.symm Bool.false_ne_true

/-- Other users of the gates leave the jobs in them. -/
theorem Sound.gates (sound : scheduler.Sound) {profileGates : String → Gate 1 Ticket}
    {globalGate : Gate options.limit Ticket}
    (profile : ∀ instanceId id, .job id ∈ (scheduler.profileGates instanceId).active →
      .job id ∈ (profileGates instanceId).active)
    (global : ∀ id, .job id ∈ scheduler.globalGate.active → .job id ∈ globalGate.active) :
    Sound { scheduler with profileGates := profileGates, globalGate := globalGate } := by
  refine ⟨sound.ids, sound.fresh, sound.instances, sound.count, sound.queue, ?_, ?_⟩
  · intro job isIn
    exact (sound.jobs job isIn).congr rfl (profile job.instanceId job.id) (global job.id)
  · intro instanceId
    have lane := sound.lanes instanceId
    exact ⟨lane.active, lane.low, lane.queued, lane.served⟩

/-- A change of one profile's gate that keeps the jobs in it. -/
theorem update_active {gates : String → Gate 1 Ticket} {change : Gate 1 Ticket → Gate 1 Ticket}
    (keeps : ∀ gate id, .job id ∈ gate.active → .job id ∈ (change gate).active) (any : String)
    (id : Nat) (isActive : .job id ∈ (gates any).active) :
    .job id ∈ (Function.update gates instanceId (change (gates instanceId)) any).active := by
  by_cases isThis : any = instanceId
  · subst isThis
    rw [Function.update_self]
    exact keeps _ id isActive
  · rw [Function.update_of_ne isThis]
    exact isActive

theorem job_ne_other {first second : Nat} : Ticket.job first ≠ .other second :=
  nofun

theorem Sound.otherAcquires (sound : scheduler.Sound) (id : Nat) (instanceId : Option String) :
    (scheduler.otherAcquires id instanceId).Sound := by
  cases instanceId with
  | none => exact sound.gates (fun _ _ isIn => isIn) fun _ isIn => Gate.acquire_active isIn
  | some instanceId =>
      exact sound.gates (update_active fun _ _ isIn => Gate.acquire_active isIn)
        fun _ isIn => isIn

theorem Sound.otherEnters (sound : scheduler.Sound) (id : Nat) (instanceId : String) :
    (scheduler.otherEnters id instanceId).Sound := by
  unfold Scheduler.otherEnters
  split
  · exact sound.gates (fun _ _ isIn => isIn) fun _ isIn => Gate.acquire_active isIn
  · exact sound

theorem Sound.otherReleases (sound : scheduler.Sound) (id : Nat) (instanceId : Option String) :
    (scheduler.otherReleases id instanceId).Sound := by
  cases instanceId with
  | none =>
      exact sound.gates (fun _ _ isIn => isIn)
        fun _ isIn => Gate.release_active job_ne_other isIn
  | some instanceId =>
      exact sound.gates (update_active fun _ _ isIn => Gate.release_active job_ne_other isIn)
        fun _ isIn => Gate.release_active job_ne_other isIn

theorem Sound.step (sound : scheduler.Sound) (event : Event) : (scheduler.step event).Sound := by
  cases event with
  | submitWake instanceId highWatermark reason now =>
      exact sound.submitWake instanceId highWatermark reason now
  | pump now => exact sound.pump now
  | awakes id => exact sound.awakes id
  | entersProfile id => exact sound.entersProfile id
  | entersGlobal id => exact sound.entersGlobal id
  | answers id result => exact sound.answers id result
  | leaves id => exact sound.leaves id
  | gateRejects id => exact sound.gateRejects id
  | settles id now random => exact sound.settles id now random
  | stop => exact sound.stop
  | otherAcquires id instanceId => exact sound.otherAcquires id instanceId
  | otherEnters id instanceId => exact sound.otherEnters id instanceId
  | otherReleases id instanceId => exact sound.otherReleases id instanceId

theorem sound_initial (options : Options) : (createProfileScheduler options).Sound := by
  refine ⟨List.nodup_nil, nofun, List.nodup_nil, rfl, List.nodup_nil, nofun, fun instanceId => ?_⟩
  refine ⟨⟨nofun, ?_⟩, le_refl _, fun isIn => absurd isIn List.not_mem_nil, fun _ owed => ?_⟩
  · rintro ⟨job, isIn, -⟩
    exact absurd isIn List.not_mem_nil
  · exact absurd owed (lt_irrefl _)

/-- The invariant holds in every state of every run. -/
theorem sound_of_reachable (reached : (schedulerMachine options).Reachable scheduler) :
    scheduler.Sound :=
  reached.invariant (sound_initial options) fun _ event sound => sound.step event

end Scheduler

end Triangle.WakeScheduler
