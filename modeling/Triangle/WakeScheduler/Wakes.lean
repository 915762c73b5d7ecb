import Triangle.WakeScheduler.Lanes

/-!
# Wakes of a profile scheduler

No wake is lost while the scheduler is not stopped: when it is idle, every submitted watermark
is reconciled, unless its instance was dropped since. What reconciled it began after the wake,
or carried a watermark as high and was under way at the wake.
-/

namespace Triangle.WakeScheduler

open Triangle.Semantics Triangle.Std

variable {options : Options}

/-- The last harness call that reconciled an instance. -/
def lastReconciler (instanceId : String) : List Entry → Option HarnessCall
  | [] => none
  | .reconciled call :: older =>
      if call.instanceId = instanceId then some call else lastReconciler instanceId older
  | .submitted _ :: older => lastReconciler instanceId older
  | .began _ :: older => lastReconciler instanceId older
  | .dropped _ :: older => lastReconciler instanceId older

theorem lastReconciler_append (instanceId : String) (newer older : List Entry) :
    lastReconciler instanceId (newer ++ older) =
      (lastReconciler instanceId newer).or (lastReconciler instanceId older) := by
  induction newer with
  | nil => rfl
  | cons entry newer ih =>
      cases entry with
      | submitted | began | dropped => exact ih
      | reconciled call =>
          simp only [List.cons_append, lastReconciler]
          split
          · rfl
          · exact ih

/-- A wake ends what was dropped before it. -/
theorem isDropped_append {submission : Submission} (newer older : List Entry) :
    isDropped submission.instanceId (newer ++ .submitted submission :: older) =
      isDropped submission.instanceId newer := by
  induction newer with
  | nil => simp [isDropped]
  | cons entry newer ih =>
      cases entry <;> simp [isDropped, ih]

/-- The job waits for the harness. -/
def Phase.isCalling : Phase → Bool
  | .calling _ _ => true
  | .sleeping | .atProfile _ | .atGlobal _ | .ended _ | .left _ => false

namespace Scheduler

/-- The harness calls that are under way. -/
def calls (scheduler : Scheduler options) : List HarnessCall :=
  scheduler.jobs.filterMap Job.call?

variable {scheduler middle other : Scheduler options} {id : Nat} {job : Job} {phase : Phase}

variable {instanceId : String} {call : HarnessCall} {kind : CallKind} {highWatermark : Int}
  {newer entries : List Entry} {submission : Submission}

theorem mem_underWay :
    call ∈ scheduler.underWay instanceId ↔
      call ∈ scheduler.calls ∧ call.instanceId = instanceId := by
  rw [underWay, List.mem_filter, decide_eq_true_eq]
  rfl

/-- A harness call under way is that of a job. -/
theorem mem_calls :
    call ∈ scheduler.calls ↔ ∃ job ∈ scheduler.jobs,
      job.phase = .calling call.kind call.highWatermark ∧ job.id = call.job ∧
        job.instanceId = call.instanceId := by
  rw [calls, List.mem_filterMap]
  refine exists_congr fun job => and_congr_right fun _ => ?_
  unfold Job.call?
  split
  · rename_i isPhase
    rw [isPhase, Option.some.injEq, Phase.calling.injEq]
    constructor
    · rintro rfl
      exact ⟨⟨rfl, rfl⟩, rfl, rfl⟩
    · rintro ⟨⟨rfl, rfl⟩, same, sameInstance⟩
      rw [same, sameInstance]
  · rename_i notCalling
    refine ⟨nofun, fun ⟨isPhase, _⟩ => ?_⟩
    exact absurd isPhase (notCalling _ _)

/-! ## Steps -/

/-- A step that notes nothing, changes no watermark and begins no harness call. -/
structure Quiet (scheduler other : Scheduler options) : Prop where
  history : other.history = scheduler.history
  lastReconciled : ∀ instanceId, (other.states instanceId).lastReconciled =
    (scheduler.states instanceId).lastReconciled
  highWatermark : ∀ instanceId, (other.states instanceId).highWatermark =
    (scheduler.states instanceId).highWatermark
  calls : ∀ call ∈ other.calls, call ∈ scheduler.calls

theorem Quiet.refl (scheduler : Scheduler options) : Quiet scheduler scheduler :=
  ⟨rfl, fun _ => rfl, fun _ => rfl, fun _ isIn => isIn⟩

theorem Quiet.trans (first : Quiet scheduler middle) (second : Quiet middle other) :
    Quiet scheduler other where
  history := second.history.trans first.history
  lastReconciled := fun any => (second.lastReconciled any).trans (first.lastReconciled any)
  highWatermark := fun any => (second.highWatermark any).trans (first.highWatermark any)
  calls := fun call isIn => first.calls call (second.calls call isIn)

/-- A job that goes on to a phase in which it does not wait for the harness. -/
theorem quiet_setPhase (scheduler : Scheduler options) (id : Nat)
    (notCalling : phase.isCalling = false) :
    Quiet scheduler (scheduler.setPhase id phase) := by
  refine ⟨rfl, fun _ => rfl, fun _ => rfl, fun call isIn => ?_⟩
  obtain ⟨job, isJob, isPhase, rest⟩ := mem_calls.1 isIn
  obtain ⟨earlier, isEarlier, rfl⟩ := List.mem_map.1 isJob
  by_cases isThis : earlier.id = id
  · rw [if_pos isThis] at isPhase
    simp only at isPhase
    rw [isPhase] at notCalling
    exact nomatch notCalling
  · rw [if_neg isThis] at isPhase rest
    exact mem_calls.2 ⟨earlier, isEarlier, isPhase, rest⟩

/-- A change of the state of an instance that leaves its watermarks. -/
theorem quiet_change (scheduler : Scheduler options) (instanceId : String)
    {f : ProfileState → ProfileState}
    (last : ∀ state, (f state).lastReconciled = state.lastReconciled)
    (high : ∀ state, (f state).highWatermark = state.highWatermark) :
    Quiet scheduler (scheduler.change instanceId f) := by
  refine ⟨rfl, fun any => ?_, fun any => ?_, fun _ isIn => isIn⟩
  · by_cases isThis : any = instanceId
    · subst isThis
      rw [change_states_self, last]
    · rw [change_states_of_ne scheduler isThis]
  · by_cases isThis : any = instanceId
    · subst isThis
      rw [change_states_self, high]
    · rw [change_states_of_ne scheduler isThis]

/-- A change of the other fields. -/
theorem quiet_same (history : other.history = scheduler.history)
    (states : other.states = scheduler.states) (jobs : other.jobs = scheduler.jobs) :
    Quiet scheduler other := by
  refine ⟨history, fun _ => by rw [states], fun _ => by rw [states], fun call isIn => ?_⟩
  rwa [calls, jobs] at isIn

theorem quiet_callGate (scheduler : Scheduler options) (id : Nat) (instanceId : String) :
    Quiet scheduler (scheduler.callGate id instanceId) :=
  (quiet_setPhase scheduler id rfl).trans (quiet_same rfl rfl rfl)

theorem quiet_runState (scheduler : Scheduler options) (now : String → ℚ) (instanceId : String) :
    Quiet scheduler (scheduler.runState now instanceId) := by
  unfold runState
  simp only
  have started : Quiet scheduler {
      scheduler.change instanceId ({ · with active := true }) with
      inFlight := scheduler.inFlight + 1
      jobs := scheduler.jobs ++
        [{ id := scheduler.nextJob, instanceId := instanceId, phase := .sleeping }]
      nextJob := scheduler.nextJob + 1 } := by
    have changed : Quiet scheduler (scheduler.change instanceId ({ · with active := true })) :=
      quiet_change scheduler instanceId (fun _ => rfl) (fun _ => rfl)
    refine ⟨rfl, changed.lastReconciled, changed.highWatermark, fun call isIn => ?_⟩
    obtain ⟨job, isJob, isPhase, rest⟩ := mem_calls.1 isIn
    rcases List.mem_append.1 isJob with isJob | isNew
    · exact mem_calls.2 ⟨job, isJob, isPhase, rest⟩
    · rw [List.mem_singleton.1 isNew] at isPhase
      exact nomatch isPhase
  split
  · exact started
  · exact started.trans (quiet_callGate _ _ _)

theorem quiet_pumpQueue (now : String → ℚ) (queue : List String) (scheduler : Scheduler options) :
    Quiet scheduler (pumpQueue now queue scheduler) := by
  induction queue generalizing scheduler with
  | nil => exact .refl scheduler
  | cons instanceId rest ih =>
      rw [pumpQueue_cons]
      split
      · refine .trans ?_ (ih _)
        exact quiet_same rfl rfl rfl
      · refine .trans (.trans ?_ (quiet_runState _ now instanceId)) (ih _)
        exact quiet_same rfl rfl rfl

theorem quiet_pump (scheduler : Scheduler options) (now : String → ℚ) :
    Quiet scheduler (scheduler.pump now) := by
  unfold pump
  split
  · exact .refl scheduler
  · exact quiet_pumpQueue now scheduler.queue scheduler

theorem quiet_enqueue (scheduler : Scheduler options) (instanceId : String) :
    Quiet scheduler (scheduler.enqueue instanceId) := by
  unfold enqueue
  split
  · exact .refl scheduler
  · exact quiet_same rfl rfl rfl

/-- What a step does to the watermarks: it raises high watermarks only, reconciles by harness
calls that were under way, and notes the calls that it begins. -/
structure Evolves (scheduler other : Scheduler options) (entries : List Entry) : Prop where
  history : other.history = entries ++ scheduler.history
  raised : ∀ instanceId, (scheduler.states instanceId).highWatermark ≤
    (other.states instanceId).highWatermark
  unchanged : ∀ instanceId, lastReconciler instanceId entries = none →
    (other.states instanceId).lastReconciled = (scheduler.states instanceId).lastReconciled
  reconciled : ∀ instanceId call, lastReconciler instanceId entries = some call →
    (other.states instanceId).lastReconciled = call.highWatermark ∧
      call ∈ scheduler.underWay instanceId
  calls : ∀ call ∈ other.calls, .began call ∈ entries ∨ call ∈ scheduler.calls

theorem Quiet.evolves (quiet : Quiet scheduler other) : Evolves scheduler other [] where
  history := quiet.history
  raised := fun instanceId => le_of_eq (quiet.highWatermark instanceId).symm
  unchanged := fun instanceId _ => quiet.lastReconciled instanceId
  reconciled := fun _ _ => nofun
  calls := fun call isIn => .inr (quiet.calls call isIn)

theorem Evolves.quiet {entries : List Entry} (evolves : Evolves scheduler middle entries)
    (quiet : Quiet middle other) : Evolves scheduler other entries where
  history := quiet.history.trans evolves.history
  raised := by
    intro instanceId
    rw [quiet.highWatermark]
    exact evolves.raised instanceId
  unchanged := by
    intro instanceId
    rw [quiet.lastReconciled]
    exact evolves.unchanged instanceId
  reconciled := by
    intro instanceId
    rw [quiet.lastReconciled]
    exact evolves.reconciled instanceId
  calls := fun call isIn => evolves.calls call (quiet.calls call isIn)

/-- A job begins a harness call. -/
theorem Sound.beginCall_evolves (sound : scheduler.Sound) (isJob : job ∈ scheduler.jobs)
    (kind : CallKind) (highWatermark : Int) :
    Evolves scheduler (scheduler.beginCall ⟨job.id, kind, job.instanceId, highWatermark⟩)
      [.began ⟨job.id, kind, job.instanceId, highWatermark⟩] := by
  refine ⟨rfl, fun _ => le_refl _, fun _ _ => rfl, fun _ _ => nofun, fun call isIn => ?_⟩
  obtain ⟨any, isAny, isPhase, same, sameInstance⟩ := mem_calls.1 isIn
  rcases (sound.mem_setPhase isJob).1 isAny with rfl | ⟨isAny, -⟩
  · obtain ⟨sameKind, sameHigh⟩ := Phase.calling.inj isPhase
    refine .inl (List.mem_singleton.2 ?_)
    simp only at same sameInstance sameKind sameHigh
    rw [sameKind, sameHigh, same, sameInstance]
  · exact .inr (mem_calls.2 ⟨any, isAny, isPhase, same, sameInstance⟩)

/-- A harness call that was under way reconciles its instance. -/
theorem reconcile_evolves (isJob : job ∈ scheduler.jobs)
    (isPhase : job.phase = .calling kind highWatermark) :
    Evolves scheduler (scheduler.reconcile ⟨job.id, kind, job.instanceId, highWatermark⟩)
      [.reconciled ⟨job.id, kind, job.instanceId, highWatermark⟩] := by
  let call : HarnessCall := ⟨job.id, kind, job.instanceId, highWatermark⟩
  have isUnderWay : call ∈ scheduler.underWay job.instanceId :=
    mem_underWay.2 ⟨mem_calls.2 ⟨job, isJob, isPhase, rfl, rfl⟩, rfl⟩
  have ended : Quiet scheduler (scheduler.setPhase job.id (.ended none)) :=
    quiet_setPhase scheduler job.id rfl
  have other (any : String) (differs : any ≠ job.instanceId) :
      (scheduler.reconcile call).states any = scheduler.states any :=
    Function.update_of_ne differs _ _
  have this : (scheduler.reconcile call).states job.instanceId =
      { scheduler.states job.instanceId with lastReconciled := highWatermark } :=
    Function.update_self _ _ _
  refine ⟨rfl, fun any => ?_, fun any unread => ?_, fun any reader isReader => ?_,
    fun call isIn => .inr (ended.calls call isIn)⟩
  · by_cases isThis : any = job.instanceId
    · subst isThis
      rw [this]
    · rw [other any isThis]
  · have differs : any ≠ job.instanceId := by
      rintro rfl
      simp [lastReconciler] at unread
    rw [other any differs]
  · simp only [lastReconciler] at isReader
    split at isReader
    · rename_i isThis
      subst isThis
      rw [← Option.some.inj isReader, this]
      exact ⟨rfl, isUnderWay⟩
    · exact nomatch isReader

/-- What a wake finds of its instance. -/
def submissionOf (scheduler : Scheduler options) (instanceId : String) (watermark : Int)
    (reason : String) : Submission where
  instanceId := instanceId
  watermark := watermark
  reason := reason
  lastReconciled := (scheduler.states instanceId).lastReconciled
  highWatermark := (scheduler.states instanceId).highWatermark
  underWay := scheduler.underWay instanceId

theorem noteWake_state (scheduler : Scheduler options) (instanceId : String) (watermark : Int)
    (reason : String) :
    (scheduler.noteWake instanceId watermark reason).states instanceId =
      raise watermark reason (scheduler.states instanceId) :=
  Function.update_self _ _ _

theorem noteWake_other (scheduler : Scheduler options) {instanceId any : String}
    (differs : any ≠ instanceId) (watermark : Int) (reason : String) :
    (scheduler.noteWake instanceId watermark reason).states any = scheduler.states any :=
  Function.update_of_ne differs _ _

theorem noteWake_evolves (scheduler : Scheduler options) (instanceId : String) (watermark : Int)
    (reason : String) :
    Evolves scheduler (scheduler.noteWake instanceId watermark reason)
      [.submitted (scheduler.submissionOf instanceId watermark reason)] := by
  obtain ⟨-, raises, higher⟩ := raise_spec watermark reason (scheduler.states instanceId)
  refine ⟨rfl, fun any => ?_, fun any _ => ?_, fun _ _ => nofun, fun call isIn => .inr isIn⟩
  · by_cases isThis : any = instanceId
    · subst isThis
      rw [noteWake_state]
      exact higher
    · rw [noteWake_other scheduler isThis]
  · by_cases isThis : any = instanceId
    · subst isThis
      rw [noteWake_state, raises]
    · rw [noteWake_other scheduler isThis]

/-- A wake that is taken is noted with what it finds, and its watermark is reached. -/
theorem submitWake_evolves (scheduler : Scheduler options) (instanceId : String)
    (highWatermark : Option Int) (reason : String) (now : String → ℚ) :
    Quiet scheduler (scheduler.submitWake instanceId highWatermark reason now) ∨
      Evolves scheduler (scheduler.submitWake instanceId highWatermark reason now)
        [.submitted (scheduler.submissionOf instanceId (watermarkOf highWatermark) reason)] ∧
      watermarkOf highWatermark ≤ ((scheduler.submitWake instanceId highWatermark reason
        now).states instanceId).highWatermark := by
  unfold submitWake
  split
  · exact .inl (.refl scheduler)
  · right
    have evolves := noteWake_evolves scheduler instanceId (watermarkOf highWatermark) reason
    have reaches : watermarkOf highWatermark ≤ ((scheduler.noteWake instanceId
        (watermarkOf highWatermark) reason).states instanceId).highWatermark := by
      rw [noteWake_state]
      exact (raise_spec _ reason _).1
    simp only
    split
    · have told := quiet_change (scheduler.noteWake instanceId (watermarkOf highWatermark) reason)
        instanceId (f := ({ · with dirty := true })) (fun _ => rfl) (fun _ => rfl)
      refine ⟨evolves.quiet told, ?_⟩
      rw [told.highWatermark]
      exact reaches
    · have pumped := (quiet_enqueue (scheduler.noteWake instanceId (watermarkOf highWatermark)
        reason) instanceId).trans (quiet_pump _ now)
      refine ⟨evolves.quiet pumped, ?_⟩
      rw [pumped.highWatermark]
      exact reaches

/-- A step that does not take a wake evolves the scheduler and notes no submission. -/
def Goes (scheduler other : Scheduler options) : Prop :=
  ∃ entries, Evolves scheduler other entries ∧ ∀ submission, .submitted submission ∉ entries

theorem Quiet.goes (quiet : Quiet scheduler other) : Goes scheduler other :=
  ⟨[], quiet.evolves, fun _ => List.not_mem_nil⟩

theorem Goes.quiet (goes : Goes scheduler middle) (quiet : Quiet middle other) :
    Goes scheduler other := by
  obtain ⟨entries, evolves, noWake⟩ := goes
  exact ⟨entries, evolves.quiet quiet, noWake⟩

theorem goes_same (history : other.history = scheduler.history)
    (states : other.states = scheduler.states) (jobs : other.jobs = scheduler.jobs) :
    Goes scheduler other :=
  (quiet_same history states jobs).goes

/-- A job that goes on to a phase in which it does not wait for the harness, with a change of
the gates. -/
theorem goes_phase (phase : Phase) (notCalling : phase.isCalling = false)
    (history : other.history = scheduler.history) (states : other.states = scheduler.states)
    (jobs : other.jobs = (scheduler.setPhase id phase).jobs) : Goes scheduler other :=
  ((quiet_setPhase scheduler id notCalling).trans (quiet_same history states jobs)).goes

theorem awakes_goes (scheduler : Scheduler options) (id : Nat) :
    Goes scheduler (scheduler.awakes id) := by
  unfold awakes
  split
  · split
    · exact (quiet_setPhase scheduler id rfl).goes
    · exact (quiet_callGate scheduler id _).goes
  · exact (Quiet.refl scheduler).goes

theorem entersProfile_goes (scheduler : Scheduler options) (id : Nat) :
    Goes scheduler (scheduler.entersProfile id) := by
  unfold entersProfile
  split
  · split
    · split
      · exact goes_phase (.left _) rfl rfl rfl rfl
      · exact goes_phase (.atGlobal _) rfl rfl rfl rfl
    · exact (Quiet.refl scheduler).goes
  · exact (Quiet.refl scheduler).goes

theorem Sound.beginCall_goes (sound : scheduler.Sound) (isJob : job ∈ scheduler.jobs)
    (kind : CallKind) (highWatermark : Int) :
    Goes scheduler (scheduler.beginCall ⟨job.id, kind, job.instanceId, highWatermark⟩) :=
  ⟨_, sound.beginCall_evolves isJob kind highWatermark, by simp⟩

theorem reconcile_goes (isJob : job ∈ scheduler.jobs)
    (isPhase : job.phase = .calling kind highWatermark) :
    Goes scheduler (scheduler.reconcile ⟨job.id, kind, job.instanceId, highWatermark⟩) :=
  ⟨_, reconcile_evolves isJob isPhase, by simp⟩

theorem Sound.entersGlobal_goes (sound : scheduler.Sound) (id : Nat) :
    Goes scheduler (scheduler.entersGlobal id) := by
  unfold Scheduler.entersGlobal
  split
  · rename_i found
    obtain ⟨isJob, rfl⟩ := job?_some found
    split
    · split
      · exact (quiet_setPhase scheduler _ rfl).goes
      · exact sound.beginCall_goes isJob _ _
    · exact (Quiet.refl scheduler).goes
  · exact (Quiet.refl scheduler).goes

theorem quiet_resetBackoff (scheduler : Scheduler options) (instanceId : String) :
    Quiet scheduler (scheduler.resetBackoff instanceId) :=
  quiet_change scheduler instanceId (fun _ => rfl) (fun _ => rfl)

theorem Sound.answers_goes (sound : scheduler.Sound) (id : Nat) (result : HarnessResult) :
    Goes scheduler (scheduler.answers id result) := by
  unfold Scheduler.answers
  split
  · rename_i instanceId _ _ found
    obtain ⟨isJob, rfl⟩ := job?_some found
    split
    · exact (quiet_setPhase scheduler _ rfl).goes
    · exact sound.beginCall_goes isJob _ _
    · exact reconcile_goes isJob rfl
    · refine (Quiet.trans ?_ (quiet_resetBackoff _ _)).goes
      exact (quiet_setPhase scheduler _ rfl).trans
        (quiet_change _ _ (fun _ => rfl) (fun _ => rfl))
    · exact (reconcile_goes isJob rfl).quiet (quiet_resetBackoff _ _)
  · exact (Quiet.refl scheduler).goes

theorem leaves_goes (scheduler : Scheduler options) (id : Nat) :
    Goes scheduler (scheduler.leaves id) := by
  unfold leaves
  split
  · exact goes_phase (.left _) rfl rfl rfl rfl
  · exact (Quiet.refl scheduler).goes

theorem gateRejects_goes (scheduler : Scheduler options) (id : Nat) :
    Goes scheduler (scheduler.gateRejects id) := by
  unfold gateRejects
  split
  · exact (Quiet.refl scheduler).goes
  · split
    · split
      · exact goes_phase (.left _) rfl rfl rfl rfl
      · exact (Quiet.refl scheduler).goes
    · split
      · exact goes_phase (.left _) rfl rfl rfl rfl
      · exact (Quiet.refl scheduler).goes
    · exact (Quiet.refl scheduler).goes

theorem jobOver_goes (scheduler : Scheduler options) (id : Nat) (instanceId : String)
    (failure : Option Failure) : Goes scheduler (scheduler.jobOver id instanceId failure) := by
  have calls : ∀ call ∈ (scheduler.jobOver id instanceId failure).calls,
      call ∈ scheduler.calls := by
    intro call isIn
    obtain ⟨job, isJob, rest⟩ := mem_calls.1 isIn
    exact mem_calls.2 ⟨job, (List.mem_filter.1 isJob).1, rest⟩
  by_cases drops : failure = some .abort ∧ (scheduler.states instanceId).dirty = false
  · refine ⟨[.dropped instanceId], ⟨?_, fun _ => le_refl _, fun _ _ => rfl, fun _ _ => by intros; contradiction,
      fun call isIn => .inr (calls call isIn)⟩, by simp⟩
    simp only [jobOver, if_pos drops, List.singleton_append]
  · refine ⟨[], ⟨?_, fun _ => le_refl _, fun _ _ => rfl, fun _ _ => by intros; contradiction,
      fun call isIn => .inr (calls call isIn)⟩, by simp⟩
    simp only [jobOver, if_neg drops, List.nil_append]

theorem quiet_catchBlock (scheduler : Scheduler options) (instanceId : String)
    (failure : Option Failure) (now random : ℚ) :
    Quiet scheduler (scheduler.catchBlock instanceId failure now random) := by
  unfold catchBlock
  split
  · exact quiet_change scheduler instanceId (fun _ => rfl) (fun _ => rfl)
  · exact .refl scheduler

theorem quiet_finallyBlock (scheduler : Scheduler options) (instanceId : String) :
    Quiet scheduler (scheduler.finallyBlock instanceId) := by
  have ended : Quiet scheduler { scheduler.change instanceId ({ · with active := false }) with
      inFlight := scheduler.inFlight - 1 } := by
    have inactive := quiet_change scheduler instanceId (f := ({ · with active := false }))
      (fun _ => rfl) (fun _ => rfl)
    exact inactive.trans (quiet_same rfl rfl rfl)
  unfold finallyBlock
  simp only
  split
  · refine ended.trans (.trans ?_ (quiet_enqueue _ _))
    exact quiet_change _ _ (fun _ => rfl) (fun _ => rfl)
  · exact ended

theorem settles_goes (scheduler : Scheduler options) (id : Nat) (now random : ℚ) :
    Goes scheduler (scheduler.settles id now random) := by
  unfold settles
  split
  · exact ((jobOver_goes scheduler id _ _).quiet (quiet_catchBlock _ _ _ _ _)).quiet
      (quiet_finallyBlock _ _)
  · exact (Quiet.refl scheduler).goes

theorem otherAcquires_goes (scheduler : Scheduler options) (id : Nat)
    (instanceId : Option String) : Goes scheduler (scheduler.otherAcquires id instanceId) := by
  cases instanceId with
  | none | some => exact goes_same rfl rfl rfl

theorem otherEnters_goes (scheduler : Scheduler options) (id : Nat) (instanceId : String) :
    Goes scheduler (scheduler.otherEnters id instanceId) := by
  unfold otherEnters
  split
  · exact goes_same rfl rfl rfl
  · exact (Quiet.refl scheduler).goes

theorem otherReleases_goes (scheduler : Scheduler options) (id : Nat)
    (instanceId : Option String) : Goes scheduler (scheduler.otherReleases id instanceId) := by
  cases instanceId with
  | none | some => exact goes_same rfl rfl rfl

/-! ## What is recorded -/

/-- What the scheduler keeps of an instance fits a wake of it: the watermark is reached, and
what has reconciled the instance since the wake began after it or was under way at it. -/
structure SubmissionOk (scheduler : Scheduler options) (newer : List Entry)
    (submission : Submission) : Prop where
  raised : submission.watermark ≤ (scheduler.states submission.instanceId).highWatermark
  below : ∀ call ∈ submission.underWay, call.highWatermark ≤ submission.highWatermark
  unchanged : lastReconciler submission.instanceId newer = none →
    (scheduler.states submission.instanceId).lastReconciled = submission.lastReconciled
  reconciled : ∀ call, lastReconciler submission.instanceId newer = some call →
    (scheduler.states submission.instanceId).lastReconciled = call.highWatermark ∧
      (.began call ∈ newer ∨ call ∈ submission.underWay)
  underWay : ∀ call ∈ scheduler.underWay submission.instanceId,
    .began call ∈ newer ∨ call ∈ submission.underWay

/-- Every wake of the history fits. -/
def Recorded (scheduler : Scheduler options) : Prop :=
  ∀ newer submission older, scheduler.history = newer ++ .submitted submission :: older →
    scheduler.SubmissionOk newer submission

theorem SubmissionOk.evolves (ok : scheduler.SubmissionOk newer submission)
    (evolves : Evolves scheduler other entries) :
    other.SubmissionOk (entries ++ newer) submission where
  raised := le_trans ok.raised (evolves.raised _)
  below := ok.below
  unchanged := by
    rw [lastReconciler_append, Option.or_eq_none_iff]
    rintro ⟨noneNew, noneBefore⟩
    rw [evolves.unchanged _ noneNew, ok.unchanged noneBefore]
  reconciled := by
    intro call isLast
    rw [lastReconciler_append] at isLast
    cases isNew : lastReconciler submission.instanceId entries with
    | some newest =>
        rw [isNew, Option.some_or, Option.some.injEq] at isLast
        subst isLast
        obtain ⟨same, isUnderWay⟩ := evolves.reconciled _ newest isNew
        refine ⟨same, (ok.underWay newest isUnderWay).imp_left ?_⟩
        exact List.mem_append_right _
    | none =>
        rw [isNew, Option.none_or] at isLast
        obtain ⟨same, began⟩ := ok.reconciled call isLast
        rw [evolves.unchanged _ isNew]
        exact ⟨same, began.imp_left (List.mem_append_right _)⟩
  underWay := by
    intro call isUnderWay
    obtain ⟨isCall, isInstance⟩ := mem_underWay.1 isUnderWay
    rcases evolves.calls call isCall with isNew | isBefore
    · exact .inl (List.mem_append_left _ isNew)
    · exact (ok.underWay call (mem_underWay.2 ⟨isBefore, isInstance⟩)).imp_left
        (List.mem_append_right _)

theorem Recorded.goes (recorded : scheduler.Recorded) (goes : Goes scheduler other) :
    other.Recorded := by
  obtain ⟨entries, evolves, noWake⟩ := goes
  intro newer submission older isSplit
  rw [evolves.history] at isSplit
  rcases List.append_eq_append_iff.1 isSplit with ⟨rest, rfl, isRest⟩ | ⟨rest, isEntries, isRest⟩
  · exact (recorded rest submission older isRest).evolves evolves
  · cases rest with
    | nil =>
        rw [List.append_nil] at isEntries
        have ok := (recorded [] submission older isRest.symm).evolves evolves
        rwa [List.append_nil, isEntries] at ok
    | cons entry rest =>
        rw [(List.cons.inj isRest).1.symm] at isEntries
        exact absurd (isEntries ▸ List.mem_append_right _ List.mem_cons_self)
          (noWake submission)

/-- A wake that is taken fits from then on. -/
theorem Recorded.submitWake (recorded : scheduler.Recorded) (sound : scheduler.Sound)
    (instanceId : String) (highWatermark : Option Int) (reason : String) (now : String → ℚ) :
    (scheduler.submitWake instanceId highWatermark reason now).Recorded := by
  rcases submitWake_evolves scheduler instanceId highWatermark reason now with
    quiet | ⟨evolves, reaches⟩
  · exact recorded.goes quiet.goes
  · intro newer submission older isSplit
    rw [evolves.history] at isSplit
    cases newer with
    | nil =>
        obtain ⟨isThis, rfl⟩ := List.cons.inj isSplit
        rw [← Entry.submitted.inj isThis]
        refine ⟨reaches, fun call isUnderWay => ?_, fun _ => evolves.unchanged _ rfl,
          fun _ => nofun, fun call isUnderWay => .inr ?_⟩
        · obtain ⟨isCall, isInstance⟩ := mem_underWay.1 isUnderWay
          obtain ⟨job, isJob, isPhase, -, sameInstance⟩ := mem_calls.1 isCall
          have below := (sound.jobs job isJob).below call.highWatermark (by rw [isPhase]; rfl)
          rwa [sameInstance, isInstance] at below
        · obtain ⟨isCall, isInstance⟩ := mem_underWay.1 isUnderWay
          rcases evolves.calls call isCall with began | isBefore
          · exact nomatch List.mem_singleton.1 began
          · exact mem_underWay.2 ⟨isBefore, isInstance⟩
    | cons entry newer =>
        obtain ⟨rfl, isRest⟩ := List.cons.inj isSplit
        exact (recorded newer submission older isRest).evolves evolves

/-- An event is a wake, or a step that goes on. -/
theorem Sound.step_goes (sound : scheduler.Sound) (event : Event) :
    (∃ instanceId highWatermark reason now,
      event = .submitWake instanceId highWatermark reason now) ∨
      Goes scheduler (scheduler.step event) := by
  cases event with
  | submitWake instanceId highWatermark reason now =>
      exact .inl ⟨instanceId, highWatermark, reason, now, rfl⟩
  | pump now => exact .inr (quiet_pump scheduler now).goes
  | awakes id => exact .inr (awakes_goes scheduler id)
  | entersProfile id => exact .inr (entersProfile_goes scheduler id)
  | entersGlobal id => exact .inr (sound.entersGlobal_goes id)
  | answers id result => exact .inr (sound.answers_goes id result)
  | leaves id => exact .inr (leaves_goes scheduler id)
  | gateRejects id => exact .inr (gateRejects_goes scheduler id)
  | settles id now random => exact .inr (settles_goes scheduler id now random)
  | stop => exact .inr (goes_same rfl rfl rfl)
  | otherAcquires id instanceId => exact .inr (otherAcquires_goes scheduler id instanceId)
  | otherEnters id instanceId => exact .inr (otherEnters_goes scheduler id instanceId)
  | otherReleases id instanceId => exact .inr (otherReleases_goes scheduler id instanceId)

theorem Recorded.step (recorded : scheduler.Recorded) (sound : scheduler.Sound) (event : Event) :
    (scheduler.step event).Recorded := by
  rcases sound.step_goes event with ⟨instanceId, highWatermark, reason, now, rfl⟩ | goes
  · exact recorded.submitWake sound instanceId highWatermark reason now
  · exact recorded.goes goes

/-- Every wake fits in every state of every run. -/
theorem recorded_of_reachable (reached : (schedulerMachine options).Reachable scheduler) :
    scheduler.Recorded := by
  have start : (createProfileScheduler options).Sound ∧ (createProfileScheduler options).Recorded :=
    ⟨sound_initial options, fun newer submission older isSplit => by
      exact absurd isSplit.symm (List.append_ne_nil_of_right_ne_nil _ (List.cons_ne_nil _ _))⟩
  have kept : ∀ scheduler event, scheduler.Sound ∧ scheduler.Recorded →
      ((schedulerMachine options).step scheduler event).Sound ∧
        ((schedulerMachine options).step scheduler event).Recorded := by
    rintro scheduler event ⟨sound, recorded⟩
    exact ⟨sound.step event, recorded.step sound event⟩
  exact (@Machine.Reachable.invariant _ _ (schedulerMachine options)
    (fun scheduler => scheduler.Sound ∧ scheduler.Recorded) start kept scheduler reached).2

section

variable (sound : scheduler.Sound)
include sound

/-- A harness call that reconciles its instance is above what is reconciled. -/
theorem Sound.evolves_mono (evolves : Evolves scheduler other entries) (instanceId : String) :
    (scheduler.states instanceId).lastReconciled ≤ (other.states instanceId).lastReconciled := by
  cases isLast : lastReconciler instanceId entries with
  | none => exact le_of_eq (evolves.unchanged instanceId isLast).symm
  | some call =>
      obtain ⟨same, isUnderWay⟩ := evolves.reconciled instanceId call isLast
      obtain ⟨isCall, isInstance⟩ := mem_underWay.1 isUnderWay
      obtain ⟨job, isJob, isPhase, -, sameInstance⟩ := mem_calls.1 isCall
      have above := (sound.jobs job isJob).above call.kind call.highWatermark isPhase
      rw [sameInstance, isInstance] at above
      rw [same]
      exact le_of_lt above

/-- No step takes back what is reconciled. -/
theorem Sound.step_mono (event : Event) (instanceId : String) :
    (scheduler.states instanceId).lastReconciled ≤
      ((scheduler.step event).states instanceId).lastReconciled := by
  have mono (goes : Goes scheduler (scheduler.step event)) :
      (scheduler.states instanceId).lastReconciled ≤
        ((scheduler.step event).states instanceId).lastReconciled := by
    obtain ⟨entries, evolves, -⟩ := goes
    exact sound.evolves_mono evolves instanceId
  rcases sound.step_goes event with ⟨submitted, highWatermark, reason, now, rfl⟩ | goes
  · rcases submitWake_evolves scheduler submitted highWatermark reason now with
      quiet | ⟨evolves, -⟩
    · exact mono quiet.goes
    · exact sound.evolves_mono evolves instanceId
  · exact mono goes

/-- An idle scheduler that is not stopped has reconciled every instance that was not dropped. -/
theorem Sound.reconciled_of_idle (idle : scheduler.IsIdle) (running : scheduler.stopped = false)
    (notDropped : isDropped instanceId scheduler.history = false) :
    (scheduler.states instanceId).highWatermark ≤
      (scheduler.states instanceId).lastReconciled := by
  by_contra owed
  have lane := sound.lanes instanceId
  rcases lane.served running (not_le.1 owed) notDropped with queued | ⟨job, isJob, isInstance, -⟩
  · rw [idle.1] at queued
    exact absurd queued List.not_mem_nil
  · have isActive := lane.active.2 ⟨job, isJob, isInstance⟩
    exact absurd ((idle.2.2 instanceId).symm.trans isActive) Bool.false_ne_true

/-- A scheduler without queue and jobs is idle. -/
theorem Sound.isIdle (noQueue : scheduler.queue = []) (noJobs : scheduler.jobs = []) :
    scheduler.IsIdle := by
  refine ⟨noQueue, ?_, fun instanceId => ?_⟩
  · rw [sound.count, noJobs]
    rfl
  · rw [← Bool.not_eq_true, (sound.lanes instanceId).active, noJobs]
    rintro ⟨job, isIn, -⟩
    exact absurd isIn List.not_mem_nil

end

/-- The wake has been served: what is reconciled reaches its watermark. Where it was not reached
before, it was set by a harness call that began after the wake, or that was under way then with a
watermark as high; and by one that began after the wake where this raised the high watermark. -/
def Serviced (scheduler : Scheduler options) (newer : List Entry) (submission : Submission) :
    Prop :=
  submission.watermark ≤ (scheduler.states submission.instanceId).lastReconciled ∧
    (submission.lastReconciled < submission.watermark →
      ∃ call, lastReconciler submission.instanceId newer = some call ∧
        (scheduler.states submission.instanceId).lastReconciled = call.highWatermark ∧
        (.began call ∈ newer ∨
          call ∈ submission.underWay ∧ submission.watermark ≤ call.highWatermark) ∧
        (submission.highWatermark < submission.watermark → .began call ∈ newer))

theorem SubmissionOk.serviced (ok : scheduler.SubmissionOk newer submission)
    (reconciled : (scheduler.states submission.instanceId).highWatermark ≤
      (scheduler.states submission.instanceId).lastReconciled) :
    scheduler.Serviced newer submission := by
  have covered := le_trans ok.raised reconciled
  refine ⟨covered, fun notYet => ?_⟩
  cases isLast : lastReconciler submission.instanceId newer with
  | none =>
      rw [ok.unchanged isLast] at covered
      exact absurd covered (not_le.2 notYet)
  | some call =>
      obtain ⟨same, began⟩ := ok.reconciled call isLast
      rw [same] at covered
      refine ⟨call, rfl, same, began.imp_right fun isUnderWay => ⟨isUnderWay, covered⟩, ?_⟩
      intro isHigher
      refine began.resolve_right fun isUnderWay => ?_
      exact absurd (le_trans covered (ok.below call isUnderWay)) (not_le.2 isHigher)

end Scheduler

/-! ## Runs -/

/-- In every run of a scheduler an instance has one job at most, and harness calls are made in
the gates only. While the scheduler is idle and not stopped, every wake was served whose
instance was not dropped since. What is reconciled never decreases and never exceeds the high
watermark. -/
theorem scheduler_serves_wakes {scheduler : Scheduler options}
    (reached : (schedulerMachine options).Reachable scheduler) :
    (scheduler.jobs.map (·.instanceId)).Nodup ∧
    (∀ job ∈ scheduler.jobs, ∀ kind highWatermark, job.phase = .calling kind highWatermark →
      .job job.id ∈ (scheduler.profileGates job.instanceId).active ∧
        .job job.id ∈ scheduler.globalGate.active) ∧
    (scheduler.IsIdle → scheduler.stopped = false → ∀ newer submission older,
      scheduler.history = newer ++ .submitted submission :: older →
      isDropped submission.instanceId newer = false → scheduler.Serviced newer submission) ∧
    (∀ event instanceId, (scheduler.states instanceId).lastReconciled ≤
      ((scheduler.step event).states instanceId).lastReconciled) ∧
    ∀ instanceId, (scheduler.states instanceId).lastReconciled ≤
      (scheduler.states instanceId).highWatermark := by
  have sound := Scheduler.sound_of_reachable reached
  refine ⟨sound.instances, ?_, ?_, sound.step_mono, fun instanceId => (sound.lanes instanceId).low⟩
  · intro job isJob kind highWatermark isPhase
    have ok := sound.jobs job isJob
    exact ⟨ok.profile (by rw [isPhase]; rfl), ok.global (by rw [isPhase]; rfl)⟩
  · intro idle running newer submission older isSplit notDropped
    refine (Scheduler.recorded_of_reachable reached newer submission older isSplit).serviced ?_
    refine sound.reconciled_of_idle idle running ?_
    rw [isSplit, isDropped_append]
    exact notDropped

theorem sample_maxPositive : (1 : Int) ≤ 300000 := by decide

/-- Two reasoners at once, back-off from 15 seconds to 5 minutes. -/
def sampleOptions : Options where
  limit := 2
  initialBackoffMs := 15000
  maxBackoffMs := 300000
  idleJitterRatio := 1 / 10
  limitPositive := by decide
  initialPositive := by decide
  maxPositive := sample_maxPositive

/-- A job goes through the gates, and the mailbox is found empty. -/
def reconcileRun (job : Nat) : List Event :=
  [.entersProfile job, .entersGlobal job, .answers job (.answered false), .leaves job,
    .settles job 0 0, .pump fun _ => 0]

/-- A wake is reconciled. -/
def wakeRun : List Event :=
  .submitWake "a" (some 10) "wake" (fun _ => 0) :: reconcileRun 0

theorem wakeRun_serviced :
    ((schedulerMachine sampleOptions).run wakeRun).Serviced
      [.reconciled ⟨0, .preflight, "a", 10⟩, .began ⟨0, .preflight, "a", 10⟩]
      ⟨"a", 10, "wake", 0, 0, []⟩ := by
  have reached : (schedulerMachine sampleOptions).Reachable
      ((schedulerMachine sampleOptions).run wakeRun) := ⟨wakeRun, rfl⟩
  have idle : ((schedulerMachine sampleOptions).run wakeRun).IsIdle :=
    (Scheduler.sound_of_reachable reached).isIdle (by decide +kernel) (by decide +kernel)
  exact (scheduler_serves_wakes reached).2.2.1 idle (by decide +kernel) _ _ []
    (by decide +kernel) (by decide +kernel)

/-- A wake below the watermark of the preflight under way, and after it a resync that names a
watermark that is reconciled already. -/
def coalescedRun : List Event :=
  [.submitWake "a" (some 10) "wake" (fun _ => 0), .entersProfile 0, .entersGlobal 0,
    .submitWake "a" (some 8) "wake" (fun _ => 0), .answers 0 (.answered false), .leaves 0,
    .settles 0 0 0, .pump (fun _ => 0), .entersProfile 1, .entersGlobal 1, .leaves 1,
    .settles 1 0 0, .submitWake "a" (some 8) "resync_reconcile" (fun _ => 0), .entersProfile 2,
    .entersGlobal 2, .leaves 2, .settles 2 0 0]

/-- A preflight that fails with an `AbortError`. -/
def abortedRun : List Event :=
  [.submitWake "a" (some 3) "wake" (fun _ => 0), .entersProfile 0, .entersGlobal 0,
    .answers 0 (.failed .abort), .leaves 0, .settles 0 0 0]

/-- No harness call begins after a wake that exceeds what is reconciled, nor after a resync; and
a wake stays unreconciled where a preflight fails with an `AbortError`. -/
theorem wakes_not_preflighted :
    (((schedulerMachine sampleOptions).run coalescedRun).IsIdle ∧
      ((schedulerMachine sampleOptions).run coalescedRun).stopped = false ∧
      ((schedulerMachine sampleOptions).run coalescedRun).history =
        [.submitted ⟨"a", 8, "resync_reconcile", 10, 10, []⟩,
          .reconciled ⟨0, .preflight, "a", 10⟩,
          .submitted ⟨"a", 8, "wake", 0, 10, [⟨0, .preflight, "a", 10⟩]⟩,
          .began ⟨0, .preflight, "a", 10⟩, .submitted ⟨"a", 10, "wake", 0, 0, []⟩]) ∧
    ((schedulerMachine sampleOptions).run abortedRun).IsIdle ∧
      ((schedulerMachine sampleOptions).run abortedRun).stopped = false ∧
      (((schedulerMachine sampleOptions).run abortedRun).states "a").lastReconciled = 0 := by
  have coalesced : ((schedulerMachine sampleOptions).run coalescedRun).Sound :=
    Scheduler.sound_of_reachable ⟨coalescedRun, rfl⟩
  have aborted : ((schedulerMachine sampleOptions).run abortedRun).Sound :=
    Scheduler.sound_of_reachable ⟨abortedRun, rfl⟩
  refine ⟨⟨coalesced.isIdle ?_ ?_, ?_, ?_⟩, aborted.isIdle ?_ ?_, ?_, ?_⟩ <;> decide +kernel

end Triangle.WakeScheduler
