import Triangle.LocalMessaging.Dispatcher

/-!
# The runner dispatcher over a run

The invariant of `Dispatcher` holds at every moment of every run, together with
the order in which the jobs of a recipient were admitted. What may wait is read
off the same invariant: a job that could be started waits only for a pump.
-/

namespace Triangle.LocalMessaging

open Triangle.Std Triangle.Semantics

section

variable {maxConcurrent : Nat}

/-- What holds of a dispatch at every moment. -/
structure Dispatch.Kept (maxConcurrent : Nat) (dispatch : Dispatch) : Prop where
  kept : dispatch.dispatcher.Kept maxConcurrent
  settled : dispatch.dispatcher.stopping = false →
    dispatch.dispatcher.pumpScheduled = false → dispatch.dispatcher.starting ≠ .compacting →
      dispatch.dispatcher.Blocked maxConcurrent
  unstarted : dispatch.dispatcher.active = false → dispatch.dispatcher.starting = .idle ∧
    (dispatch.dispatcher.stopping = true → dispatch.dispatcher.pendingQueue = [])
  inOrder : ∀ recipient, (jobsOf recipient dispatch.started ++
    jobsOf recipient dispatch.dispatcher.pendingQueue).Sublist (jobsOf recipient dispatch.admitted)

/-- Adding jobs at the end of the queue keeps the order. -/
theorem Dispatch.Kept.admitJobs {dispatch : Dispatch} (kept : dispatch.Kept maxConcurrent)
    {after : Dispatcher}
    (added : ∃ admitted, after.pendingQueue = dispatch.dispatcher.pendingQueue ++ admitted)
    (recipient : String) :
    (jobsOf recipient dispatch.started ++ jobsOf recipient after.pendingQueue).Sublist
      (jobsOf recipient (dispatch.admitted ++ Dispatch.admits dispatch.dispatcher after)) := by
  obtain ⟨admitted, queue⟩ := added
  unfold Dispatch.admits
  rw [queue, List.drop_left, jobsOf_append, jobsOf_append, ← List.append_assoc]
  exact (kept.inOrder recipient).append_right _

variable {dispatch : Dispatch}

section

variable (kept : dispatch.Kept maxConcurrent)
include kept

theorem Dispatch.Kept.notifyAdmission (job : AdmissionJob) :
    (dispatchStep maxConcurrent dispatch (.notifyAdmission job)).Kept maxConcurrent := by
  change Dispatch.Kept maxConcurrent
    { dispatch with
      dispatcher := dispatch.dispatcher.notifyAdmission job
      admitted := dispatch.admitted ++
        Dispatch.admits dispatch.dispatcher (dispatch.dispatcher.notifyAdmission job) }
  by_cases taken : job.messageId ≠ "" ∧ job.recipient ≠ "" ∧
      dispatch.dispatcher.stopping = false ∧
      job.messageId ∉ dispatch.dispatcher.inFlightMessageIds
  · obtain ⟨hasId, hasRecipient, notStopping, isNew⟩ := taken
    have isAdmitted : dispatch.dispatcher.notifyAdmission job =
        (dispatch.dispatcher.enqueue job).schedulePump := by
      unfold Dispatcher.notifyAdmission
      rw [if_neg (not_or.mpr ⟨hasId, hasRecipient⟩), notStopping, if_neg Bool.false_ne_true,
        if_neg isNew]
    obtain ⟨added, active, stopping, starting⟩ := dispatch.dispatcher.enqueue_spec job
    rw [isAdmitted]
    refine ⟨(kept.kept.enqueue job).of_same rfl rfl rfl rfl, fun _ notScheduled => ?_,
      fun notActive => ⟨?_, fun isStopping => ?_⟩, kept.admitJobs added⟩
    · exact absurd notScheduled.symm Bool.false_ne_true
    · exact starting.trans (kept.unstarted (active.symm.trans notActive)).1
    · exact absurd ((stopping.trans notStopping).symm.trans isStopping) Bool.false_ne_true
  · have isSame : dispatch.dispatcher.notifyAdmission job = dispatch.dispatcher := by
      unfold Dispatcher.notifyAdmission
      grind
    rw [isSame]
    exact ⟨kept.kept, kept.settled, kept.unstarted, kept.admitJobs ⟨[], (List.append_nil _).symm⟩⟩

theorem Dispatch.Kept.pump : (dispatchStep maxConcurrent dispatch .pump).Kept maxConcurrent := by
  unfold dispatchStep
  dsimp only
  split
  · obtain ⟨keptPumped, blocked, inOrder⟩ :=
      (kept.kept.of_same rfl rfl rfl rfl :
        Dispatcher.Kept maxConcurrent { dispatch.dispatcher with pumpScheduled := false }).pump
    obtain ⟨active, stopping, starting, sameQueue⟩ := Dispatcher.pump_same maxConcurrent
      { dispatch.dispatcher with pumpScheduled := false }
    refine ⟨keptPumped, fun notStopping _ _ => blocked (stopping.symm.trans notStopping),
      fun notActive => ?_, fun recipient => ?_⟩
    · obtain ⟨isIdle, emptied⟩ := kept.unstarted (active.symm.trans notActive)
      refine ⟨starting.trans isIdle, fun isStopping => ?_⟩
      have wasStopping := stopping.symm.trans isStopping
      exact (sameQueue wasStopping).trans (emptied wasStopping)
    · dsimp only
      rw [jobsOf_append, List.append_assoc, inOrder recipient]
      exact kept.inOrder recipient
  · exact kept

theorem Dispatch.Kept.complete (messageId : String) :
    (dispatchStep maxConcurrent dispatch (.complete messageId)).Kept maxConcurrent := by
  unfold dispatchStep
  dsimp only
  split
  · exact kept
  next job found =>
    obtain ⟨-, sameId⟩ := Table.find?_some found
    have keptFinished := kept.kept.finish (sameId.symm ▸ found)
    obtain ⟨queue, active, stopping, starting, scheduled, -⟩ := dispatch.dispatcher.finish_spec job
    refine ⟨keptFinished, fun _ notScheduled => ?_, fun notActive => ?_, fun recipient => ?_⟩
    · exact absurd (notScheduled.symm.trans scheduled) Bool.false_ne_true
    · obtain ⟨isIdle, emptied⟩ := kept.unstarted (active.symm.trans notActive)
      exact ⟨starting.trans isIdle,
        fun isStopping => queue.trans (emptied (stopping.symm.trans isStopping))⟩
    · change (jobsOf recipient dispatch.started ++
        jobsOf recipient (dispatch.dispatcher.finish job).1.pendingQueue).Sublist _
      rw [queue]
      exact kept.inOrder recipient

theorem Dispatch.Kept.stop (call : Nat) :
    (dispatchStep maxConcurrent dispatch (.stop call)).Kept maxConcurrent := by
  obtain ⟨stopping, queue, active, starting⟩ := dispatch.dispatcher.stop_spec call
  refine ⟨kept.kept.stop call, fun notStopping => ?_, fun notActive => ⟨?_, fun _ => queue⟩,
    fun recipient => ?_⟩
  · exact absurd (notStopping.symm.trans stopping) Bool.false_ne_true
  · exact starting.trans (kept.unstarted (active.symm.trans notActive)).1
  · change (jobsOf recipient dispatch.started ++
      jobsOf recipient (dispatch.dispatcher.stop call).1.pendingQueue).Sublist _
    rw [queue]
    exact ((List.nil_sublist _).append_left _).trans (kept.inOrder recipient)

theorem Dispatch.Kept.start : (dispatchStep maxConcurrent dispatch .start).Kept maxConcurrent := by
  unfold dispatchStep
  dsimp only
  split
  · exact kept
  next notActive =>
    obtain ⟨isIdle, emptied⟩ := kept.unstarted (Bool.eq_false_iff.mpr notActive)
    refine ⟨kept.kept.of_same rfl rfl rfl rfl, fun _ notScheduled _ => ?_, fun notStarted => ?_,
      kept.inOrder⟩
    · cases stopping : dispatch.dispatcher.stopping with
      | true =>
          intro job isPending
          rw [emptied stopping] at isPending
          cases isPending
      | false =>
          refine kept.settled stopping notScheduled ?_
          rw [isIdle]
          exact nofun
    · exact absurd notStarted.symm Bool.false_ne_true

theorem Dispatch.Kept.recovered (toRun : List AdmissionJob) :
    (dispatchStep maxConcurrent dispatch (.recovered toRun)).Kept maxConcurrent := by
  unfold dispatchStep
  dsimp only
  split
  next isRecovering =>
    obtain ⟨added, active, -⟩ := dispatch.dispatcher.recover_spec toRun
    refine ⟨(kept.kept.recover toRun).of_same rfl rfl rfl rfl,
      fun _ _ notCompacting => absurd rfl notCompacting, fun notActive => ?_, kept.admitJobs added⟩
    have isIdle := (kept.unstarted (active.symm.trans notActive)).1
    exact nomatch isIdle.symm.trans isRecovering
  · exact kept

end

end

end Triangle.LocalMessaging
