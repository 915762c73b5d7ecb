import Mathlib.Data.Finset.Basic
import Triangle.Semantics.Machine
import Triangle.Std.Table

/-!
# The runner dispatcher

`createLocalMessagingDispatcher` keeps a queue of admitted jobs, two sets and a
map of what executes. Admissions, pumps (microtasks), ends of executions and the
awaits of `start` may come in any order, so each is a label; an execution ends
the same way for the dispatcher whether its runner succeeded or not.

A dispatch also remembers what was admitted and started, in order, and which
calls of `stop` have returned.
-/

namespace Triangle.LocalMessaging

open Triangle.Std Triangle.Semantics

/-- A job as `notifyAdmission` takes it. The dispatcher passes its other fields on
to the runner. -/
structure AdmissionJob where
  messageId : String
  recipient : String
  deriving DecidableEq

/-- Where the call of `start` that activates the dispatcher is. -/
inductive StartPhase
  | idle
  | recovering
  | compacting
  deriving DecidableEq

/-- The variables of the dispatcher. -/
structure Dispatcher where
  active : Bool := false
  stopping : Bool := false
  drainResolvers : List Nat := []
  pendingQueue : List AdmissionJob := []
  inFlightMessageIds : Finset String := ∅
  activeRecipients : Finset String := ∅
  activeExecutions : Table AdmissionJob.messageId := .empty
  pumpScheduled : Bool := false
  starting : StartPhase := .idle

namespace Dispatcher

/-- `schedulePump`. -/
def schedulePump (dispatcher : Dispatcher) : Dispatcher :=
  { dispatcher with pumpScheduled := true }

/-- `checkDrain`; it resolves the listed calls of `stop`. -/
def checkDrain (dispatcher : Dispatcher) : Dispatcher × List Nat :=
  if dispatcher.stopping ∧ dispatcher.activeExecutions.rows = [] then
    ({ dispatcher with drainResolvers := [] }, dispatcher.drainResolvers)
  else (dispatcher, [])

/-- Put a job in the queue unless its message is in flight. -/
def enqueue (dispatcher : Dispatcher) (job : AdmissionJob) : Dispatcher :=
  if job.messageId ∈ dispatcher.inFlightMessageIds then dispatcher
  else
    { dispatcher with
      inFlightMessageIds := insert job.messageId dispatcher.inFlightMessageIds
      pendingQueue := dispatcher.pendingQueue ++ [job] }

/-- The recipient of the job executes nothing. -/
def free (dispatcher : Dispatcher) (job : AdmissionJob) : Bool :=
  job.recipient ∉ dispatcher.activeRecipients

/-- Take a job out of the queue and execute it. -/
def execute (dispatcher : Dispatcher) (job : AdmissionJob) : Dispatcher :=
  { dispatcher with
    pendingQueue := dispatcher.pendingQueue.eraseP dispatcher.free
    activeRecipients := insert job.recipient dispatcher.activeRecipients
    activeExecutions := dispatcher.activeExecutions.upsert job }

/-- The job that the loop of `pump` starts next. -/
def next? (maxConcurrent : Nat) (dispatcher : Dispatcher) : Option AdmissionJob :=
  if dispatcher.activeExecutions.rows.length < maxConcurrent then
    dispatcher.pendingQueue.find? dispatcher.free
  else none

theorem next?_some {maxConcurrent : Nat} {dispatcher : Dispatcher} {job : AdmissionJob}
    (isNext : dispatcher.next? maxConcurrent = some job) :
    dispatcher.activeExecutions.rows.length < maxConcurrent ∧
      job.recipient ∉ dispatcher.activeRecipients ∧
      ∃ earlier later, dispatcher.pendingQueue = earlier ++ job :: later ∧
        (dispatcher.execute job).pendingQueue = earlier ++ later ∧
        ∀ other ∈ earlier, other.recipient ∈ dispatcher.activeRecipients := by
  unfold next? at isNext
  split at isNext
  next hasRoom =>
    obtain ⟨isFree, earlier, later, isQueue, busy⟩ := List.find?_eq_some_iff_append.mp isNext
    have allBusy : ∀ other ∈ earlier, ¬ dispatcher.free other = true := by
      intro other member
      simpa using busy other member
    refine ⟨hasRoom, of_decide_eq_true isFree, earlier, later, isQueue, ?_, fun other member => ?_⟩
    · change dispatcher.pendingQueue.eraseP dispatcher.free = _
      rw [isQueue, List.eraseP_append_right _ allBusy, List.eraseP_cons_of_pos isFree]
    · by_contra notBusy
      exact allBusy other member (decide_eq_true notBusy)
  · cases isNext

/-- The loop of `pump`; it returns the jobs that it starts. -/
def startJobs (maxConcurrent : Nat) (dispatcher : Dispatcher) : Dispatcher × List AdmissionJob :=
  match _isNext : dispatcher.next? maxConcurrent with
  | none => (dispatcher, [])
  | some job =>
      let rest := startJobs maxConcurrent (dispatcher.execute job)
      (rest.1, job :: rest.2)
termination_by dispatcher.pendingQueue.length
decreasing_by
  obtain ⟨-, -, earlier, later, isQueue, isLeft, -⟩ := next?_some _isNext
  rw [isLeft, isQueue, List.length_append, List.length_append, List.length_cons]
  omega

/-- `pump`, with the jobs that it starts and the calls of `stop` that it resolves. -/
def pump (maxConcurrent : Nat) (dispatcher : Dispatcher) :
    Dispatcher × List AdmissionJob × List Nat :=
  if dispatcher.stopping then
    let drained := dispatcher.checkDrain
    (drained.1, [], drained.2)
  else
    let started := dispatcher.startJobs maxConcurrent
    let drained := started.1.checkDrain
    (drained.1, started.2, drained.2)

/-- What `executionPromise.finally` does for a job. -/
def finish (dispatcher : Dispatcher) (job : AdmissionJob) : Dispatcher × List Nat :=
  { dispatcher with
    activeExecutions := dispatcher.activeExecutions.delete (·.messageId = job.messageId)
    activeRecipients := dispatcher.activeRecipients.erase job.recipient
    inFlightMessageIds :=
      dispatcher.inFlightMessageIds.erase job.messageId }.schedulePump.checkDrain

/-- `notifyAdmission` up to its await. -/
def notifyAdmission (dispatcher : Dispatcher) (job : AdmissionJob) : Dispatcher :=
  if job.messageId = "" ∨ job.recipient = "" then dispatcher
  else if dispatcher.stopping then dispatcher
  else if job.messageId ∈ dispatcher.inFlightMessageIds then dispatcher
  else (dispatcher.enqueue job).schedulePump

/-- `stop`, with the calls that it resolves at once. -/
def stop (dispatcher : Dispatcher) (call : Nat) : Dispatcher × List Nat :=
  let stopped :=
    { dispatcher with
      stopping := true
      pendingQueue := []
      inFlightMessageIds := dispatcher.inFlightMessageIds.filter
        (· ∉ dispatcher.pendingQueue.map AdmissionJob.messageId) }
  if dispatcher.activeExecutions.rows = [] then (stopped, [call])
  else ({ stopped with drainResolvers := dispatcher.drainResolvers ++ [call] }, [])

end Dispatcher

/-- What can happen to the dispatcher. -/
inductive DispatchLabel
  | notifyAdmission (job : AdmissionJob)
  | pump
  | complete (messageId : String)
  | stop (call : Nat)
  | start
  | recovered (toRun : List AdmissionJob)
  | recoveryFailed
  | compacted

/-- The dispatcher and what it has done. -/
structure Dispatch where
  dispatcher : Dispatcher := {}
  admitted : List AdmissionJob := []
  started : List AdmissionJob := []
  resolved : List Nat := []

/-- The jobs that a step admits. -/
def Dispatch.admits (before after : Dispatcher) : List AdmissionJob :=
  after.pendingQueue.drop before.pendingQueue.length

section

variable (maxConcurrent : Nat)

/-- One step of the dispatcher. -/
def dispatchStep (dispatch : Dispatch) (label : DispatchLabel) : Dispatch :=
  let dispatcher := dispatch.dispatcher
  match label with
  | .notifyAdmission job =>
      let after := dispatcher.notifyAdmission job
      { dispatch with
        dispatcher := after
        admitted := dispatch.admitted ++ Dispatch.admits dispatcher after }
  | .pump =>
      if dispatcher.pumpScheduled then
        let pumped := { dispatcher with pumpScheduled := false }.pump maxConcurrent
        { dispatch with
          dispatcher := pumped.1
          started := dispatch.started ++ pumped.2.1
          resolved := dispatch.resolved ++ pumped.2.2 }
      else dispatch
  | .complete messageId =>
      match dispatcher.activeExecutions.find? messageId with
      | none => dispatch
      | some job =>
          { dispatch with
            dispatcher := (dispatcher.finish job).1
            resolved := dispatch.resolved ++ (dispatcher.finish job).2 }
  | .stop call =>
      { dispatch with
        dispatcher := (dispatcher.stop call).1
        resolved := dispatch.resolved ++ (dispatcher.stop call).2 }
  | .start =>
      if dispatcher.active then dispatch
      else
        { dispatch with
          dispatcher :=
            { dispatcher with
              active := true
              stopping := false
              starting := .recovering } }
  | .recovered toRun =>
      if dispatcher.starting = .recovering then
        let after := toRun.foldl Dispatcher.enqueue dispatcher
        { dispatch with
          dispatcher := { after with starting := .compacting }
          admitted := dispatch.admitted ++ Dispatch.admits dispatcher after }
      else dispatch
  | .recoveryFailed =>
      if dispatcher.starting = .recovering then
        { dispatch with dispatcher := { dispatcher with starting := .idle } }
      else dispatch
  | .compacted =>
      if dispatcher.starting = .compacting then
        { dispatch with dispatcher := { dispatcher with starting := .idle }.schedulePump }
      else dispatch

end

/-! ## What the variables say of each other -/

/-- The invariant of the dispatcher. -/
structure Dispatcher.Kept (maxConcurrent : Nat) (dispatcher : Dispatcher) : Prop where
  capped : dispatcher.activeExecutions.rows.length ≤ maxConcurrent
  busy : ∀ recipient, recipient ∈ dispatcher.activeRecipients ↔
    recipient ∈ dispatcher.activeExecutions.rows.map AdmissionJob.recipient
  onePerRecipient : (dispatcher.activeExecutions.rows.map AdmissionJob.recipient).Nodup
  inFlight : ∀ job ∈ dispatcher.pendingQueue ++ dispatcher.activeExecutions.rows,
    job.messageId ∈ dispatcher.inFlightMessageIds
  once : ((dispatcher.pendingQueue ++ dispatcher.activeExecutions.rows).map
    AdmissionJob.messageId).Nodup

/-- Nothing in the queue could be started. -/
def Dispatcher.Blocked (maxConcurrent : Nat) (dispatcher : Dispatcher) : Prop :=
  ∀ job ∈ dispatcher.pendingQueue, job.recipient ∈ dispatcher.activeRecipients ∨
    maxConcurrent ≤ dispatcher.activeExecutions.rows.length

/-- Jobs of one recipient, in their order. -/
def jobsOf (recipient : String) (jobs : List AdmissionJob) : List AdmissionJob :=
  jobs.filter (·.recipient = recipient)

theorem jobsOf_append (recipient : String) (first second : List AdmissionJob) :
    jobsOf recipient (first ++ second) = jobsOf recipient first ++ jobsOf recipient second :=
  List.filter_append ..

namespace Dispatcher

variable {maxConcurrent : Nat} {dispatcher : Dispatcher} {job : AdmissionJob}

section

variable (kept : dispatcher.Kept maxConcurrent)
include kept

/-- A change of the other variables. -/
theorem Kept.of_same {after : Dispatcher} (queue : after.pendingQueue = dispatcher.pendingQueue)
    (executions : after.activeExecutions = dispatcher.activeExecutions)
    (recipients : after.activeRecipients = dispatcher.activeRecipients)
    (inFlight : after.inFlightMessageIds = dispatcher.inFlightMessageIds) :
    after.Kept maxConcurrent where
  capped := executions ▸ kept.capped
  busy recipient := by rw [recipients, executions, kept.busy]
  onePerRecipient := executions ▸ kept.onePerRecipient
  inFlight job member := by
    rw [queue, executions] at member
    rw [inFlight]
    exact kept.inFlight job member
  once := by
    rw [queue, executions]
    exact kept.once

theorem Kept.enqueue (job : AdmissionJob) : (dispatcher.enqueue job).Kept maxConcurrent := by
  unfold Dispatcher.enqueue
  split
  · exact kept
  next isNew =>
    refine ⟨kept.capped, kept.busy, kept.onePerRecipient, fun other member => ?_, ?_⟩
    · change other ∈ (dispatcher.pendingQueue ++ [job]) ++ dispatcher.activeExecutions.rows at member
      change other.messageId ∈ insert job.messageId dispatcher.inFlightMessageIds
      rw [Finset.mem_insert]
      rw [List.append_assoc, List.mem_append, List.singleton_append, List.mem_cons] at member
      rcases member with isPending | rfl | isExecuting
      · exact .inr (kept.inFlight other (List.mem_append_left _ isPending))
      · exact .inl rfl
      · exact .inr (kept.inFlight other (List.mem_append_right _ isExecuting))
    · change ((dispatcher.pendingQueue ++ [job]) ++ dispatcher.activeExecutions.rows |>.map
        AdmissionJob.messageId).Nodup
      rw [List.append_assoc, List.singleton_append]
      have rotated : (dispatcher.pendingQueue ++ job :: dispatcher.activeExecutions.rows).Perm
          (job :: (dispatcher.pendingQueue ++ dispatcher.activeExecutions.rows)) :=
        List.perm_middle
      rw [(rotated.map AdmissionJob.messageId).nodup_iff, List.map_cons, List.nodup_cons]
      refine ⟨fun isThere => ?_, kept.once⟩
      obtain ⟨other, member, sameId⟩ := List.mem_map.mp isThere
      exact isNew (sameId ▸ kept.inFlight other member)

/-- The row of a job that is not executed yet comes last. -/
theorem rows_execute (isPending : job ∈ dispatcher.pendingQueue) :
    (dispatcher.execute job).activeExecutions.rows = dispatcher.activeExecutions.rows ++ [job] := by
  have isFree : dispatcher.activeExecutions.find? job.messageId = none := by
    cases found : dispatcher.activeExecutions.find? job.messageId with
    | none => rfl
    | some other =>
        obtain ⟨isExecuting, sameId⟩ := Table.find?_some found
        have distinct := kept.once
        rw [List.map_append] at distinct
        exact absurd (List.mem_map_of_mem isExecuting) (sameId ▸
          List.disjoint_of_nodup_append distinct (List.mem_map_of_mem isPending))
  have selected := Table.select_upsert_new isFree fun _ => true
  unfold Table.select at selected
  rwa [List.filter_true, List.filter_true, if_pos rfl] at selected

theorem Kept.execute (isNext : dispatcher.next? maxConcurrent = some job) :
    (dispatcher.execute job).Kept maxConcurrent := by
  obtain ⟨hasRoom, notBusy, earlier, later, isQueue, isLeft, -⟩ := next?_some isNext
  have isPending : job ∈ dispatcher.pendingQueue := by
    rw [isQueue]
    exact List.mem_append_right _ (List.mem_cons_self ..)
  have rows := rows_execute kept isPending
  have sameJobs : ((dispatcher.execute job).pendingQueue ++
      (dispatcher.execute job).activeExecutions.rows).Perm
        (dispatcher.pendingQueue ++ dispatcher.activeExecutions.rows) := by
    rw [rows, isLeft, isQueue, ← List.append_assoc]
    refine (List.perm_append_singleton _ _).trans ?_
    rw [List.append_assoc, List.append_assoc]
    exact List.perm_middle.symm
  refine ⟨?_, fun recipient => ?_, ?_, fun other member => ?_, ?_⟩
  · rw [rows, List.length_append, List.length_singleton]
    exact hasRoom
  · rw [rows, List.map_append, List.mem_append, List.map_singleton, List.mem_singleton]
    change recipient ∈ insert job.recipient dispatcher.activeRecipients ↔ _
    rw [Finset.mem_insert, kept.busy, or_comm]
  · rw [rows, List.map_append, List.map_singleton]
    refine List.Nodup.append kept.onePerRecipient (List.nodup_singleton _) ?_
    rw [List.disjoint_singleton, ← kept.busy]
    exact notBusy
  · exact kept.inFlight other (sameJobs.mem_iff.mp member)
  · exact ((sameJobs.map AdmissionJob.messageId).nodup_iff).mpr kept.once

end

/-- Starting one job keeps the order of each recipient's jobs. -/
theorem jobsOf_execute (isNext : dispatcher.next? maxConcurrent = some job) (recipient : String) :
    jobsOf recipient [job] ++ jobsOf recipient (dispatcher.execute job).pendingQueue =
      jobsOf recipient dispatcher.pendingQueue := by
  obtain ⟨-, notBusy, earlier, later, isQueue, isLeft, allBusy⟩ := next?_some isNext
  rw [isLeft, isQueue]
  unfold jobsOf
  rw [List.filter_append, List.filter_append]
  by_cases same : job.recipient = recipient
  · -- What stands before the job waits for other recipients.
    have noEarlier : earlier.filter (·.recipient = recipient) = [] := by
      refine List.filter_eq_nil_iff.mpr fun other member isOurs => notBusy ?_
      rw [same, ← of_decide_eq_true isOurs]
      exact allBusy other member
    rw [noEarlier]
    simp [same]
  · simp [same]

/-- What the loop of `pump` leaves: the invariant, a queue of which nothing could be
started, and every recipient's jobs in their order. -/
theorem Kept.startJobs (kept : dispatcher.Kept maxConcurrent) :
    (dispatcher.startJobs maxConcurrent).1.Kept maxConcurrent ∧
      (dispatcher.startJobs maxConcurrent).1.Blocked maxConcurrent ∧
      (∀ recipient, jobsOf recipient (dispatcher.startJobs maxConcurrent).2 ++
        jobsOf recipient (dispatcher.startJobs maxConcurrent).1.pendingQueue =
          jobsOf recipient dispatcher.pendingQueue) ∧
      (dispatcher.startJobs maxConcurrent).1.stopping = dispatcher.stopping ∧
      (dispatcher.startJobs maxConcurrent).1.drainResolvers = dispatcher.drainResolvers := by
  fun_induction Dispatcher.startJobs maxConcurrent dispatcher with
  | case1 dispatcher noNext =>
      refine ⟨kept, fun job member => ?_, fun recipient => rfl, rfl, rfl⟩
      by_contra startable
      rw [not_or, not_le] at startable
      unfold next? at noNext
      rw [if_pos startable.2, List.find?_eq_none] at noNext
      exact noNext job member (decide_eq_true startable.1)
  | case2 dispatcher job isNext rest ih =>
      obtain ⟨keptRest, blocked, inOrder, stopping, resolvers⟩ :=
        ih (kept.execute isNext)
      refine ⟨keptRest, blocked, fun recipient => ?_, stopping, resolvers⟩
      have isFirst : jobsOf recipient (job :: rest.2) =
          jobsOf recipient [job] ++ jobsOf recipient rest.2 := jobsOf_append recipient [job] rest.2
      rw [← jobsOf_execute isNext recipient, ← inOrder recipient, ← List.append_assoc]
      exact congrArg (· ++ jobsOf recipient rest.1.pendingQueue) isFirst

/-- `checkDrain` resolves only when nothing executes, and changes nothing else. -/
theorem checkDrain_spec (dispatcher : Dispatcher) :
    dispatcher.checkDrain.1.pendingQueue = dispatcher.pendingQueue ∧
      dispatcher.checkDrain.1.activeExecutions = dispatcher.activeExecutions ∧
      dispatcher.checkDrain.1.activeRecipients = dispatcher.activeRecipients ∧
      dispatcher.checkDrain.1.inFlightMessageIds = dispatcher.inFlightMessageIds ∧
      dispatcher.checkDrain.1.stopping = dispatcher.stopping ∧
      dispatcher.checkDrain.1.pumpScheduled = dispatcher.pumpScheduled ∧
      dispatcher.checkDrain.1.starting = dispatcher.starting ∧
      (dispatcher.checkDrain.2 ≠ [] → dispatcher.activeExecutions.rows = []) := by
  unfold checkDrain
  split
  next drained => exact ⟨rfl, rfl, rfl, rfl, rfl, rfl, rfl, fun _ => drained.2⟩
  · exact ⟨rfl, rfl, rfl, rfl, rfl, rfl, rfl, fun some_ => absurd rfl some_⟩

theorem checkDrain_active (dispatcher : Dispatcher) :
    dispatcher.checkDrain.1.active = dispatcher.active := by
  unfold checkDrain
  split <;> rfl

theorem Kept.checkDrain (kept : dispatcher.Kept maxConcurrent) :
    dispatcher.checkDrain.1.Kept maxConcurrent := by
  obtain ⟨queue, executions, recipients, inFlight, -⟩ := checkDrain_spec dispatcher
  exact kept.of_same queue executions recipients inFlight

/-- The executions without one of them. -/
theorem rows_delete (found : dispatcher.activeExecutions.find? job.messageId = some job) :
    dispatcher.activeExecutions.rows.Perm
      (job :: (dispatcher.activeExecutions.delete (·.messageId = job.messageId)).rows) := by
  have isRow : dispatcher.activeExecutions.rows.filter (·.messageId = job.messageId) = [job] := by
    rw [Table.filter_key, found, Option.toList_some]
  have parts := List.filter_append_perm (·.messageId = job.messageId)
    dispatcher.activeExecutions.rows
  rw [isRow] at parts
  exact parts.symm

theorem Kept.finish (kept : dispatcher.Kept maxConcurrent)
    (found : dispatcher.activeExecutions.find? job.messageId = some job) :
    (dispatcher.finish job).1.Kept maxConcurrent := by
  have rows := rows_delete found
  have recipients := rows.map AdmissionJob.recipient
  have distinct := recipients.nodup_iff.mp kept.onePerRecipient
  rw [List.map_cons, List.nodup_cons] at distinct
  have jobs : (dispatcher.pendingQueue ++ dispatcher.activeExecutions.rows).Perm
      (job :: (dispatcher.pendingQueue ++
        (dispatcher.activeExecutions.delete (·.messageId = job.messageId)).rows)) :=
    (rows.append_left _).trans List.perm_middle
  have once := (jobs.map AdmissionJob.messageId).nodup_iff.mp kept.once
  rw [List.map_cons, List.nodup_cons] at once
  refine Kept.checkDrain ⟨?_, fun recipient => ?_, distinct.2, fun other member => ?_, once.2⟩
  · have shorter := rows.length_eq
    rw [List.length_cons] at shorter
    exact le_trans (Nat.le_of_succ_le (le_of_eq shorter.symm)) kept.capped
  · change recipient ∈ dispatcher.activeRecipients.erase job.recipient ↔ _
    rw [Finset.mem_erase, kept.busy, recipients.mem_iff, List.map_cons, List.mem_cons]
    refine ⟨fun ⟨differs, isBusy⟩ => isBusy.resolve_left differs, fun isBusy => ⟨?_, .inr isBusy⟩⟩
    rintro rfl
    exact distinct.1 isBusy
  · change other.messageId ∈ dispatcher.inFlightMessageIds.erase job.messageId
    rw [Finset.mem_erase]
    refine ⟨fun sameId => once.1 (List.mem_map.mpr ⟨other, member, sameId⟩), ?_⟩
    exact kept.inFlight other (jobs.mem_iff.mpr (List.mem_cons_of_mem _ member))

/-- What the end of an execution leaves as it is; a pump is always scheduled. -/
theorem finish_spec (dispatcher : Dispatcher) (job : AdmissionJob) :
    (dispatcher.finish job).1.pendingQueue = dispatcher.pendingQueue ∧
      (dispatcher.finish job).1.active = dispatcher.active ∧
      (dispatcher.finish job).1.stopping = dispatcher.stopping ∧
      (dispatcher.finish job).1.starting = dispatcher.starting ∧
      (dispatcher.finish job).1.pumpScheduled = true ∧
      ((dispatcher.finish job).2 ≠ [] →
        (dispatcher.finish job).1.activeExecutions.rows = []) := by
  obtain ⟨queue, executions, -, -, stopping, scheduled, starting, drained⟩ := checkDrain_spec
    { dispatcher with
      activeExecutions := dispatcher.activeExecutions.delete (·.messageId = job.messageId)
      activeRecipients := dispatcher.activeRecipients.erase job.recipient
      inFlightMessageIds :=
        dispatcher.inFlightMessageIds.erase job.messageId }.schedulePump
  exact ⟨queue, checkDrain_active _, stopping, starting, scheduled,
    fun resolves => (congrArg Table.rows executions).trans (drained resolves)⟩

theorem Kept.stop (kept : dispatcher.Kept maxConcurrent) (call : Nat) :
    (dispatcher.stop call).1.Kept maxConcurrent := by
  have parts := kept.once
  rw [List.map_append] at parts
  have stopped : Kept maxConcurrent
      { dispatcher with
        stopping := true
        pendingQueue := []
        inFlightMessageIds := dispatcher.inFlightMessageIds.filter
          (· ∉ dispatcher.pendingQueue.map AdmissionJob.messageId) } := by
    refine ⟨kept.capped, kept.busy, kept.onePerRecipient, fun job isExecuting => ?_,
      parts.of_append_right⟩
    refine Finset.mem_filter.mpr ⟨kept.inFlight job (List.mem_append_right _ isExecuting), ?_⟩
    intro isPending
    exact List.disjoint_of_nodup_append parts isPending (List.mem_map_of_mem isExecuting)
  unfold Dispatcher.stop
  split
  · exact stopped
  · exact stopped.of_same rfl rfl rfl rfl

/-- What `enqueue` does not change, and that it only adds at the end. -/
theorem enqueue_spec (dispatcher : Dispatcher) (job : AdmissionJob) :
    (∃ admitted, (dispatcher.enqueue job).pendingQueue = dispatcher.pendingQueue ++ admitted) ∧
      (dispatcher.enqueue job).active = dispatcher.active ∧
      (dispatcher.enqueue job).stopping = dispatcher.stopping ∧
      (dispatcher.enqueue job).starting = dispatcher.starting := by
  unfold enqueue
  split
  · exact ⟨⟨[], (List.append_nil _).symm⟩, rfl, rfl, rfl⟩
  · exact ⟨⟨[job], rfl⟩, rfl, rfl, rfl⟩

/-- The loop of `start` over the recovered jobs. -/
theorem recover_spec (dispatcher : Dispatcher) (toRun : List AdmissionJob) :
    (∃ admitted, (toRun.foldl enqueue dispatcher).pendingQueue =
        dispatcher.pendingQueue ++ admitted) ∧
      (toRun.foldl enqueue dispatcher).active = dispatcher.active ∧
      (toRun.foldl enqueue dispatcher).stopping = dispatcher.stopping := by
  induction toRun generalizing dispatcher with
  | nil => exact ⟨⟨[], (List.append_nil _).symm⟩, rfl, rfl⟩
  | cons job rest ih =>
      obtain ⟨⟨first, isFirst⟩, active, stopping, -⟩ := enqueue_spec dispatcher job
      obtain ⟨⟨others, isRest⟩, activeRest, stoppingRest⟩ :=
        ih (dispatcher.enqueue job)
      refine ⟨⟨first ++ others, ?_⟩, activeRest.trans active, stoppingRest.trans stopping⟩
      rw [List.foldl_cons, isRest, isFirst, List.append_assoc]

theorem Kept.recover (kept : dispatcher.Kept maxConcurrent) (toRun : List AdmissionJob) :
    (toRun.foldl Dispatcher.enqueue dispatcher).Kept maxConcurrent := by
  induction toRun generalizing dispatcher with
  | nil => exact kept
  | cons job rest ih => exact ih (kept.enqueue job)

/-- `pump` keeps the invariant and the order, and starts all that it may. -/
theorem Kept.pump (kept : dispatcher.Kept maxConcurrent) :
    (dispatcher.pump maxConcurrent).1.Kept maxConcurrent ∧
      (dispatcher.stopping = false → (dispatcher.pump maxConcurrent).1.Blocked maxConcurrent) ∧
      (∀ recipient, jobsOf recipient (dispatcher.pump maxConcurrent).2.1 ++
        jobsOf recipient (dispatcher.pump maxConcurrent).1.pendingQueue =
          jobsOf recipient dispatcher.pendingQueue) := by
  unfold Dispatcher.pump
  split
  next isStopping =>
    obtain ⟨queue, -⟩ := checkDrain_spec dispatcher
    refine ⟨kept.checkDrain, fun notStopping => ?_, fun recipient => ?_⟩
    · exact absurd isStopping (Bool.eq_false_iff.mp notStopping)
    · exact congrArg (jobsOf recipient) queue
  next notStopping =>
    obtain ⟨keptStarted, blocked, inOrder, -⟩ := kept.startJobs
    obtain ⟨queue, executions, recipients, -⟩ :=
      checkDrain_spec (dispatcher.startJobs maxConcurrent).1
    refine ⟨keptStarted.checkDrain, fun _ job isPending => ?_, fun recipient => ?_⟩
    · rw [recipients, executions]
      exact blocked job (queue ▸ isPending)
    · rw [queue]
      exact inOrder recipient

theorem startJobs_same (maxConcurrent : Nat) (dispatcher : Dispatcher) :
    (dispatcher.startJobs maxConcurrent).1.active = dispatcher.active ∧
      (dispatcher.startJobs maxConcurrent).1.stopping = dispatcher.stopping ∧
      (dispatcher.startJobs maxConcurrent).1.starting = dispatcher.starting := by
  fun_induction startJobs maxConcurrent dispatcher with
  | case1 dispatcher noNext => exact ⟨rfl, rfl, rfl⟩
  | case2 dispatcher job isNext rest ih => exact ih

theorem pump_same (maxConcurrent : Nat) (dispatcher : Dispatcher) :
    (dispatcher.pump maxConcurrent).1.active = dispatcher.active ∧
      (dispatcher.pump maxConcurrent).1.stopping = dispatcher.stopping ∧
      (dispatcher.pump maxConcurrent).1.starting = dispatcher.starting ∧
      (dispatcher.stopping = true →
        (dispatcher.pump maxConcurrent).1.pendingQueue = dispatcher.pendingQueue) := by
  unfold pump
  split
  · obtain ⟨queue, -, -, -, stopping, -, starting, -⟩ := dispatcher.checkDrain_spec
    exact ⟨dispatcher.checkDrain_active, stopping, starting, fun _ => queue⟩
  next notStopping =>
    obtain ⟨-, -, -, -, stopping, -, starting, -⟩ :=
      (dispatcher.startJobs maxConcurrent).1.checkDrain_spec
    obtain ⟨activeStarted, stoppingStarted, startingStarted⟩ :=
      dispatcher.startJobs_same maxConcurrent
    exact ⟨(checkDrain_active _).trans activeStarted, stopping.trans stoppingStarted,
      starting.trans startingStarted, fun isStopping => absurd isStopping notStopping⟩

theorem stop_spec (dispatcher : Dispatcher) (call : Nat) :
    (dispatcher.stop call).1.stopping = true ∧
      (dispatcher.stop call).1.pendingQueue = [] ∧
      (dispatcher.stop call).1.active = dispatcher.active ∧
      (dispatcher.stop call).1.starting = dispatcher.starting := by
  unfold stop
  split
  · exact ⟨rfl, rfl, rfl, rfl⟩
  · exact ⟨rfl, rfl, rfl, rfl⟩

end Dispatcher

end Triangle.LocalMessaging
