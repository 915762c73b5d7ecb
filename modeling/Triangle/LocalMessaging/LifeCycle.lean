import Triangle.LocalMessaging.LifeMoves

/-!
# The life cycle of a local message

`holdExecution` selects its row by id alone, and a message is deleted only
without replies, so the phase of a message is safe because of what the host
keeps: a job's row is a runner's, executing or held, until the job ends, and a
message with a stored reply is completed. Under that invariant every host step
is a `LifeMove`, and the life cycle follows move by move.
-/

namespace Triangle.LocalMessaging

open Triangle.Std Triangle.Semantics

/-- The step stores the reply of the message's runner job. -/
def CompletesRunner (label : HostLabel) (messageId : String) : Prop :=
  ∃ replyId text metadata now, label = .runnerCompleted messageId replyId text metadata now

/-- The step is an owner reconciliation. -/
def Reconciles (label : HostLabel) : Prop :=
  ∃ request now, label = .reconcileMessage request now

/-- What the host keeps between steps. -/
structure HostInvariant (host : Host) : Prop where
  jobsUnfinished : ∀ job ∈ host.jobs,
    host.journal.type? job.messageId = some .runner ∧
      (host.journal.phase? job.messageId = some .executing ∨
        host.journal.phase? job.messageId = some .held)
  repliedCompleted : ∀ messageId replyId, host.journal.Replied messageId replyId →
    host.journal.phase? messageId = some .completed
  jobsServing : host.jobs ≠ [] → host.mode = .serving

section

variable {runtime : JournalRuntime} {host : Host} {messageId : String}

theorem commit_move {completes reconciles : Prop} {α : Type} {result : Outcome (Journal × α)}
    (moved : ∀ journal value, result = .ok (journal, value) →
      LifeMove completes reconciles messageId host.journal journal) :
    LifeMove completes reconciles messageId host.journal (host.commit result).journal := by
  unfold Host.commit
  split
  next journal value => exact moved journal value rfl
  · exact .refl

variable {job : Job} {label : HostLabel}

/-- A job that is found is one of the host's. -/
theorem job?_mem {jobId : String} {persistFailed : Bool}
    (found : host.job? jobId persistFailed = some job) :
    job ∈ host.jobs ∧ job.messageId = jobId := by
  have chosen := List.find?_some found
  simp only [Bool.and_eq_true, decide_eq_true_eq] at chosen
  exact ⟨List.mem_of_find?_eq_some found, chosen.1⟩

/-- Under the invariant a step of the serving host is a life move. -/
theorem serveStep_move (invariant : HostInvariant host) (label : HostLabel) :
    LifeMove (CompletesRunner label messageId) (Reconciles label) messageId host.journal
      (serveStep runtime host label).journal := by
  cases label with
  | openService | openOwner | stop | reconcileMessage => exact .refl
  | sendMessage answers envelope options =>
      exact commit_move fun _ _ succeeded => recordSend_move succeeded
  | admissionFailure failed now => exact recordExecutionFailure_move
  | listInbox requester now => exact reapExpiredClaims_move
  | claimInboxMessage args now =>
      exact commit_move fun _ _ succeeded => claimInboxMessage_move succeeded
  | sendReply answers args now =>
      exact commit_move fun _ _ succeeded => recordInteractiveReply_move succeeded
  | consumeReply requester replyId now =>
      simp only [serveStep]
      split
      next succeeded => exact consumeReply_move succeeded
      · exact .refl
  | recoverQueued now => exact holdExecuting_move
  | claimExecution claimed now =>
      simp only [serveStep]
      split
      next result => exact claimExecution_move result
      next result => exact claimExecution_move result
  | runnerCompleted completed replyId text metadata now =>
      simp only [serveStep]
      split
      · exact .refl
      next job found =>
        split
        next succeeded =>
          refine completeExecutionWithReply_move succeeded fun isReplyTo => ?_
          obtain ⟨-, jobId⟩ := job?_mem found
          obtain rfl : job.messageId = messageId := Option.some.inj isReplyTo
          exact ⟨replyId, text, metadata, now, by rw [jobId]⟩
        · exact .refl
  | runnerHeld held reason lateResultText now =>
      simp only [serveStep]
      split
      · exact .refl
      next job found =>
        obtain ⟨member, rfl⟩ := job?_mem found
        exact holdExecution_move (invariant.jobsUnfinished job member).2
  | runnerFailed | persistFailure =>
      simp only [serveStep]
      split
      · exact .refl
      · exact recordExecutionFailure_move
  | compact now retentionMs => exact compact_move

/-- Under the invariant every step of the system is a life move. -/
theorem hostStep_move (runtime : JournalRuntime) (invariant : HostInvariant host)
    (label : HostLabel) (messageId : String) :
    LifeMove (CompletesRunner label messageId) (Reconciles label) messageId host.journal
      (hostStep runtime host label).journal := by
  unfold hostStep
  split
  · exact .refl
  · exact holdExecuting_move
  · split
    · exact holdExecuting_move
    · exact .refl
  next request now _ =>
    exact commit_move fun _ _ succeeded => reconcileMessage_move succeeded ⟨request, now, rfl⟩
  · exact serveStep_move invariant _
  · exact .refl

/-- A job after a step of the serving host was there before, for a message the
step does not complete, or is the claim of this step. -/
theorem serveStep_jobs (member : job ∈ (serveStep runtime host label).jobs) :
    ((∃ earlier ∈ host.jobs, earlier.messageId = job.messageId) ∧
        (CompletesRunner label job.messageId →
          (serveStep runtime host label).journal = host.journal)) ∨
      ((serveStep runtime host label).journal.type? job.messageId = some .runner ∧
        (serveStep runtime host label).journal.phase? job.messageId = some .executing) := by
  have keeps : ∀ {jobs : List Job}, jobs = host.jobs → job ∈ jobs →
      ∃ earlier ∈ host.jobs, earlier.messageId = job.messageId := by
    rintro jobs rfl there
    exact ⟨job, there, rfl⟩
  cases label with
  | openService | openOwner | stop | reconcileMessage | admissionFailure | listInbox
  | recoverQueued | compact =>
      exact .inl ⟨keeps rfl member, fun ⟨_, _, _, _, same⟩ => nomatch same⟩
  | sendMessage | claimInboxMessage | sendReply =>
      refine .inl ⟨?_, fun ⟨_, _, _, _, same⟩ => nomatch same⟩
      simp only [serveStep, Host.commit] at member
      split at member
      · exact keeps rfl member
      · exact keeps rfl member
  | consumeReply requester replyId now =>
      refine .inl ⟨?_, fun ⟨_, _, _, _, same⟩ => nomatch same⟩
      simp only [serveStep] at member
      split at member
      · exact keeps rfl member
      · exact keeps rfl member
  | claimExecution claimed now =>
      simp only [serveStep] at member ⊢
      split at member
      next journal row result =>
        rw [List.mem_append, List.mem_singleton] at member
        rcases member with there | rfl
        · exact .inl ⟨⟨job, there, rfl⟩, fun ⟨_, _, _, _, same⟩ => nomatch same⟩
        · obtain ⟨rowId, executing, runner⟩ := claimExecution_granted result
          refine .inr ?_
          change journal.type? row.messageId = _ ∧ journal.phase? row.messageId = _
          rw [rowId]
          exact ⟨runner, executing⟩
      · exact .inl ⟨keeps rfl member, fun ⟨_, _, _, _, same⟩ => nomatch same⟩
  | runnerCompleted completed replyId text metadata now =>
      simp only [serveStep] at member ⊢
      split at member
      next absent =>
        exact .inl ⟨keeps rfl member, fun _ => rfl⟩
      next current found =>
        split at member
        next succeeded =>
          obtain ⟨there, other⟩ := List.mem_filter.mp member
          refine .inl ⟨⟨job, there, rfl⟩, ?_⟩
          rintro ⟨_, _, _, _, same⟩
          obtain ⟨rfl, -⟩ := HostLabel.runnerCompleted.inj same
          exact absurd rfl (of_decide_eq_true other)
        next problem failed =>
          refine .inl ⟨?_, fun _ => rfl⟩
          obtain ⟨earlier, there, rfl⟩ := List.mem_map.mp member
          refine ⟨earlier, there, ?_⟩
          split <;> rfl
  | runnerHeld | runnerFailed | persistFailure =>
      refine .inl ⟨?_, fun ⟨_, _, _, _, same⟩ => nomatch same⟩
      simp only [serveStep] at member
      split at member
      · exact keeps rfl member
      · exact ⟨job, (List.mem_filter.mp member).1, rfl⟩

/-- A serving step does not change the mode. -/
theorem serveStep_mode (label : HostLabel) : (serveStep runtime host label).mode = host.mode := by
  cases label with
  | openService | openOwner | stop | reconcileMessage | admissionFailure | listInbox
  | recoverQueued | compact => rfl
  | sendMessage | claimInboxMessage | sendReply =>
      simp only [serveStep, Host.commit]
      split <;> rfl
  | consumeReply | claimExecution | runnerHeld | runnerFailed | persistFailure =>
      simp only [serveStep]
      split <;> rfl
  | runnerCompleted =>
      simp only [serveStep]
      split
      · rfl
      · split <;> rfl

/-- Every step of a serving host but its end is a `serveStep`. -/
theorem hostStep_serving (serving : host.mode = .serving) (goesOn : label ≠ .stop) :
    hostStep runtime host label = serveStep runtime host label := by
  cases label with
  | stop => exact absurd rfl goesOn
  | _ => simp only [hostStep, serving]

/-- Outside the serving mode there are no jobs, before and after the step. -/
theorem hostStep_jobs_nil (invariant : HostInvariant host) (notServing : host.mode ≠ .serving) :
    (hostStep runtime host label).jobs = [] := by
  have noJobs : host.jobs = [] := by
    by_contra some_
    exact notServing (invariant.jobsServing some_)
  unfold hostStep
  split
  · rfl
  · exact noJobs
  · split
    · exact noJobs
    · exact noJobs
  · unfold Host.commit
    split
    · exact noJobs
    · exact noJobs
  next isServing => exact absurd isServing notServing
  · exact noJobs

/-- The jobs after any step, with what the step may have done to their messages. -/
theorem hostStep_jobs (invariant : HostInvariant host)
    (member : job ∈ (hostStep runtime host label).jobs) :
    ((∃ earlier ∈ host.jobs, earlier.messageId = job.messageId) ∧
        (CompletesRunner label job.messageId ∨ Reconciles label →
          (hostStep runtime host label).journal = host.journal)) ∨
      ((hostStep runtime host label).journal.type? job.messageId = some .runner ∧
        (hostStep runtime host label).journal.phase? job.messageId = some .executing) := by
  by_cases serving : host.mode = .serving
  · by_cases ends : label = .stop
    · subst ends
      simp [hostStep] at member
    · rw [hostStep_serving serving ends] at member ⊢
      rcases serveStep_jobs member with ⟨earlier, unchanged⟩ | claimed
      · refine .inl ⟨earlier, fun closing => ?_⟩
        rcases closing with completes | ⟨request, now, rfl⟩
        · exact unchanged completes
        · rfl
      · exact .inr claimed
  · rw [hostStep_jobs_nil invariant serving] at member
    cases member

/-- Every step keeps the invariant. -/
theorem hostStep_invariant (host : Host) (label : HostLabel) (invariant : HostInvariant host) :
    HostInvariant (hostStep runtime host label) := by
  refine ⟨fun job member => ?_, fun messageId replyId replied => ?_, fun some_ => ?_⟩
  · rcases hostStep_jobs invariant member with ⟨⟨earlier, there, sameId⟩, closing⟩ | claimed
    · obtain ⟨runner, unfinished⟩ := invariant.jobsUnfinished earlier there
      rw [sameId] at runner unfinished
      have move := hostStep_move runtime invariant label job.messageId
      cases move with
      | quiet phase type => rw [phase, type]; exact ⟨runner, unfinished⟩
      | queue absent => rw [absent] at unfinished; simp at unfinished
      | claim queued => rw [queued] at unfinished; simp at unfinished
      | hold _ held type => rw [held, type]; exact ⟨runner, .inr rfl⟩
      | complete _ executing completed type allowed =>
          rcases allowed with interactive | completes
          · rw [runner] at interactive; cases interactive
          · rw [closing (.inl completes), executing] at completed; cases completed
      | reconcile _ reconciled held closed =>
          rw [closing (.inr reconciled), held] at closed
          simp at closed
      | remove finished =>
          rcases finished with finished | finished
          · rw [finished] at unfinished; simp at unfinished
          · rw [finished] at unfinished; simp at unfinished
    · exact ⟨claimed.1, .inl claimed.2⟩
  · have move := hostStep_move runtime invariant label messageId
    cases move with
    | quiet phase _ replies => rw [phase]; exact invariant.repliedCompleted _ _ (replies _ replied)
    | queue absent _ replies =>
        rw [invariant.repliedCompleted _ _ (replies _ replied)] at absent; cases absent
    | claim queued _ _ replies =>
        rw [invariant.repliedCompleted _ _ (replies _ replied)] at queued; cases queued
    | hold unfinished _ _ replies =>
        rw [invariant.repliedCompleted _ _ (replies _ replied)] at unfinished; simp at unfinished
    | complete _ _ completed => exact completed
    | reconcile _ _ held _ _ replies =>
        rcases replies _ replied with old | ⟨-, completed⟩
        · rw [invariant.repliedCompleted _ _ old] at held; cases held
        · exact completed
    | remove _ _ unreplied => exact absurd replied (unreplied replyId)
  · by_cases serving : host.mode = .serving
    · cases label with
      | stop => exact absurd rfl some_
      | _ =>
          rw [hostStep_serving serving (by simp), serveStep_mode]
          exact serving
    · exact absurd (hostStep_jobs_nil invariant serving) some_

/-- Every reachable host keeps the invariant. -/
theorem run_invariant (labels : List HostLabel) :
    HostInvariant ((hostMachine runtime).run labels) := by
  refine Machine.invariant_runFrom hostStep_invariant ⟨?_, ?_, ?_⟩ labels
  · intro job member
    cases member
  · rintro messageId replyId ⟨reply, found, -⟩
    cases found
  · intro some_
    exact absurd rfl some_

end

/-- The moves of the phase of an existing row. -/
def AllowedPhase (reconciled : Prop) : Phase → Phase → Prop
  | .queuedLocal, .executing => True
  | .queuedLocal, .held => True
  | .executing, .completed => True
  | .executing, .held => True
  | .held, .completed => reconciled
  | .held, .failed => reconciled
  | before, after => before = after

/-- The moves of a row: it appears queued and disappears only when finished. -/
def AllowedRow (reconciled : Prop) : Option Phase → Option Phase → Prop
  | none, none => True
  | none, some after => after = .queuedLocal
  | some before, none => before = .completed ∨ before = .failed
  | some before, some after => AllowedPhase reconciled before after

theorem AllowedPhase.refl {reconciled : Prop} (phase : Phase) :
    AllowedPhase reconciled phase phase := by
  cases phase with
  | queuedLocal | executing | completed | held | failed => rfl

/-- A life move moves the phase as allowed. -/
theorem LifeMove.allowedRow {completes reconciles : Prop} {messageId : String}
    {before after : Journal} (move : LifeMove completes reconciles messageId before after) :
    AllowedRow reconciles (before.phase? messageId) (after.phase? messageId) := by
  cases move with
  | quiet phase =>
      rw [phase]
      cases before.phase? messageId with
      | none => trivial
      | some current => exact AllowedPhase.refl current
  | queue absent queued => rw [absent, queued]; rfl
  | claim queued executing => rw [queued, executing]; trivial
  | hold unfinished held =>
      rcases unfinished with phase | phase
      · rw [phase, held]; trivial
      · rw [phase, held]; trivial
  | complete _ executing completed => rw [executing, completed]; trivial
  | reconcile _ reconciled held closed =>
      rcases closed with phase | phase
      · rw [held, phase]; exact reconciled
      · rw [held, phase]; exact reconciled
  | remove finished absent =>
      rcases finished with phase | phase
      · rw [absent, phase]; exact .inl rfl
      · rw [absent, phase]; exact .inr rfl

section

variable (runtime : JournalRuntime)

/-- The step claims the message for execution. -/
def ClaimsMessage (host : Host) (label : HostLabel) (messageId : String) : Prop :=
  host.journal.phase? messageId = some .queuedLocal ∧
    (hostStep runtime host label).journal.phase? messageId = some .executing

/-- The step stores `replyId` as a new reply to the message. -/
def InsertsReply (host : Host) (label : HostLabel) (messageId replyId : String) : Prop :=
  ¬ host.journal.Replied messageId replyId ∧
    (hostStep runtime host label).journal.Replied messageId replyId

/-- The row of the message is gone somewhere along `labels`, run from `host`. -/
def GoneAlong (host : Host) (labels : List HostLabel) (messageId : String) : Prop :=
  ∃ kept dropped, labels = kept ++ dropped ∧
    ((hostMachine runtime).runFrom host kept).journal.phase? messageId = none

/-- The life of one message over one run. -/
structure LifeCycle (labels : List HostLabel) (messageId : String) : Prop where
  moves : ∀ before label after, labels = before ++ label :: after →
    AllowedRow (Reconciles label)
      (((hostMachine runtime).run before).journal.phase? messageId)
      (((hostMachine runtime).run (before ++ [label])).journal.phase? messageId)
  claimedOnce : ∀ before first middle second after,
    labels = before ++ first :: (middle ++ second :: after) →
    ClaimsMessage runtime ((hostMachine runtime).run before) first messageId →
    ClaimsMessage runtime ((hostMachine runtime).run (before ++ first :: middle)) second
      messageId →
    GoneAlong runtime ((hostMachine runtime).run (before ++ [first])) middle messageId
  repliedOnce : ∀ before first middle second after replyId otherId,
    labels = before ++ first :: (middle ++ second :: after) →
    InsertsReply runtime ((hostMachine runtime).run before) first messageId replyId →
    InsertsReply runtime ((hostMachine runtime).run (before ++ first :: middle)) second
      messageId otherId →
    GoneAlong runtime ((hostMachine runtime).run (before ++ [first])) middle messageId
  replyUnique : ∀ before label after replyId otherId, labels = before ++ label :: after →
    InsertsReply runtime ((hostMachine runtime).run before) label messageId replyId →
    InsertsReply runtime ((hostMachine runtime).run before) label messageId otherId →
    replyId = otherId
  replyCompletes : ∀ before label after replyId, labels = before ++ label :: after →
    InsertsReply runtime ((hostMachine runtime).run before) label messageId replyId →
    ((hostMachine runtime).run before).journal.phase? messageId ≠ some .completed ∧
      ((hostMachine runtime).run (before ++ [label])).journal.phase? messageId = some .completed

variable {runtime}

variable {host : Host}

/-- A set of phases that no move leaves is not left while the row exists. -/
theorem runFrom_phase (keeps : Phase → Prop) {messageId : String}
    (closed : ∀ reconciled before after, keeps before → AllowedPhase reconciled before after →
      keeps after) (invariant : HostInvariant host) {phase : Phase}
    (current : host.journal.phase? messageId = some phase) (kept : keeps phase)
    (labels : List HostLabel) :
    GoneAlong runtime host labels messageId ∨
      ∃ final, ((hostMachine runtime).runFrom host labels).journal.phase? messageId = some final ∧
        keeps final := by
  induction labels generalizing host phase with
  | nil => exact .inr ⟨phase, current, kept⟩
  | cons label rest ih =>
      have allowed := (hostStep_move runtime invariant label messageId).allowedRow
      rw [current] at allowed
      cases next : (hostStep runtime host label).journal.phase? messageId with
      | none => exact .inl ⟨[label], rest, rfl, next⟩
      | some following =>
          rw [next] at allowed
          have stillKept := closed _ _ _ kept allowed
          rcases ih (hostStep_invariant host label invariant) next stillKept with
            ⟨before, after, rfl, gone⟩ | final
          · exact .inl ⟨label :: before, after, rfl, gone⟩
          · exact .inr final

/-- A new reply is stored by the step that completes its message, one per step. -/
theorem insertsReply_completes (invariant : HostInvariant host) {label : HostLabel}
    {messageId replyId : String} (inserts : InsertsReply runtime host label messageId replyId) :
    host.journal.phase? messageId ≠ some .completed ∧
      (hostStep runtime host label).journal.phase? messageId = some .completed ∧
      ∀ otherId, InsertsReply runtime host label messageId otherId → otherId = replyId := by
  obtain ⟨fresh, replied⟩ := inserts
  cases hostStep_move runtime invariant label messageId with
  | quiet _ _ replies | queue _ _ replies | claim _ _ _ replies | hold _ _ _ replies =>
      exact absurd (replies replyId replied) fresh
  | complete newReply executing completed _ _ replies =>
      refine ⟨by rw [executing]; simp, completed, ?_⟩
      rintro otherId ⟨otherFresh, otherReplied⟩
      rw [(replies otherId otherReplied).resolve_left otherFresh,
        (replies replyId replied).resolve_left fresh]
  | reconcile newReply _ held _ _ replies =>
      refine ⟨by rw [held]; simp, ((replies replyId replied).resolve_left fresh).2, ?_⟩
      rintro otherId ⟨otherFresh, otherReplied⟩
      rw [((replies otherId otherReplied).resolve_left otherFresh).1,
        ((replies replyId replied).resolve_left fresh).1]
  | remove _ _ unreplied => exact absurd replied (unreplied replyId)

/-- Over every run, every message keeps to its life cycle. -/
theorem message_lifeCycle (runtime : JournalRuntime) (labels : List HostLabel)
    (messageId : String) : LifeCycle runtime labels messageId := by
  refine ⟨fun before label _ _ => ?_, fun before first middle second _ _ firstClaim secondClaim => ?_,
    fun before first middle second _ replyId otherId _ firstReply secondReply => ?_,
    fun before label _ replyId otherId _ inserts other => ?_,
    fun before label _ replyId _ inserts => ?_⟩
  · rw [Machine.run_snoc]
    exact (hostStep_move runtime (run_invariant before) label messageId).allowedRow
  · -- After the first claim the row is never queued again while it exists.
    have executing := firstClaim.2
    have invariant : HostInvariant (hostStep runtime ((hostMachine runtime).run before) first) :=
      hostStep_invariant _ first (run_invariant before)
    have closed : ∀ reconciled before after, before ≠ .queuedLocal →
        AllowedPhase reconciled before after → after ≠ .queuedLocal := by
      rintro reconciled earlier later notQueued allowed rfl
      cases earlier with
      | queuedLocal => exact notQueued rfl
      | executing | completed | held | failed => cases allowed
    rw [Machine.run_snoc]
    rcases runFrom_phase (· ≠ .queuedLocal) closed invariant executing (by decide) middle with
      gone | ⟨final, phase, notQueued⟩
    · exact gone
    · have queued := secondClaim.1
      rw [Machine.run, Machine.runFrom_append, Machine.runFrom_cons] at queued
      exact absurd (Option.mem_unique phase queued) notQueued
  · have completed := (insertsReply_completes (run_invariant before) firstReply).2.1
    have invariant : HostInvariant (hostStep runtime ((hostMachine runtime).run before) first) :=
      hostStep_invariant _ first (run_invariant before)
    have closed : ∀ reconciled before after, before = .completed →
        AllowedPhase reconciled before after → after = .completed := by
      rintro reconciled earlier later rfl allowed
      cases later with
      | completed => rfl
      | queuedLocal | executing | held | failed => cases allowed
    rw [Machine.run_snoc]
    rcases runFrom_phase (· = .completed) closed invariant completed rfl middle with
      gone | ⟨final, phase, rfl⟩
    · exact gone
    · have notCompleted := (insertsReply_completes (run_invariant _) secondReply).1
      rw [Machine.run, Machine.runFrom_append, Machine.runFrom_cons] at notCompleted
      exact absurd phase notCompleted
  · exact (insertsReply_completes (run_invariant before) other).2.2 replyId inserts
  · rw [Machine.run_snoc]
    obtain ⟨notBefore, nowCompleted, -⟩ := insertsReply_completes (run_invariant before) inserts
    exact ⟨notBefore, nowCompleted⟩

end

end Triangle.LocalMessaging
