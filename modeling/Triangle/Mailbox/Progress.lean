import Triangle.Mailbox.Safety

/-!
# Progress of an open transaction

`replace` compares the stored record with the new one by identity only. While a
transaction stays open its state, its reply and its failure count move forward
in every run in which no `replace` is overtaken, that is, in which no other
command has meanwhile recorded what the write from an older copy takes back.
-/

namespace Triangle.Mailbox

open Triangle.Std Triangle.Semantics

/-- The order prepared, claimed, replied. -/
def TransactionState.rank : TransactionState → Nat
  | .prepared => 0
  | .claimed => 1
  | .replied => 2

/-- A later version of a record takes nothing back. -/
structure Progress (earlier later : OpenTransaction) : Prop where
  state : earlier.state.rank ≤ later.state.rank
  reply : ∀ eventID, earlier.replyEventID = some eventID → later.replyEventID = some eventID
  failures : earlier.failureCount ≤ later.failureCount

theorem Progress.refl (record : OpenTransaction) : Progress record record :=
  ⟨Nat.le_refl _, fun _ isReply => isReply, Nat.le_refl _⟩

theorem Progress.trans {first second third : OpenTransaction} (early : Progress first second)
    (late : Progress second third) : Progress first third where
  state := Nat.le_trans early.state late.state
  reply eventID isReply := late.reply eventID (early.reply eventID isReply)
  failures := Nat.le_trans early.failures late.failures

/-- What may have happened to the stored record since the copy `read` was read,
for a write of `next`. A write that leaves the state is that of `recordFailure`. -/
def StillInTime (read next current : OpenTransaction) : Prop :=
  (next.state = read.state →
      current.state = read.state ∧ current.failureCount ≤ read.failureCount + 1) ∧
    (next.state ≠ read.state →
      current.failureCount ≤ read.failureCount ∧
        (read.state = .prepared → current.state ≠ .replied))

instance (read next current : OpenTransaction) : Decidable (StillInTime read next current) :=
  inferInstanceAs (Decidable (_ ∧ _))

/-- No `replace` is overtaken by another command. -/
def NotOvertaken (state : HelperState) (event : HelperEvent) : Prop :=
  ∀ process next, Interleaving.calls state event = some (process, Call.replace next) →
    ∀ current, state.world.store.openFile = some current →
      ∀ read, state.world.seen process = some read → StillInTime read next current

variable {sha256Hex : String → String} {instanceID : ClientInstanceId}

variable {earlier later : OpenTransaction} {server : Server} {state : HelperState}
  {event : HelperEvent}

/-- A record that stays open over a call is the same, or the call replaced it. -/
theorem perform_openFile {process : Nat} {world : World} {request : Call} {choice : Choice}
    (wasOpen : world.store.openFile = some earlier)
    (isOpen : (perform sha256Hex instanceID process world request choice).1.store.openFile =
      some later) :
    later = earlier ∨
      ∃ next, request = .replace next ∧ later = next ∧ Store.SameTransaction earlier next := by
  -- All calls but the writes of the store leave its record alone.
  have unchanged : ∀ store : Store, store = world.store → store.openFile = some later →
      later = earlier := by
    rintro store rfl stillOpen
    rw [wasOpen] at stillOpen
    exact (Option.some.inj stillOpen).symm
  cases request with
  | readOpen =>
      left
      unfold perform at isOpen
      dsimp only at isOpen
      split at isOpen
      · exact unchanged _ rfl isOpen
      · exact unchanged _ rfl isOpen
  | prepare transaction =>
      left
      have result : (perform sha256Hex instanceID process world (.prepare transaction)
          choice).1.store = (settleWrite world.store (world.store.prepare sha256Hex transaction)
            choice.fate).1 := by
        unfold perform
        dsimp only
        split <;> rfl
      rw [result] at isOpen
      rcases (settleWrite_cases world.store (world.store.prepare sha256Hex transaction)
        choice.fate).1 with same | prepared
      · exact unchanged _ same isOpen
      · rw [(Store.prepare_ok prepared).1] at wasOpen
        cases wasOpen
  | replace transaction =>
      have result : (perform sha256Hex instanceID process world (.replace transaction)
          choice).1.store = (settleWrite world.store (world.store.replace sha256Hex transaction)
            choice.fate).1 := by
        unfold perform
        dsimp only
        split <;> rfl
      rw [result] at isOpen
      rcases (settleWrite_cases world.store (world.store.replace sha256Hex transaction)
        choice.fate).1 with same | replaced
      · exact .inl (unchanged _ same isOpen)
      · obtain ⟨current, isCurrent, sameTransaction, isNext⟩ := Store.replace_ok replaced
        rw [isNext] at isOpen
        rw [wasOpen] at isCurrent
        cases isCurrent
        exact .inr ⟨transaction, rfl, (Option.some.inj isOpen).symm, sameTransaction⟩
  | clear expected =>
      left
      have result : (perform sha256Hex instanceID process world (.clear expected)
          choice).1.store = (settleWrite world.store
            (world.store.clear sha256Hex instanceID expected) choice.fate).1 := by
        unfold perform
        dsimp only
        split <;> rfl
      rw [result] at isOpen
      rcases (settleWrite_cases world.store (world.store.clear sha256Hex instanceID expected)
        choice.fate).1 with same | cleared
      · exact unchanged _ same isOpen
      · obtain ⟨_, -, -, isNext⟩ := Store.clear_ok cleared
        rw [isNext] at isOpen
        cases isOpen
  | abandon =>
      left
      have result : (perform sha256Hex instanceID process world .abandon choice).1.store =
          (settleAbandon world.store
            (world.store.quarantineEntry sha256Hex instanceID choice.now) choice.fate).1 := by
        unfold perform
        dsimp only
        split <;> rfl
      rw [result] at isOpen
      rcases settleAbandon_cases world.store
        (world.store.quarantineEntry sha256Hex instanceID choice.now) choice.fate with
        same | ⟨entry, -, isNext | isNext⟩
      · exact unchanged _ same isOpen
      · rw [isNext] at isOpen
        exact (Option.mem_unique wasOpen isOpen).symm
      · rw [isNext] at isOpen
        cases isOpen
  | listQuarantined | now | listPendingCandidates | claim => exact .inl (unchanged _ rfl isOpen)
  | sendReply roomID key text inReplyTo =>
      left
      have result : (perform sha256Hex instanceID process world
          (.sendReply roomID key text inReplyTo) choice).1.store = world.store := by
        unfold perform
        dsimp only
        cases choice.fate <;> rfl
      exact unchanged _ result isOpen
  | lookupReplyEventID | acknowledge => exact .inl (unchanged _ rfl isOpen)

/-- The server holds one reply of a key, so two records of one delivery that
name a reply name the same one. -/
theorem sameReply (distinct : (server.replies.map ReplyEvent.idempotencyKey).Nodup)
    {first second : OpenTransaction} (firstBacked : Backed server first)
    (secondBacked : Backed server second)
    (sameKey : first.replyIdempotencyKey = second.replyIdempotencyKey) {one other : EventId}
    (isOne : first.replyEventID = some one) (isOther : second.replyEventID = some other) :
    one = other := by
  obtain ⟨event, member, -, isKey, rfl⟩ := firstBacked one isOne
  obtain ⟨otherEvent, otherMember, -, otherKey, rfl⟩ := secondBacked other isOther
  have sameEvent : event = otherEvent := by
    apply List.inj_on_of_nodup_map distinct member otherMember
    rw [isKey, otherKey, sameKey]
  rw [sameEvent]

/-- A write that is still in time takes nothing back. -/
theorem Advance.progress {committed : Option (RoomId × String × EventId)}
    {read next current : OpenTransaction} (advance : Advance committed read next)
    (inTime : StillInTime read next current) (currentFormed : current.WellFormed sha256Hex)
    (nextFormed : next.WellFormed sha256Hex)
    (distinct : (server.replies.map ReplyEvent.idempotencyKey).Nodup)
    (currentBacked : Backed server current) (nextBacked : Backed server next)
    (sameKey : current.replyIdempotencyKey = next.replyIdempotencyKey) : Progress current next := by
  -- A stored reply survives when the new record is replied too.
  have reply : (current.state = .replied → next.state = .replied) → ∀ eventID,
      current.replyEventID = some eventID → next.replyEventID = some eventID := by
    intro staysReplied eventID isReply
    have isReplied : current.state = .replied := by
      by_contra open_
      rw [(currentFormed.unreplied open_).1] at isReply
      cases isReply
    obtain ⟨other, isOther⟩ := nextFormed.replied (staysReplied isReplied)
    rw [isOther, sameReply distinct currentBacked nextBacked sameKey isReply isOther]
  cases advance with
  | claimed wasPrepared =>
      obtain ⟨failures, unreplied⟩ := inTime.2 (by simp [wasPrepared])
      have notReplied := unreplied wasPrepared
      refine ⟨?_, reply fun isReplied => absurd isReplied notReplied, failures⟩
      cases state : current.state with
      | prepared => exact Nat.zero_le _
      | claimed => exact Nat.le_refl _
      | replied => exact absurd state notReplied
  | replied wasClaimed isCommitted =>
      refine ⟨?_, reply fun _ => rfl, (inTime.2 (by simp [wasClaimed])).1⟩
      change current.state.rank ≤ 2
      cases current.state <;> decide
  | failed =>
      obtain ⟨sameState, failures⟩ := inTime.1 rfl
      refine ⟨Nat.le_of_eq (congrArg _ sameState), reply fun isReplied => ?_, ?_⟩
      · rw [← sameState, isReplied]
      · have bounded : current.failureCount ≤ 10000 := currentFormed.1.2.2.1
        exact le_min failures bounded

/-- One event keeps the progress of a record that stays open over it. -/
theorem step_progress (sound : HelpersSound sha256Hex instanceID (fun _ => True) state)
    (inTime : NotOvertaken state event) (wasOpen : state.world.store.openFile = some earlier)
    (isOpen : ((helpers sha256Hex instanceID).step state event).world.store.openFile =
      some later) : Progress earlier later := by
  have unchanged : ((helpers sha256Hex instanceID).step state event).world.store.openFile =
      state.world.store.openFile → Progress earlier later := by
    intro same
    rw [same, wasOpen] at isOpen
    cases isOpen
    exact Progress.refl earlier
  cases event with
  | crash process => exact unchanged rfl
  | start process command =>
      apply unchanged
      cases running : state.running process with
      | some program => rw [Interleaving.step_start_busy running]
      | none =>
          rw [Interleaving.step_start running]
          rfl
  | resume process choice =>
      cases running : state.running process with
      | none =>
          apply unchanged
          rw [Interleaving.step_resume_idle running]
      | some program =>
          cases program with
          | done result =>
              apply unchanged
              rw [Interleaving.step_resume_done running]
          | call request next =>
              obtain ⟨known, knows, allowed, -⟩ := sound.contract process _ running
              rw [Interleaving.step_resume_call running] at isOpen
              rcases perform_openFile wasOpen isOpen with rfl | ⟨changed, rfl, rfl, same⟩
              · exact Progress.refl later
              · obtain ⟨genuine, read, isSeen, advance⟩ := allowed
                obtain ⟨currentGenuine, currentBacked⟩ := sound.world.openGenuine earlier wasOpen
                have nextBacked : Backed state.world.server later :=
                  advance.backed (knows.genuine read isSeen).2 knows.committed
                have isCall : Interleaving.calls state (.resume process choice : HelperEvent) =
                    some (process, Call.replace later) := by
                  simp [Interleaving.calls, running]
                exact advance.progress
                  (inTime process later isCall earlier wasOpen read (knows.seen.trans isSeen))
                  currentGenuine.1 genuine.1 sound.world.distinctKeys currentBacked nextBacked
                  same.2.2.2.2.1

/-- The record stays open over an event. -/
def StaysOpen (sha256Hex : String → String) (instanceID : ClientInstanceId) (state : HelperState)
    (event : HelperEvent) : Prop :=
  ((helpers sha256Hex instanceID).step state event).world.store.openFile.isSome = true

instance (state : HelperState) (event : HelperEvent) :
    Decidable (StaysOpen sha256Hex instanceID state event) :=
  inferInstanceAs (Decidable (_ = true))

/-- Over every stretch of a run on which a transaction stays open, from any
state the run reaches, no progress is undone, if no `replace` is overtaken. -/
theorem progress_never_undone (sha256Hex : String → String) (instanceID : ClientInstanceId)
    (before during : List HelperEvent)
    (inTime : (helperMachine sha256Hex instanceID).Along NotOvertaken
      (helperMachine sha256Hex instanceID).initial (before ++ during))
    (staysOpen : (helperMachine sha256Hex instanceID).Along (StaysOpen sha256Hex instanceID)
      ((helperMachine sha256Hex instanceID).run before) during)
    (earlier later : OpenTransaction)
    (isEarlier : ((helperMachine sha256Hex instanceID).run before).world.store.openFile =
      some earlier)
    (isLater : ((helperMachine sha256Hex instanceID).run (before ++ during)).world.store.openFile =
      some later) : Progress earlier later := by
  rw [Machine.along_append] at inTime
  have sound : HelpersSound sha256Hex instanceID (fun _ => True)
      ((helperMachine sha256Hex instanceID).run before) := helpersSound_run before
  rw [Machine.run, Machine.runFrom_append] at isLater
  change ((helperMachine sha256Hex instanceID).runFrom
    ((helperMachine sha256Hex instanceID).run before) during).world.store.openFile = _ at isLater
  have onwards : (helperMachine sha256Hex instanceID).Along NotOvertaken
      ((helperMachine sha256Hex instanceID).run before) during := inTime.2
  clear inTime
  generalize (helperMachine sha256Hex instanceID).run before = state at *
  induction during generalizing state earlier with
  | nil =>
      rw [Machine.runFrom_nil, isEarlier] at isLater
      cases isLater
      exact Progress.refl _
  | cons event rest ih =>
      obtain ⟨next, isNext⟩ := Option.isSome_iff_exists.mp staysOpen.1
      have first := step_progress sound onwards.1 isEarlier isNext
      exact first.trans (ih next _ staysOpen.2 isNext
        (helpersSound_step_any sound) isLater onwards.2)

/-! ## A failure that overwrites a reply -/

/-- `NotOvertaken` as a test. -/
def notOvertaken (state : HelperState) (event : HelperEvent) : Bool :=
  match Interleaving.calls state event with
  | some (process, .replace next) =>
      match state.world.store.openFile, state.world.seen process with
      | some current, some read => StillInTime read next current
      | _, _ => true
  | _ => true

theorem notOvertaken_of_test (passes : notOvertaken state event = true) :
    NotOvertaken state event := by
  intro process next isCall current isOpen read isSeen
  simpa [notOvertaken, isCall, isOpen, isSeen] using passes

/-- Process 0 claims delivery 41. -/
def claims41 : List HelperEvent :=
  runs 0 (.claim .coordinatorDeliveryV1 41 sampleRoom none none true) 7

/-- Process 0 replies to the open delivery. -/
def replies41 : List HelperEvent :=
  runs 0 (.reply .coordinatorDeliveryV1 sampleRoom "done" none) 4

/-- Process 1 reads the record to report a failure. -/
def readsToFail : List HelperEvent :=
  runs 1 (.recordFailure .coordinatorDeliveryV1 "model_failed") 1

/-- The open record after a run of the sample instance. -/
def sampleOpen (events : List HelperEvent) : Option OpenTransaction :=
  ((helperMachine sampleDigest sampleInstance).run events).world.store.openFile

/-- The state of the open record and whether it has a reply. -/
def sampleStanding (events : List HelperEvent) : Option (Nat × Bool) :=
  (sampleOpen events).map fun record => (record.state.rank, record.replyEventID.isSome)

theorem progress_never_undone_replied :
    ∃ earlier later, sampleOpen claims41 = some earlier ∧
      sampleOpen (claims41 ++ replies41) = some later ∧ earlier.state = .claimed ∧
      later.state = .replied ∧ Progress earlier later := by
  -- One evaluation, so that the run is computed once.
  have evaluated : (helperMachine sampleDigest sampleInstance).Along
      (fun state event => notOvertaken state event = true)
      (helperMachine sampleDigest sampleInstance).initial (claims41 ++ replies41) ∧
      (helperMachine sampleDigest sampleInstance).Along (StaysOpen sampleDigest sampleInstance)
        ((helperMachine sampleDigest sampleInstance).run claims41) replies41 ∧
      (sampleOpen claims41).map OpenTransaction.state = some .claimed ∧
      (sampleOpen (claims41 ++ replies41)).map OpenTransaction.state = some .replied := by
    decide +kernel
  obtain ⟨passes, staysOpen, early, late⟩ := evaluated
  have inTime := passes.mono fun _ _ passes => notOvertaken_of_test passes
  obtain ⟨earlier, isEarlier, isClaimed⟩ := Option.map_eq_some_iff.mp early
  obtain ⟨later, isLater, isReplied⟩ := Option.map_eq_some_iff.mp late
  exact ⟨earlier, later, isEarlier, isLater, isClaimed, isReplied,
    progress_never_undone _ _ _ _ inTime staysOpen earlier later isEarlier isLater⟩

/-- Process 1 writes its failure into the copy from before the reply: the record
is claimed again and its reply is gone. -/
theorem failure_takes_reply_back :
    ¬ ∀ (before during : List HelperEvent), (helperMachine sampleDigest sampleInstance).Along
      (StaysOpen sampleDigest sampleInstance)
      ((helperMachine sampleDigest sampleInstance).run before) during →
      ∀ earlier later, sampleOpen before = some earlier →
        sampleOpen (before ++ during) = some later → Progress earlier later := by
  intro neverUndone
  have evaluated : (helperMachine sampleDigest sampleInstance).Along
      (StaysOpen sampleDigest sampleInstance)
      ((helperMachine sampleDigest sampleInstance).run (claims41 ++ readsToFail ++ replies41))
      [.resume 1 sampleChoice] ∧
      sampleStanding (claims41 ++ readsToFail ++ replies41) = some (2, true) ∧
      sampleStanding (claims41 ++ readsToFail ++ replies41 ++ [.resume 1 sampleChoice]) =
        some (1, false) := by
    decide +kernel
  obtain ⟨staysOpen, early, late⟩ := evaluated
  obtain ⟨earlier, isEarlier, wasReplied⟩ := Option.map_eq_some_iff.mp early
  obtain ⟨later, isLater, isClaimed⟩ := Option.map_eq_some_iff.mp late
  have kept := (neverUndone _ _ staysOpen earlier later isEarlier isLater).state
  simp only [Prod.mk.injEq] at wasReplied isClaimed
  omega

end Triangle.Mailbox
