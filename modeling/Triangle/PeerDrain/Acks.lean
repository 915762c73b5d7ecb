import Triangle.PeerDrain.Custody

/-!
# Every acked item has a record

Each effect of the service keeps custody of a message: what it asks an ack for
is decided, and what was decided stays so until the sweep removes it.
-/

namespace Triangle.PeerDrain

open Triangle.Std
open Triangle.Semantics (Machine)

section

variable {world after : DrainWorld} {key : MessageKey} {requested : Prop} {digest : String → String}

/-! ## Effects of a step about the message -/

theorem Custody.unasked (custody : Custody after requested key) (asksNot : AsksNot key world after) :
    Custody after (key ∈ asked world after ∨ requested) key :=
  custody.mono fun either => either.resolve_left (asked_not asksNot)

theorem afterAck_custody (row : RowCustody (world.journal.getRow key) requested)
    (next : AfterAck) :
    Custody (afterAck world key next) requested key ∧
      (afterAck world key next).acksSent = world.acksSent := by
  unfold afterAck
  cases next with
  | finish => exact ⟨row.finish, rfl⟩
  | close => exact ⟨row.goTo trivial, rfl⟩
  | outcome state reason =>
      dsimp only
      split
      · exact ⟨row.finish, rfl⟩
      · exact ⟨row.goTo trivial, rfl⟩
  | replyView => exact ⟨row.goTo trivial, rfl⟩

section

variable (row : RowCustody (world.journal.getRow key) requested)
include row

/-- The ack that a step asks for is one of a decided message. -/
theorem ackItem_custody (next : AfterAck)
    (decided : ∃ stored, world.journal.getRow key = some stored ∧ stored.IsDecided) :
    Custody (ackItem world key next) (key ∈ asked world (ackItem world key next) ∨ requested)
      key := by
  unfold ackItem
  split
  · obtain ⟨goesOn, same⟩ := afterAck_custody row next
    exact goesOn.unasked (.inl same)
  · have isAsked : RowCustody (world.journal.getRow key) True := ⟨row.counts, fun _ => decided⟩
    have goesOn : Custody ({ world with acksSent := key :: world.acksSent }.goTo (.acking key next))
        True key := by
      apply RowCustody.goTo
      · exact isAsked
      · trivial
    exact goesOn.mono fun _ => trivial

theorem deliverReply_custody {reply : Record}
    (hasReply : reply.key = key → Point.Relies.HasReply (world.journal.getRow key)) :
    Custody (deliverReply digest world reply) requested key ∧
      (deliverReply digest world reply).acksSent = world.acksSent := by
  unfold deliverReply
  split
  · exact ⟨row.goTo hasReply, rfl⟩
  · split
    · exact ⟨row.goTo hasReply, rfl⟩
    · exact ⟨row.goTo hasReply, rfl⟩

theorem rejectItem_custody (item : InboxItem) (reason : String) (isKey : item.key = key)
    (isValid : isEndpoint key.1 = true ∧ isIdentifier key.2 = true) :
    Custody (rejectItem world item reason) requested key ∧
      (rejectItem world item reason).acksSent = world.acksSent := by
  subst isKey
  unfold rejectItem
  dsimp only
  rw [if_pos (by simpa [InboxItem.key] using isValid)]
  split
  next inserted isInserted =>
    refine ⟨RowCustody.write (RowCustody.insert isInserted rfl rfl (by simp) (by simp)) fun _ => ?_,
      rfl⟩
    rw [(getRow_insertRow isInserted).2]
    exact ⟨_, if_pos rfl, .inl (by simp)⟩
  next isTaken =>
    refine ⟨RowCustody.write (row.decide ?_ .rejected (fun _ => rfl) (by simp)) fun _ => ?_, rfl⟩
    · exact fun _ => ⟨rfl, rfl⟩
    cases found : world.journal.getRow item.key with
    | none =>
        obtain ⟨inserted, isInserted⟩ := @insertRow_free world.journal
          { sender := item.fromEndpointId
            messageId := item.messageId
            inputHash := item.payloadHash.getD ""
            phase := .rejected
            reason := some reason
            terminalAt := some world.clock
            createdAt := world.clock
            updatedAt := world.clock } found
        rw [isInserted] at isTaken
        cases isTaken
    | some stored => exact ⟨_, getRow_updateRow_self found, .inl (by simp)⟩

theorem callRunner_custody (aborted : Bool) (work : Work)
    (turn : work.key = key → (work.isNew = true → ¬ requested) ∧
      ∃ stored, world.journal.getRow key = some stored ∧ stored.phase = .executing) :
    Custody (callRunner world aborted work) requested key ∧
      (callRunner world aborted work).acksSent = world.acksSent := by
  unfold callRunner
  split
  · exact ⟨row.goTo turn, rfl⟩
  · split
    · split
      · exact ⟨row.goTo turn, rfl⟩
      · exact ⟨row.goTo turn, rfl⟩
    · dsimp only
      split
      · refine ⟨?_, rfl⟩
        apply RowCustody.goTo
        · exact row
        · exact turn
      · refine ⟨?_, rfl⟩
        apply RowCustody.goTo
        · exact row
        · exact turn

/-- A turn that the runner never started is forgotten only if no ack was asked for. -/
theorem dropTurn_custody (work : Work) (notRequested : work.isNew = true → ¬ requested) :
    Custody (dropTurn world work) requested key ∧
      (dropTurn world work).acksSent = world.acksSent := by
  unfold dropTurn
  dsimp only
  split
  next isNew =>
    refine ⟨RowCustody.writeLast ⟨fun stored isStored => ?_, fun isRequested => ?_⟩, rfl⟩
    · rw [getRow_deleteWhere] at isStored
      exact row.counts stored (Option.filter_eq_some_iff.mp isStored).1
    · exact absurd isRequested (notRequested isNew)
  · refine ⟨RowCustody.writeLast ?_, rfl⟩
    rw [DrainJournal.getRow_updateWhere]
    cases found : world.journal.getRow key with
    | none =>
        rw [found] at row
        exact row
    | some stored =>
        rw [Option.map_some]
        split
        · refine ⟨fun other isOther => ?_, fun _ => ⟨_, rfl, .inl (by simp)⟩⟩
          cases isOther
          exact @Record.CountsFit.change stored (row.counts stored found)
            (fun row => { row with phase := .held, updatedAt := world.clock })
            (fun _ => ⟨rfl, rfl⟩) nofun nofun
        · rw [found] at row
          exact row

theorem storeResult_custody (work : Work) (text : String) (isKey : work.key = key) {stored : Record}
    (found : world.journal.getRow key = some stored) (isExecuting : stored.phase = .executing) :
    Custody (storeResult digest world work text) requested key ∧
      (storeResult digest world work text).acksSent = world.acksSent := by
  subst isKey
  unfold storeResult
  dsimp only
  split
  · refine ⟨RowCustody.write (row.decide ?_ .replyFailed (fun _ => rfl) (by simp)) fun _ => ?_, rfl⟩
    · exact fun _ => ⟨rfl, rfl⟩
    · exact ⟨_, getRow_updateRow_self found, .inl (by simp)⟩
  · refine ⟨RowCustody.write (row.work found ?_ ?_ ?_) fun _ => ?_, rfl⟩
    · exact fun _ => ⟨rfl, rfl⟩
    · exact .inr rfl
    · exact row.reopened found (.inl isExecuting)
    · exact ⟨_, getRow_updateRow_self found, .inl rfl⟩

/-- An item of the message is acked at once only if its record is final. -/
theorem handleItem_custody (item : InboxItem) (isKey : item.key = key) :
    Custody (handleItem digest world item) requested key ∧
      (handleItem digest world item).acksSent = world.acksSent := by
  subst isKey
  have rejected : ∀ reason, Custody (world.goTo (.reject item reason)) requested item.key :=
    fun reason => row.goTo trivial
  have correlated : ∀ requestId inReplyTo next,
      Point.Relies (world.journal.getRow item.key) requested item.key next →
      Custody (handleItem.correlate world item requestId inReplyTo next) requested item.key ∧
        (handleItem.correlate world item requestId inReplyTo next).acksSent = world.acksSent := by
    intro requestId inReplyTo next relies
    unfold handleItem.correlate
    split
    · exact ⟨rejected _, rfl⟩
    · split
      · exact ⟨rejected _, rfl⟩
      · split
        · exact ⟨rejected _, rfl⟩
        · exact ⟨row.goTo relies, rfl⟩
  have isStored : ∀ stored, (if (isEndpoint item.fromEndpointId && isIdentifier item.messageId) = true
      then world.journal.getRow item.key else none) = some stored →
      world.journal.getRow item.key = some stored := by
    intro stored found
    split at found
    · exact found
    · cases found
  unfold handleItem
  dsimp only
  generalize (if (isEndpoint item.fromEndpointId && isIdentifier item.messageId) = true then
    world.journal.getRow item.key else none) = found at isStored
  split
  next isTerminal =>
    refine ⟨row.goTo fun _ => ?_, rfl⟩
    cases found with
    | none => cases isTerminal
    | some stored =>
        refine ⟨stored, isStored stored rfl, .inl ?_⟩
        revert isTerminal
        cases isPhase : stored.phase <;> simp [Phase.isTerminal, isPhase]
  split
  next stored isOwed =>
    obtain ⟨isFound, hasReply⟩ := Option.filter_eq_some_iff.mp isOwed
    refine ⟨row.goTo fun _ => ⟨stored, isStored stored isFound, ?_⟩, rfl⟩
    simpa using hasReply
  split
  · exact ⟨rejected _, rfl⟩
  split
  · exact ⟨rejected _, rfl⟩
  split
  · exact ⟨rejected _, rfl⟩
  split
  · exact ⟨rejected _, rfl⟩
  split
  · exact ⟨rejected _, rfl⟩
  split
  · exact ⟨rejected _, rfl⟩
  split
  · exact ⟨rejected _, rfl⟩
  split
  · exact ⟨row.goTo fun _ => rfl, rfl⟩
  · exact correlated _ _ _ trivial
  · exact correlated _ _ _ trivial

end

/-- Every effect of a step about the message. -/
theorem advance_custody (custody : Custody world requested key)
    (isValid : isEndpoint key.1 = true ∧ isIdentifier key.2 = true) {flight : Flight}
    (isFlight : world.flight = some flight) (isSubject : flight.point.subject = some key)
    (tie : Nat) :
    Custody (advance digest world tie) (key ∈ asked world (advance digest world tie) ∨ requested)
      key := by
  have relies := custody.point flight isFlight
  have row := custody.row
  unfold advance
  rw [isFlight]
  dsimp only
  generalize flight.point = point at relies isSubject
  cases point with
  | retention | sweepOutbound | choose | polling | replyAcked => cases isSubject
  | resume named =>
      cases isSubject
      obtain ⟨stored, found, isResend⟩ := relies rfl
      have resumed := @getRow_updateRow_self key world.journal
        (fun row => { row with phase := .result, updatedAt := world.clock }) stored found
      dsimp only
      split
      next isGone => exact absurd (resumed.symm.trans isGone) nofun
      next reply isReply =>
        refine Custody.unasked (RowCustody.write (row.work found ?_ ?_ ?_) fun _ => ?_) (.inl rfl)
        · exact fun _ => ⟨rfl, rfl⟩
        · exact .inr rfl
        · exact fun _ => .inr ((row.counts stored found).resent isResend)
        · exact ⟨_, resumed, .inl rfl⟩
  | rerun work =>
      cases isSubject
      obtain ⟨notNew, stored, found, isRetry⟩ := relies rfl
      refine Custody.unasked (RowCustody.write (row.work found ?_ ?_ ?_) fun _ => ⟨?_, ?_⟩) (.inl rfl)
      · exact fun _ => ⟨rfl, rfl⟩
      · exact .inl rfl
      · exact fun _ => .inl ((row.counts stored found).retried isRetry)
      · intro isNew
        rw [notNew] at isNew
        cases isNew
      · exact ⟨_, getRow_updateRow_self found, rfl⟩
  | deliver reply =>
      obtain ⟨goesOn, same⟩ := deliverReply_custody row relies
      exact goesOn.unasked (.inl same)
  | failReply named reason =>
      cases isSubject
      obtain ⟨stored, found, -⟩ := relies rfl
      refine Custody.unasked (RowCustody.write (row.decide ?_ .replyFailed (fun _ => rfl) (by simp))
        fun _ => ?_) (.inl rfl)
      · exact fun _ => ⟨rfl, rfl⟩
      · exact ⟨_, getRow_updateRow_self found, .inl (by simp)⟩
  | markAdmitted named =>
      cases isSubject
      obtain ⟨stored, found, -⟩ := relies rfl
      refine Custody.unasked (RowCustody.write (row.decide ?_ .admitted (fun _ => rfl) (by simp))
        fun _ => ?_) (.inl rfl)
      · exact fun _ => ⟨rfl, rfl⟩
      · exact ⟨_, getRow_updateRow_self found, rfl⟩
  | admitted named =>
      refine Custody.unasked (row.goTo fun isKey => ?_) (.inl rfl)
      obtain ⟨stored, found, isAdmitted⟩ := relies isKey
      exact ⟨stored, found, .inl (by simp [isAdmitted])⟩
  | ack named next =>
      cases isSubject
      exact ackItem_custody row next (relies rfl)
  | markAcked named next =>
      cases isSubject
      have annotated : RowCustody ((world.journal.updateRow key fun row =>
          { row with inputAcked := true, updatedAt := world.clock }).getRow key) requested :=
        row.annotate (fun _ => ⟨rfl, rfl⟩) fun _ => rfl
      obtain ⟨goesOn, same⟩ := @afterAck_custody (world.write _) key requested annotated next
      exact goesOn.unasked (.inl same)
  | close named =>
      cases isSubject
      refine Custody.unasked (RowCustody.write (row.decide ?_ .acked (fun _ => rfl) (by simp))
        trivial) (.inl rfl)
      exact fun _ => ⟨rfl, rfl⟩
  | stampTerminal | markOutcome =>
      cases isSubject
      refine Custody.unasked (RowCustody.writeLast (row.annotate ?_ fun _ => rfl)) (.inl rfl)
      exact fun _ => ⟨rfl, rfl⟩
  | outcome reply state reason =>
      dsimp only
      split
      · exact Custody.unasked (row.goTo trivial) (.inl rfl)
      · exact Custody.unasked (row.goTo trivial) (.inl rfl)
  | reject item reason =>
      obtain ⟨goesOn, same⟩ :=
        rejectItem_custody row item reason (Option.some.inj isSubject) isValid
      exact goesOn.unasked (.inl same)
  | closeOutbound item requestId inReplyTo =>
      refine Custody.unasked ?_ (.inl rfl)
      apply RowCustody.write
      · exact row
      · trivial
  | storeReply item requestId inReplyTo =>
      cases isSubject
      dsimp only
      split
      · exact Custody.unasked row.finish (.inl rfl)
      next inserted isInserted =>
        refine Custody.unasked (RowCustody.write (RowCustody.insert isInserted rfl rfl (by simp [replyRow])
          (by simp [replyRow])) fun _ => ?_) (.inl rfl)
        rw [(getRow_insertRow isInserted).2]
        exact ⟨_, if_pos rfl, .inl (by simp [replyRow])⟩
  | insertExecuting work =>
      cases isSubject
      dsimp only
      split
      · exact Custody.unasked row.finish (.inl rfl)
      next inserted isInserted =>
        -- The message has no record yet, so no ack was asked for.
        have notRequested : ¬ requested := by
          intro isRequested
          obtain ⟨stored, found, -⟩ := row.decided isRequested
          have free := (@getRow_insertRow work.key _ _ _ isInserted).1
          exact absurd (free.symm.trans found) nofun
        refine Custody.unasked (RowCustody.write (RowCustody.insert isInserted rfl (relies rfl)
          (by simp [executingRow]) fun isRequested => absurd isRequested notRequested)
          fun _ => ⟨fun _ => notRequested, ?_⟩) (.inl rfl)
        rw [(getRow_insertRow isInserted).2]
        exact ⟨_, if_pos rfl, rfl⟩
  | executing work =>
      obtain ⟨goesOn, same⟩ := callRunner_custody row flight.aborted work relies
      exact goesOn.unasked (.inl same)
  | notStarted work =>
      obtain ⟨goesOn, same⟩ := dropTurn_custody row work (relies (Option.some.inj isSubject)).1
      exact goesOn.unasked (.inl same)
  | hold work reason =>
      cases isSubject
      obtain ⟨-, stored, found, -⟩ := relies rfl
      refine Custody.unasked (RowCustody.write (row.decide ?_ .held (fun _ => rfl) (by simp))
        fun _ => ?_) (.inl rfl)
      · exact fun _ => ⟨rfl, rfl⟩
      · exact ⟨_, getRow_updateRow_self found, .inl (by simp)⟩
  | storeResult work text =>
      obtain ⟨-, stored, found, isExecuting⟩ := relies (Option.some.inj isSubject)
      obtain ⟨goesOn, same⟩ := storeResult_custody row work text (Option.some.inj isSubject) found
        isExecuting
      exact goesOn.unasked (.inl same)
  | resultStored named =>
      cases isSubject
      obtain ⟨stored, found, hasReply⟩ := relies rfl
      dsimp only
      rw [found]
      exact Custody.unasked (row.goTo fun _ => ⟨stored, found, hasReply⟩) (.inl rfl)
  | sending | checking | acking | sendingOutcome | running => exact custody.unasked (.inl rfl)

theorem afterSend_custody (row : RowCustody (world.journal.getRow key) requested) (aborted : Bool)
    {reply : Record} (error : Option String)
    (hasReply : reply.key = key → Point.Relies.HasReply (world.journal.getRow key)) :
    Custody (afterSend world aborted reply error) requested key ∧
      (afterSend world aborted reply error).acksSent = world.acksSent := by
  unfold afterSend
  split
  · exact ⟨row.finish, rfl⟩
  · split
    · exact ⟨row.finish, rfl⟩
    · split
      · exact ⟨row.goTo hasReply, rfl⟩
      · exact ⟨row.goTo hasReply, rfl⟩

theorem afterStatus_custody (row : RowCustody (world.journal.getRow key) requested)
    {reply : Record} (status : Option MessageStatus)
    (hasReply : reply.key = key → Point.Relies.HasReply (world.journal.getRow key)) :
    Custody (afterStatus digest world reply status) requested key ∧
      (afterStatus digest world reply status).acksSent = world.acksSent := by
  unfold afterStatus
  split
  · exact ⟨row.goTo hasReply, rfl⟩
  · split
    · exact ⟨row.goTo hasReply, rfl⟩
    · split
      · exact ⟨row.goTo hasReply, rfl⟩
      · split
        · exact ⟨row.goTo hasReply, rfl⟩
        · exact ⟨row.goTo hasReply, rfl⟩

/-! ## Every step -/

/-- A step keeps custody without asking for an ack of the message. -/
def Keeps (world after : DrainWorld) (requested : Prop) (key : MessageKey) : Prop :=
  Custody after requested key ∧ AsksNot key world after

theorem takeAnswer_custody (custody : Custody world requested key) (answer : IpcAnswer) :
    Keeps world (takeAnswer digest world answer) requested key := by
  have row := custody.row
  unfold takeAnswer
  split
  · exact ⟨custody, .inl rfl⟩
  next flight isFlight =>
    have relies := custody.point flight isFlight
    obtain ⟨aborted, point⟩ := flight
    dsimp only at relies ⊢
    split
    · exact (afterSend_custody row _ _ relies).imp_right .inl
    · exact (afterSend_custody row _ _ relies).imp_right .inl
    · exact ⟨row.finish, .inl rfl⟩
    · exact (afterStatus_custody row _ relies).imp_right .inl
    · exact ⟨row.finish, .inl rfl⟩
    · exact ⟨row.finish, .inl rfl⟩
    · exact ⟨row.goTo trivial, .inl rfl⟩
    · split
      · exact ⟨row.finish, .inl rfl⟩
      · exact ⟨row.goTo trivial, .inl rfl⟩
    · exact ⟨row.goTo trivial, .inl rfl⟩
    · exact ⟨row.finish, .inl rfl⟩
    · exact ⟨row.finish, .inl rfl⟩
    next item =>
      by_cases isKey : item.key = key
      · exact (handleItem_custody row item isKey).imp_right .inl
      · have elsewhere := @handleItem_elsewhere world key digest item fun same =>
          isKey (Option.some.inj same)
        exact ⟨custody.elsewhere elsewhere, elsewhere.acksSent⟩
    · exact ⟨custody, .inl rfl⟩

section

variable (row : RowCustody (world.journal.getRow key) requested)
include row

theorem afterRunner_custody (aborted : Bool) (work : Work) (started : Bool)
    (outcome : RunnerOutcome) (turn : work.key = key → (work.isNew = true → ¬ requested) ∧
      ∃ stored, world.journal.getRow key = some stored ∧ stored.phase = .executing) :
    Keeps world (afterRunner world aborted work started outcome) requested key := by
  have failed : ∀ reason, Keeps world (afterRunner.failed world work started reason) requested key := by
    intro reason
    unfold afterRunner.failed
    split
    · exact ⟨row.goTo turn, .inl rfl⟩
    · exact ⟨row.goTo turn, .inl rfl⟩
  unfold afterRunner
  split
  · split
    · exact failed _
    · split
      · exact failed _
      · exact ⟨row.goTo turn, .inl rfl⟩
  · exact failed _

/-- A sweep leaves the record, or the message is forgotten. -/
theorem retention_custody :
    Custody ((world.write (world.journal.deleteWhere (Record.isExpired world.clock))).goTo
      .sweepOutbound) (requested ∧
        (world.journal.getRow key).any (Record.isExpired world.clock) = false) key := by
  refine RowCustody.write ⟨fun stored isStored => ?_, fun isRequested => ?_⟩ trivial
  · rw [getRow_deleteWhere] at isStored
    exact row.counts stored (Option.filter_eq_some_iff.mp isStored).1
  · obtain ⟨stored, found, isDecided⟩ := row.decided isRequested.1
    have remembered := isRequested.2
    rw [found] at remembered
    refine ⟨stored, ?_, isDecided⟩
    rw [getRow_deleteWhere, found, Option.filter_some]
    simpa using remembered

theorem chooseNext_custody (tie : Nat) : Keeps world (chooseNext world tie) requested key := by
  rcases chooseNext_cases world tie with ⟨stored, found, chosen⟩ | isDone | isPoll
  · have isRow : stored.key = key → world.journal.getRow key = some stored := by
      rintro rfl
      exact found
    rcases chosen with ⟨isResend, same⟩ | ⟨isRetry, same⟩ | ⟨hasReply, same⟩ |
      ⟨-, state, reason, same⟩
    · rw [same]
      exact ⟨row.goTo fun isKey => ⟨stored, isRow isKey, isResend⟩, .inl rfl⟩
    · rw [same]
      exact ⟨row.goTo fun isKey => ⟨rfl, stored, isRow isKey, isRetry⟩, .inl rfl⟩
    · rw [same]
      exact ⟨row.goTo fun isKey => ⟨stored, isRow isKey, hasReply⟩, .inl rfl⟩
    · rw [same]
      exact ⟨row.goTo trivial, .inl rfl⟩
  · rw [isDone]
    exact ⟨row.finish, .inl rfl⟩
  · rw [isPoll]
    exact ⟨row.goTo trivial, .inl rfl⟩

end

/-- What an operator call makes of a record is decided. -/
theorem Resolves.custody {stored next : Record} (resolves : Resolves stored next)
    (fit : stored.CountsFit) : next.CountsFit ∧ next.IsDecided := by
  have executed := fit.executed
  rcases resolves with ⟨-, isPhase, executes, resends⟩ | ⟨-, isPhase, executes, resends⟩ |
    ⟨-, isPhase, executes, resends⟩
  · exact ⟨⟨by omega, fun _ => by omega, fun isResend => by simp [isPhase] at isResend⟩,
      .inl (by simp [isPhase])⟩
  · exact ⟨⟨by omega, fun isRetry => by simp [isPhase] at isRetry, fun _ => by omega⟩,
      .inl (by simp [isPhase])⟩
  · exact ⟨⟨by omega, fun isRetry => by simp [isPhase] at isRetry,
      fun isResend => by simp [isPhase] at isResend⟩, .inl (by simp [isPhase])⟩

/-- A waiting step relies on a record only while it works on it. -/
theorem Point.Relies.replaced {point : Point} {stored next : Record} (waits : point.waits = true)
    (relies : point.Relies (some stored) requested key)
    (unworked : stored.phase ∉ [Phase.executing, .result, .admitted]) :
    point.Relies (some next) requested key := by
  have notReply : ¬ HasReply (some stored) := by
    rintro ⟨other, same, hasReply⟩
    cases same
    rcases hasReply with isResult | isAdmitted
    · simp [isResult] at unworked
    · simp [isAdmitted] at unworked
  have notIn : ∀ phase ∈ [Phase.executing, .result, .admitted],
      ¬ ∃ other, some stored = some other ∧ other.phase = phase := by
    rintro phase member ⟨other, same, isPhase⟩
    cases same
    rw [isPhase] at unworked
    exact unworked member
  cases point with
  | sending | checking | resultStored => exact fun isKey => absurd (relies isKey) notReply
  | admitted => exact fun isKey => absurd (relies isKey) (notIn .admitted (by simp))
  | executing | running =>
      exact fun isKey => absurd (relies isKey).2 (notIn .executing (by simp))
  | acking | sendingOutcome | polling | replyAcked => trivial
  | _ => cases waits

/-- A record that no step works on changes while the step in flight waits. -/
theorem Custody.replaced (custody : Custody world requested key) {resolved : DrainJournal}
    {log : List DrainEvent} {stored next : Record}
    (waiting : (world.flight.all fun flight => flight.point.waits) = true)
    (found : world.journal.getRow key = some stored) (isNext : resolved.getRow key = some next)
    (unworked : stored.phase ∉ [Phase.executing, .result, .admitted]) (fit : next.CountsFit)
    (isDecided : next.IsDecided) :
    Custody { world with journal := resolved, log := log } requested key := by
  refine ⟨⟨fun other isOther => ?_, fun _ => ⟨next, isNext, isDecided⟩⟩, fun flight isFlight => ?_⟩
  · cases isNext.symm.trans isOther
    exact fit
  · have relies := custody.point flight isFlight
    rw [found] at relies
    change flight.point.Relies (resolved.getRow key) requested key
    rw [isNext]
    refine relies.replaced ?_ unworked
    change world.flight = some flight at isFlight
    rw [isFlight] at waiting
    exact waiting

/-- The record of the message stays as it is. -/
theorem Custody.unchanged (custody : Custody world requested key) {resolved : DrainJournal}
    {log : List DrainEvent} (same : resolved.getRow key = world.journal.getRow key) :
    Custody { world with journal := resolved, log := log } requested key := by
  refine ⟨?_, fun flight isFlight => ?_⟩
  · change RowCustody (resolved.getRow key) requested
    rw [same]
    exact custody.row
  · change flight.point.Relies (resolved.getRow key) requested key
    rw [same]
    exact custody.point flight isFlight

theorem takeResolve_custody (custody : Custody world requested key) (call : ResolveCall) :
    Keeps world (takeResolve digest world call) requested key := by
  unfold takeResolve
  split
  next waiting =>
    split
    · exact ⟨custody, .inl rfl⟩
    next resolved resolution result isResolved =>
      rcases (@resolvePeerRecord_cases key digest _ _ _ _ _ _ _ isResolved).2 with
        same | ⟨stored, next, found, isNext, resolves⟩
      · exact ⟨custody.unchanged same, .inl rfl⟩
      · obtain ⟨fit, isDecided⟩ := resolves.custody (custody.row.counts stored found)
        refine ⟨custody.replaced waiting found isNext ?_ fit isDecided, .inl rfl⟩
        rcases resolves with ⟨isHeld, -⟩ | ⟨isFailed, -⟩ | ⟨isHeld | isFailed, -⟩
        · simp [isHeld]
        · simp [isFailed]
        · simp [isHeld]
        · simp [isFailed]
  · exact ⟨custody, .inl rfl⟩

theorem consumeReply_custody (custody : Custody world requested key) (named : MessageKey) :
    Keeps world (drainStep digest world (.consumeReply named)) requested key := by
  simp only [drainStep]
  split
  next waiting =>
    split
    · exact ⟨custody, .inl rfl⟩
    next consumed isConsumed =>
      rcases (@consumeReply_row key _ _ _ _ isConsumed).2 with
        same | ⟨-, stored, found, isReply, isNext⟩
      · exact ⟨@Custody.unchanged world key requested custody consumed world.log same, .inl rfl⟩
      · refine ⟨@Custody.replaced world key requested custody consumed world.log stored _ waiting
          found isNext ?_ ?_ ?_, .inl rfl⟩
        · simp [isReply]
        · have fit := custody.row.counts stored found
          exact ⟨fit.executed, fit.retried, fit.resent⟩
        · exact .inl (by simp [isReply])
  · exact ⟨custody, .inl rfl⟩

theorem restart_custody (custody : Custody world requested key) (routes : List (String × Route))
    (signalsStart : Bool) :
    Keeps world (drainStep digest world (.restart routes signalsStart)) requested key := by
  refine ⟨⟨?_, fun _ isFlight => (nomatch isFlight)⟩, .inl rfl⟩
  change RowCustody ((world.journal.updateWhere _ _).getRow key) requested
  rw [DrainJournal.getRow_updateWhere]
  cases found : world.journal.getRow key with
  | none =>
      have row := custody.row
      rw [found] at row
      exact row
  | some stored =>
      rw [Option.map_some]
      split
      · refine ⟨fun other isOther => ?_, fun _ => ⟨_, rfl, .inl (by simp)⟩⟩
        cases isOther
        exact ⟨(custody.row.counts stored found).executed, nofun, nofun⟩
      · have row := custody.row
        rw [found] at row
        exact row

/-- Every step keeps custody: of what it asks an ack for, and of what an ack was
asked for before, unless it removes the record for its age. -/
theorem openStep_custody (custody : Custody world requested key)
    (isValid : isEndpoint key.1 = true ∧ isIdentifier key.2 = true) (label : DrainLabel) :
    Custody (openStep digest world label)
      ((key ∈ asked world (openStep digest world label) ∨ requested) ∧
        sweeps world label key = false) key := by
  have kept : ∀ {after}, Keeps world after requested key →
      Custody after ((key ∈ asked world after ∨ requested) ∧ sweeps world label key = false) key :=
    fun keeps => (keeps.1.unasked keeps.2).mono And.left
  have same : ∀ {after : DrainWorld}, after.journal = world.journal → after.flight = world.flight →
      after.acksSent = world.acksSent → Keeps world after requested key := by
    intro after journal flight acksSent
    refine ⟨⟨?_, fun other isOther => ?_⟩, .inl acksSent⟩
    · rw [journal]
      exact custody.row
    · rw [flight] at isOther
      rw [journal]
      exact custody.point other isOther
  cases label with
  | step aborted =>
      simp only [openStep, drainStep]
      split
      · exact kept ⟨custody, .inl rfl⟩
      · refine kept ⟨⟨custody.row, fun flight isFlight => ?_⟩, .inl rfl⟩
        cases isFlight
        trivial
  | advance tie =>
      cases isFlight : world.flight with
      | none =>
          have stays : advance digest world tie = world := by
            unfold advance
            rw [isFlight]
          change Custody (advance digest world tie) ((key ∈ asked world (advance digest world tie) ∨ _) ∧ _) key
          rw [stays]
          exact kept ⟨custody, .inl rfl⟩
      | some flight =>
          by_cases isSubject : flight.point.subject = some key
          · exact (advance_custody custody isValid isFlight isSubject tie).mono And.left
          · by_cases isRetention : flight.point = .retention
            · have swept : advance digest world tie = (world.write
                  (world.journal.deleteWhere (Record.isExpired world.clock))).goTo .sweepOutbound := by
                unfold advance
                rw [isFlight]
                dsimp only
                rw [isRetention]
              change Custody (advance digest world tie)
                ((key ∈ asked world (advance digest world tie) ∨ _) ∧ _) key
              rw [swept]
              refine ((retention_custody custody.row).unasked (.inl rfl)).mono fun isRequested => ?_
              refine isRequested.1.imp_right fun wasRequested => ⟨wasRequested, ?_⟩
              simpa [sweeps, isFlight, isRetention] using isRequested.2
            · by_cases isChoose : flight.point = .choose
              · have chosen : advance digest world tie = chooseNext world tie := by
                  unfold advance
                  rw [isFlight]
                  dsimp only
                  rw [isChoose]
                change Custody (advance digest world tie)
                  ((key ∈ asked world (advance digest world tie) ∨ _) ∧ _) key
                rw [chosen]
                exact kept (chooseNext_custody custody.row tie)
              · have elsewhere : Elsewhere key world (advance digest world tie) := by
                  refine advance_elsewhere (fun other isOther => ?_) tie ?_ ?_
                  · cases isFlight.symm.trans isOther
                    exact isSubject
                  · simpa [isFlight] using isRetention
                  · simpa [isFlight] using isChoose
                exact kept ⟨custody.elsewhere elsewhere, elsewhere.acksSent⟩
  | abort =>
      refine kept ⟨⟨custody.row, fun flight isFlight => ?_⟩, .inl rfl⟩
      obtain ⟨before, wasFlight, rfl⟩ := Option.map_eq_some_iff.mp isFlight
      exact custody.point before wasFlight
  | answer answer => exact kept (takeAnswer_custody custody answer)
  | runnerStarts =>
      simp only [openStep, drainStep]
      split
      next work isFlight =>
        have turn := custody.point _ isFlight
        refine kept ⟨?_, .inl rfl⟩
        apply RowCustody.goTo
        · exact custody.row
        · exact turn
      · exact kept ⟨custody, .inl rfl⟩
  | runnerEnds outcome =>
      simp only [openStep, drainStep]
      split
      next isFlight =>
        exact kept (afterRunner_custody custody.row _ _ _ outcome (custody.point _ isFlight))
      · exact kept ⟨custody, .inl rfl⟩
  | runnerSettles | engineLists => exact kept (same rfl rfl rfl)
  | engineAcks named =>
      simp only [openStep, drainStep]
      split
      · exact kept (same rfl rfl rfl)
      · exact kept ⟨custody, .inl rfl⟩
  | enginePolls =>
      simp only [openStep, drainStep]
      split
      · exact kept ⟨custody.row.goTo trivial, .inl rfl⟩
      · exact kept ⟨custody, .inl rfl⟩
  | resolve call => exact kept (takeResolve_custody custody call)
  | consumeReply named => exact kept (@consumeReply_custody _ _ _ digest custody named)
  | writeOutbound outbound =>
      refine kept ⟨⟨custody.row, custody.point⟩, .inl rfl⟩
  | setClock now => exact kept (same rfl rfl rfl)
  | restart routes signalsStart =>
      exact kept (@restart_custody _ _ _ digest custody routes signalsStart)

/-! ## Every run -/

/-- Custody of the acks of a message, in a state with what the engine has consumed. -/
structure InCustody (state : CustodyState) (key : MessageKey) : Prop where
  custody : Custody state.world (key ∈ state.requested) key
  consumed : key ∈ state.consumed → key ∈ state.requested

theorem custodyStep_kept {state : CustodyState} (inCustody : InCustody state key)
    (isValid : isEndpoint key.1 = true ∧ isIdentifier key.2 = true) (label : DrainLabel) :
    InCustody (custodyStep digest state label) key := by
  constructor
  · refine (openStep_custody inCustody.custody isValid label).mono fun isRequested => ?_
    obtain ⟨isRequested, remembered⟩ := List.mem_filter.mp isRequested
    exact ⟨List.mem_append.mp isRequested, by simpa using remembered⟩
  · intro isConsumed
    obtain ⟨isConsumed, remembered⟩ := List.mem_filter.mp isConsumed
    refine List.mem_filter.mpr ⟨List.mem_append_right _ ?_, remembered⟩
    rcases List.mem_append.mp isConsumed with consumesNow | before
    · cases label with
      | engineAcks named =>
          simp only [consumes] at consumesNow
          split at consumesNow
          next isRequested =>
            simp only [Bool.and_eq_true, List.contains_iff_mem] at isRequested
            rw [List.mem_singleton.mp consumesNow]
            exact isRequested.1
          · cases consumesNow
      | _ => cases consumesNow
    · exact inCustody.consumed before

end

/-- Whatever stops, fails or comes in between: a message whose item the engine
has consumed at the service's request has a record that says what became of it,
as long as no sweep has removed the record since the request. -/
theorem acked_items_decided (digest : String → String) (labels : List DrainLabel)
    (key : MessageKey) (isValid : isEndpoint key.1 = true ∧ isIdentifier key.2 = true)
    (consumed : key ∈ ((custodyMachine digest).run labels).consumed) :
    ∃ row, ((custodyMachine digest).run labels).world.journal.getRow key = some row ∧
      row.IsDecided := by
  have empty : RowCustody none False := ⟨fun _ isStored => (nomatch isStored), False.elim⟩
  have start : InCustody (custodyMachine digest).initial key := by
    refine ⟨⟨⟨?_, ?_⟩, fun flight isFlight => ?_⟩, ?_⟩
    · exact empty.counts
    · exact fun isRequested => absurd isRequested List.not_mem_nil
    · cases isFlight
    · exact fun isConsumed => absurd isConsumed List.not_mem_nil
  have preserved : ∀ state label, InCustody state key →
      InCustody ((custodyMachine digest).step state label) key :=
    fun _ label kept => custodyStep_kept kept isValid label
  have inCustody : InCustody ((custodyMachine digest).run labels) key :=
    @Machine.invariant_runFrom _ _ _ (InCustody · key) preserved _ start labels
  exact inCustody.custody.row.decided (inCustody.consumed consumed)

/-! ## A run -/

def peerEndpoint : String :=
  "bbbbbbbbbbbbbbbbbbbbbbbbbbbbbbbbbbbbbbbbbbbbbbbbbbbbbbbbbbbbbbbb"

def requestPayload : String :=
  Json.text (.obj [("protocol", .str "triangle.peer/1"), ("kind", .str "request"),
    ("request_id", .str "r-1"), ("text", .str "hi")])

/-- The SHA-256 of the payload, the only text that the run hashes. -/
def requestDigest : String → String :=
  fun _ => "ac8c273ea302affaccfee562d669ba9509e4573623beb7a9c164706a78fa6fb5"

/-- The runner of a request fails. The request is held and its item consumed;
an operator sends it back to work. -/
def consumedAndRetried : List DrainLabel :=
  [.restart [(peerEndpoint, ⟨peerEndpoint, []⟩)] false,
    .engineLists ⟨peerEndpoint, "m-1", some requestPayload, some (requestDigest requestPayload)⟩,
    .step false, .advance 0, .advance 0, .advance 0, .enginePolls, .answer .page, .advance 0,
    .advance 0, .runnerEnds (.failed "runner_failed"), .advance 0, .advance 0,
    .engineAcks (peerEndpoint, "m-1"), .answer (.failed none),
    .runnerSettles (peerEndpoint, "m-1"),
    .resolve ⟨peerEndpoint, "m-1", "retry", "op-1", none⟩,
    .step false, .advance 0, .advance 0, .advance 0, .advance 0]

theorem acked_items_decided_retried :
    (((custodyMachine requestDigest).run consumedAndRetried).world.journal.phase?
        (peerEndpoint, "m-1") = some .executing ∧
      ((custodyMachine requestDigest).run consumedAndRetried).world.inbox = []) ∧
    ∃ row, ((custodyMachine requestDigest).run consumedAndRetried).world.journal.getRow
      (peerEndpoint, "m-1") = some row ∧ row.IsDecided := by
  have evaluated : ((custodyMachine requestDigest).run consumedAndRetried).world.journal.phase?
        (peerEndpoint, "m-1") = some .executing ∧
      ((custodyMachine requestDigest).run consumedAndRetried).world.inbox = [] ∧
      (peerEndpoint, "m-1") ∈ ((custodyMachine requestDigest).run consumedAndRetried).consumed ∧
      isEndpoint peerEndpoint = true ∧ isIdentifier "m-1" = true := by
    decide +kernel
  obtain ⟨isPhase, isEmpty, isConsumed, isValid⟩ := evaluated
  exact ⟨⟨isPhase, isEmpty⟩, acked_items_decided requestDigest consumedAndRetried
    (peerEndpoint, "m-1") isValid isConsumed⟩

end Triangle.PeerDrain
