import Triangle.PeerDrain.RowSafety

/-!
# A request runs at most once

Every effect of the service keeps `DrainSafe`, which relates a message's record
and history to the point that the step in flight has reached. The journal row is
what keeps a message from starting again, so the result holds as long as the
retention sweep forgets no message that the engine still lists and that may not
start again.
-/

namespace Triangle.PeerDrain

open Triangle.Std
open Triangle.Semantics (Machine)

section

variable {world : DrainWorld} {key : MessageKey}

/-- A step that only moves on keeps what it moves to safe. -/
theorem DrainSafe.goTo (safe : DrainSafe world key) {point : Point}
    (next : point.Safe (world.journal.phase? key) (key ∈ world.arrived) (MayStart world.log key) key) :
    DrainSafe (world.goTo point) key := by
  refine ⟨safe.row, fun flight isFlight => ?_⟩
  unfold DrainWorld.goTo at isFlight
  obtain ⟨before, -, rfl⟩ := Option.map_eq_some_iff.mp isFlight
  exact next

theorem DrainSafe.finish (safe : DrainSafe world key) : DrainSafe world.finish key :=
  ⟨safe.row, fun _ isFlight => (nomatch isFlight)⟩

variable {journal : DrainJournal} {arrived listed : Prop} {log : List DrainEvent}
  {change : Record → Record}

variable {point : Point} {named : MessageKey} {phase : Option Phase}

section

variable (row : RowSafe (journal.phase? key) (key ∈ world.arrived) (world.Lists key) world.log key)
include row

/-- A statement of the step in flight, and where the step goes on. -/
theorem RowSafe.write
    (next : point.Safe (journal.phase? key) (key ∈ world.arrived) (MayStart world.log key) key) :
    DrainSafe ((world.write journal).goTo point) key := by
  refine ⟨row, fun flight isFlight => ?_⟩
  unfold DrainWorld.goTo at isFlight
  obtain ⟨before, -, rfl⟩ := Option.map_eq_some_iff.mp isFlight
  exact next

/-- A last statement of the step in flight. -/
theorem RowSafe.writeLast : DrainSafe (world.write journal).finish key :=
  ⟨row, fun _ isFlight => (nomatch isFlight)⟩

end

/-- A statement that sets the phase of one record to one from which the runner
does not start. -/
theorem RowSafe.updateRow (safe : RowSafe (journal.phase? key) arrived listed log key)
    {phase : Phase} (sets : ∀ row, (change row).phase = phase)
    (harmless : phase.leadsToStart = false) :
    RowSafe ((journal.updateRow named change).phase? key) arrived listed log key := by
  rw [phase?_updateRow sets]
  split
  · refine safe.setPhase phase (fun leads => ?_) (fun isRetry => ?_)
    · rw [harmless] at leads
      cases leads
    · rw [isRetry] at harmless
      cases harmless
  · exact safe

/-- A statement that does not set the phase. -/
theorem RowSafe.updateRow_same (safe : RowSafe (journal.phase? key) arrived listed log key)
    (keeps : ∀ row, (change row).phase = row.phase) :
    RowSafe ((journal.updateRow named change).phase? key) arrived listed log key := by
  unfold DrainJournal.updateRow
  rw [phase?_updateWhere_same keeps]
  exact safe

variable {digest : String → String}

section

variable (safe : DrainSafe world key)
include safe

theorem chooseNext_safe (tie : Nat) : DrainSafe (chooseNext world tie) key := by
  unfold chooseNext
  split
  · exact safe.goTo trivial
  · split
    next row found =>
      obtain ⟨isRow, isRetry⟩ := oldest_some found
      refine safe.goTo fun isKey => ?_
      have named : row.key = key := isKey
      rw [named] at isRow
      rw [DrainJournal.phase?, isRow, Option.map_some, of_decide_eq_true isRetry]
    · split
      · exact safe.goTo trivial
      · split
        · exact safe.goTo trivial
        · split
          · exact safe.finish
          · exact safe.goTo trivial

theorem afterAck_safe (named : MessageKey) (next : AfterAck) :
    DrainSafe (afterAck world named next) key := by
  unfold afterAck
  split
  · exact safe.finish
  · exact safe.goTo trivial
  · split
    · exact safe.finish
    · exact safe.goTo trivial
  · exact safe.goTo trivial

theorem ackItem_safe (named : MessageKey) (next : AfterAck) :
    DrainSafe (ackItem world named next) key := by
  unfold ackItem
  split
  · exact afterAck_safe safe named next
  · have sent : DrainSafe { world with acksSent := named :: world.acksSent } key :=
      ⟨safe.row, safe.point⟩
    exact sent.goTo trivial

theorem deliverReply_safe (row : Record) : DrainSafe (deliverReply digest world row) key := by
  unfold deliverReply
  split
  · exact safe.goTo trivial
  · split
    · exact safe.goTo trivial
    · exact safe.goTo trivial

theorem handleItem_safe (item : InboxItem) (polled : item.key = key → key ∈ world.arrived ∧
      (world.journal.phase? key = none → MayStart world.log key)) :
    DrainSafe (handleItem digest world item) key := by
  have rejected : ∀ reason, DrainSafe (world.goTo (.reject item reason)) key :=
    fun reason => safe.goTo fun isKey => (polled isKey).1
  have correlated : ∀ requestId inReplyTo next,
      next.Safe (world.journal.phase? key) (key ∈ world.arrived) (MayStart world.log key) key →
      DrainSafe (handleItem.correlate world item requestId inReplyTo next) key := by
    intro requestId inReplyTo next nextSafe
    unfold handleItem.correlate
    split
    · exact rejected _
    split
    · exact rejected _
    split
    · exact rejected _
    · exact safe.goTo nextSafe
  unfold handleItem
  dsimp only
  generalize (if (isEndpoint item.fromEndpointId && isIdentifier item.messageId) = true then
    world.journal.getRow item.key else none) = row
  split
  · exact safe.goTo trivial
  split
  · exact safe.goTo trivial
  split
  · exact rejected _
  split
  · exact rejected _
  split
  · exact rejected _
  split
  · exact rejected _
  split
  · exact rejected _
  split
  · exact rejected _
  split
  · exact rejected _
  split
  · exact safe.goTo polled
  · exact correlated _ _ _ fun isKey => (polled isKey).1
  · exact correlated _ _ _ fun isKey => (polled isKey).1

end

/-- An insert of a row from which the runner does not start. -/
theorem RowSafe.insertRow {journal inserted : DrainJournal}
    (safe : RowSafe (journal.phase? key) arrived listed log key) {row : Record}
    (isInserted : journal.insertRow row = some inserted) (isArrived : row.key = key → arrived)
    (harmless : row.phase.leadsToStart = false) :
    RowSafe (inserted.phase? key) arrived listed log key := by
  obtain ⟨-, isPhase⟩ := @phase?_insertRow _ key _ _ isInserted
  rw [isPhase]
  split
  next isKey =>
    refine safe.insert (isArrived isKey.symm) (fun leads => ?_) (fun isRetry => ?_)
    · rw [harmless] at leads
      cases leads
    · rw [isRetry] at harmless
      cases harmless
  · exact safe

theorem rejectItem_safe (safe : DrainSafe world key) (item : InboxItem) (reason : String)
    (isArrived : item.key = key → key ∈ world.arrived) :
    DrainSafe (rejectItem world item reason) key := by
  unfold rejectItem
  dsimp only
  split
  · split
    next journal isInserted =>
      exact RowSafe.write (safe.row.insertRow isInserted isArrived rfl) trivial
    · exact RowSafe.write (safe.row.updateRow (fun _ => rfl) rfl) trivial
  · exact safe.goTo trivial

/-- A sweep that forgets no message which is listed and may not start again. -/
theorem retention_safe (safe : DrainSafe world key)
    (kept : ∀ row ∈ world.journal.records.rows, row.isExpired world.clock = true →
      world.Lists row.key → MayStart world.log row.key) :
    DrainSafe ((world.write
      (world.journal.deleteWhere (Record.isExpired world.clock))).goTo .sweepOutbound) key := by
  refine RowSafe.write ?_ trivial
  rcases @phase?_deleteWhere world.journal key (Record.isExpired world.clock) with
    same | ⟨⟨row, isRow, isExpired⟩, gone⟩
  · rw [same]
    exact safe.row
  · rw [gone]
    obtain ⟨member, isKey⟩ := Table.find?_some isRow
    subst isKey
    exact safe.row.forget fun isListed => kept row member isExpired isListed

theorem dropTurn_safe (safe : DrainSafe world key) (work : Work)
    (turn : work.key = key → world.journal.phase? key = some .executing ∧
      MayStart world.log key) : DrainSafe (dropTurn world work) key := by
  have isTurn : ∀ row, world.journal.getRow key = some row →
      (row.key = work.key && row.phase = .executing) = true → MayStart world.log key := by
    intro row isRow selected
    obtain ⟨-, isKey⟩ := Table.find?_some isRow
    rw [Bool.and_eq_true, decide_eq_true_eq, decide_eq_true_eq, isKey] at selected
    exact (turn selected.1.symm).2
  unfold dropTurn
  dsimp only
  split
  · refine ⟨?_, fun _ isFlight => (nomatch isFlight)⟩
    rcases @phase?_deleteWhere world.journal key
        (fun row => row.key = work.key && row.phase = .executing) with
      same | ⟨⟨row, isRow, selected⟩, gone⟩
    · change RowSafe ((world.journal.deleteWhere _).phase? key) _ _ _ _
      rw [same]
      exact safe.row
    · change RowSafe ((world.journal.deleteWhere _).phase? key) _ _ _ _
      rw [gone]
      exact safe.row.forget fun _ => isTurn row isRow selected
  · refine ⟨?_, fun _ isFlight => (nomatch isFlight)⟩
    change RowSafe ((world.journal.updateWhere _ _).phase? key) _ _ _ _
    rcases @phase?_updateWhere world.journal key
        (fun row => row.key = work.key && row.phase = .executing)
        (fun row => { row with phase := .held, updatedAt := world.clock }) .held (fun _ => rfl) with
      same | ⟨⟨row, isRow, selected⟩, isHeld⟩
    · rw [same]
      exact safe.row
    · rw [isHeld]
      have held := safe.row.setPhase .held (fun _ => (isTurn row isRow selected).2)
        (fun isRetry => (nomatch isRetry))
      rw [DrainJournal.phase?, isRow] at held
      exact held

/-- The row of a turn in phase `executing` was not discarded. -/
theorem RowSafe.not_discarded (safe : RowSafe phase arrived listed log key)
    (isExecuting : phase = some .executing) : .discarded key ∉ log := by
  intro isDiscarded
  have dead := safe.dead isDiscarded
  rw [isExecuting] at dead
  cases dead

section

variable (safe : DrainSafe world key)
include safe

/-- The runner of a turn starts. -/
theorem start_safe (work : Work)
    (turn : work.key = key → world.journal.phase? key = some .executing ∧
      MayStart world.log key) :
    DrainSafe ((world.started work.key).goTo (.running work true)) key := by
  by_cases isKey : work.key = key
  · subst isKey
    obtain ⟨isExecuting, mayStart⟩ := turn rfl
    refine ⟨safe.row.start isExecuting mayStart, fun flight isFlight => ?_⟩
    unfold DrainWorld.goTo at isFlight
    obtain ⟨before, -, rfl⟩ := Option.map_eq_some_iff.mp isFlight
    exact fun _ => ⟨isExecuting, fun notStarted => (nomatch notStarted)⟩
  · refine ⟨safe.row.otherEvent (fun same => isKey (DrainEvent.started.inj same))
      (fun same => (nomatch same)) (fun same => (nomatch same)), fun flight isFlight => ?_⟩
    unfold DrainWorld.goTo at isFlight
    obtain ⟨before, -, rfl⟩ := Option.map_eq_some_iff.mp isFlight
    exact fun named => absurd named isKey

theorem callRunner_safe (aborted : Bool) (work : Work)
    (turn : work.key = key → world.journal.phase? key = some .executing ∧
      MayStart world.log key) : DrainSafe (callRunner world aborted work) key := by
  unfold callRunner
  split
  · exact safe.goTo turn
  · split
    · split
      · exact safe.goTo turn
      · exact safe.goTo fun isKey => (turn isKey).1
    · have called : DrainSafe
          { world with activeExecutions := work.key :: world.activeExecutions } key :=
        ⟨safe.row, safe.point⟩
      dsimp only
      split
      · exact called.goTo fun isKey => ⟨(turn isKey).1, fun _ => (turn isKey).2⟩
      · exact start_safe called work turn

theorem storeResult_safe (work : Work) (text : String) :
    DrainSafe (storeResult digest world work text) key := by
  unfold storeResult
  dsimp only
  split
  · exact RowSafe.write (safe.row.updateRow (fun _ => rfl) rfl) trivial
  · exact RowSafe.write (safe.row.updateRow (fun _ => rfl) rfl) trivial

/-- The record of a retried message goes back to work. -/
theorem rerun_safe (work : Work)
    (isRetry : work.key = key → world.journal.phase? key = some .retryPending)
    (sets : ∀ row, (change row).phase = .executing) :
    DrainSafe ((world.write (world.journal.updateRow work.key change)).goTo (.executing work))
      key := by
  by_cases isKey : work.key = key
  · have mayStart := safe.row.retry (isRetry isKey)
    have isPhase : (world.journal.updateRow work.key change).phase? key = some .executing := by
      rw [phase?_updateRow sets, if_pos isKey, isRetry isKey]
      rfl
    refine RowSafe.write ?_ fun _ => ⟨isPhase, mayStart⟩
    rw [phase?_updateRow sets, if_pos isKey]
    exact safe.row.setPhase .executing (fun _ => mayStart.2) (fun same => (nomatch same))
  · refine RowSafe.write ?_ fun named => absurd named isKey
    rw [phase?_updateRow sets, if_neg isKey]
    exact safe.row

/-- A new request gets its row. -/
theorem insertExecuting_safe (work : Work) (isNew : work.key = key → key ∈ world.arrived ∧
      (world.journal.phase? key = none → MayStart world.log key))
    (isInserted : world.journal.insertRow (executingRow work world.clock) = some journal) :
    DrainSafe ((world.write journal).goTo (.executing work)) key := by
  obtain ⟨free, isPhase⟩ := @phase?_insertRow _ key _ _ isInserted
  have named : (executingRow work world.clock).key = work.key := rfl
  rw [named] at free isPhase
  by_cases isKey : key = work.key
  · rw [if_pos isKey] at isPhase
    obtain ⟨isArrived, mayStart⟩ := isNew isKey.symm
    have allowed := mayStart (isKey ▸ free)
    refine RowSafe.write ?_ fun _ => ⟨isPhase, allowed⟩
    rw [isPhase]
    exact safe.row.insert isArrived (fun _ => allowed.2) (fun same => (nomatch same))
  · rw [if_neg isKey] at isPhase
    refine RowSafe.write ?_ fun same => absurd same.symm isKey
    rw [isPhase]
    exact safe.row

/-- A runner that failed is held. -/
theorem hold_safe (work : Work) (turn : work.key = key → world.journal.phase? key = some .executing)
    (sets : ∀ row, (change row).phase = .held) {next : AfterAck} :
    DrainSafe ((world.write (world.journal.updateRow work.key change)).goTo (.ack work.key next))
      key := by
  refine RowSafe.write ?_ trivial
  rw [phase?_updateRow sets]
  split
  next isKey =>
    exact safe.row.setPhase .held (fun _ => safe.row.not_discarded (turn isKey))
      (fun same => (nomatch same))
  · exact safe.row

/-- Every effect of the step in flight is safe, but for a sweep that forgets a
listed message. -/
theorem advance_safe (tie : Nat) (kept : ¬ ForgetsListed world (.advance tie)) :
    DrainSafe (advance digest world tie) key := by
  unfold advance
  split
  · exact safe
  next flight isFlight =>
    have pointSafe := safe.point flight isFlight
    generalize isPoint : flight.point = point at pointSafe
    cases point with
    | retention =>
        refine retention_safe safe fun row member isExpired isListed => ?_
        by_contra mayNotStart
        exact kept ⟨by rw [isFlight, Option.map_some, isPoint], row, member, isExpired, isListed,
          mayNotStart⟩
    | sweepOutbound => exact RowSafe.write safe.row trivial
    | choose => exact chooseNext_safe safe tie
    | resume named =>
        dsimp only
        split
        · exact RowSafe.writeLast (safe.row.updateRow (fun _ => rfl) rfl)
        · exact RowSafe.write (safe.row.updateRow (fun _ => rfl) rfl) trivial
    | rerun work => exact rerun_safe safe work pointSafe fun _ => rfl
    | deliver row => exact deliverReply_safe safe row
    | failReply named reason =>
        exact RowSafe.write (safe.row.updateRow (fun _ => rfl) rfl) trivial
    | sending | checking => exact safe
    | markAdmitted | close => exact RowSafe.write (safe.row.updateRow (fun _ => rfl) rfl) trivial
    | admitted named => exact safe.goTo trivial
    | ack named next => exact ackItem_safe safe named next
    | acking | sendingOutcome | polling | running => exact safe
    | markAcked named next =>
        refine afterAck_safe ⟨?_, fun other isOther => ?_⟩ named next
        · change RowSafe ((world.journal.updateRow named _).phase? key) _ _ _ _
          exact safe.row.updateRow_same fun _ => rfl
        · obtain rfl := Option.mem_unique isFlight isOther
          rw [isPoint]
          trivial
    | stampTerminal | markOutcome => exact RowSafe.writeLast (safe.row.updateRow_same fun _ => rfl)
    | outcome row state reason =>
        dsimp only
        split
        · exact safe.goTo trivial
        · exact safe.goTo trivial
    | reject item reason => exact rejectItem_safe safe item reason pointSafe
    | closeOutbound item requestId inReplyTo => exact RowSafe.write safe.row pointSafe
    | storeReply item requestId inReplyTo =>
        dsimp only
        split
        · exact safe.finish
        next journal isInserted =>
          exact RowSafe.write (safe.row.insertRow isInserted pointSafe rfl) trivial
    | replyAcked => exact safe.finish
    | insertExecuting work =>
        dsimp only
        split
        · exact safe.finish
        next journal isInserted => exact insertExecuting_safe safe work pointSafe isInserted
    | executing work => exact callRunner_safe safe flight.aborted work pointSafe
    | notStarted work => exact dropTurn_safe safe work pointSafe
    | hold work reason => exact hold_safe safe work pointSafe fun _ => rfl
    | storeResult work text => exact storeResult_safe safe work text
    | resultStored named =>
        dsimp only
        split
        · exact safe.finish
        · exact safe.goTo trivial

theorem afterStatus_safe (row : Record) (status : Option MessageStatus) :
    DrainSafe (afterStatus digest world row status) key := by
  unfold afterStatus
  split
  · exact safe.goTo trivial
  · split
    · exact safe.goTo trivial
    · split
      · exact safe.goTo trivial
      · split
        · exact safe.goTo trivial
        · exact safe.goTo trivial

theorem afterSend_safe (aborted : Bool) (row : Record) (error : Option String) :
    DrainSafe (afterSend world aborted row error) key := by
  unfold afterSend
  split
  · exact safe.finish
  · split
    · exact safe.finish
    · split
      · exact safe.goTo trivial
      · exact safe.goTo trivial

theorem takeAnswer_safe (answer : IpcAnswer) : DrainSafe (takeAnswer digest world answer) key := by
  unfold takeAnswer
  split
  · exact safe
  next flight isFlight =>
    have pointSafe := safe.point flight isFlight
    split
    · exact afterSend_safe safe _ _ _
    · exact afterSend_safe safe _ _ _
    · exact safe.finish
    · exact afterStatus_safe safe _ _
    · exact safe.finish
    · exact safe.finish
    · exact safe.goTo trivial
    · split
      · exact safe.finish
      · exact safe.goTo trivial
    · exact safe.goTo trivial
    · exact safe.finish
    · exact safe.finish
    next item isPoint =>
      rw [isPoint] at pointSafe
      exact handleItem_safe safe item pointSafe
    · exact safe

theorem afterRunner_safe (aborted : Bool) (work : Work) (started : Bool) (outcome : RunnerOutcome)
    (turn : work.key = key → world.journal.phase? key = some .executing ∧
      (started = false → MayStart world.log key)) :
    DrainSafe (afterRunner world aborted work started outcome) key := by
  have failed : ∀ reason, DrainSafe (afterRunner.failed world work started reason) key := by
    intro reason
    unfold afterRunner.failed
    split
    · exact safe.goTo fun isKey => (turn isKey).1
    next notStarted =>
      refine safe.goTo fun isKey => ⟨(turn isKey).1, (turn isKey).2 ?_⟩
      exact Bool.eq_false_iff.mpr notStarted
  unfold afterRunner
  split
  · split
    · exact failed _
    · split
      · exact failed _
      · exact safe.goTo fun isKey => (turn isKey).1
  · exact failed _

end

/-- What an operator call does to a record: it retries a held one, discards one,
sends one again, or leaves the phases. -/
theorem resolvePeerRecord_phase {journal resolved : DrainJournal} {active : Bool}
    {call : ResolveCall} {now : Nat} {resolution : Resolution} {result : ResolveResult}
    (isResolved : resolvePeerRecord digest journal active call now =
      .ok (resolved, resolution, result)) :
    (resolution = .retried ∧ journal.phase? call.key = some .held ∧
        resolved.phase? key = if call.key = key then some .retryPending else journal.phase? key) ∨
      (resolution = .discarded ∧
        (journal.phase? call.key = some .held ∨ journal.phase? call.key = some .replyFailed) ∧
        resolved.phase? key = if call.key = key then some .discarded else journal.phase? key) ∨
      (resolution = .resent ∧ journal.phase? call.key = some .replyFailed ∧
        resolved.phase? key = if call.key = key then some .resendPending else journal.phase? key) ∨
      ((resolution = .closedOutbound ∨ resolution = .replayed) ∧
        resolved.phase? key = journal.phase? key) := by
  unfold resolvePeerRecord at isResolved
  split at isResolved
  · cases isResolved
  · split at isResolved
    · split at isResolved
      · cases isResolved
        exact .inr (.inr (.inr ⟨.inr rfl, rfl⟩))
      · cases isResolved
    · split at isResolved
      · split at isResolved
        · cases isResolved
        · cases isResolved
          exact .inr (.inr (.inr ⟨.inl rfl, rfl⟩))
      · split at isResolved
        · cases isResolved
        next row found =>
          have isPhase : journal.phase? call.key = some row.phase := by
            rw [DrainJournal.phase?, found]
            rfl
          have updated : ∀ (change : Record → Record) (next : Phase),
              (∀ row, (change row).phase = next) →
              (journal.updateRow call.key change).phase? key =
                if call.key = key then some next else journal.phase? key := by
            intro change next sets
            rw [phase?_updateRow sets]
            split
            next isKey =>
              rw [← isKey, isPhase]
              rfl
            · rfl
          split at isResolved
          · cases isResolved
          · split at isResolved
            · cases isResolved
            next change _ _ isChange =>
              cases isResolved
              unfold resolveRow at isChange
              dsimp only at isChange
              split at isChange
              next isHeld =>
                rw [isHeld] at isPhase
                split_ifs at isChange
                · cases isChange
                  exact .inl ⟨rfl, isPhase, updated _ _ fun _ => rfl⟩
                · cases isChange
                  exact .inr (.inl ⟨rfl, .inl isPhase, updated _ _ fun _ => rfl⟩)
              next isFailed =>
                rw [isFailed] at isPhase
                split_ifs at isChange
                · cases isChange
                  exact .inr (.inr (.inl ⟨rfl, isPhase, updated _ _ fun _ => rfl⟩))
                · cases isChange
                  exact .inr (.inl ⟨rfl, .inr isPhase, updated _ _ fun _ => rfl⟩)
              · cases isChange

/-- A point where the source waits does not lose what it relies on when an
operator call changes a record. -/
theorem Point.Safe.resolved {before after : Option Phase} {log events : List DrainEvent}
    (waits : point.waits = true) (safe : point.Safe before arrived (MayStart log key) key)
    (sameRow : before = none ↔ after = none)
    (sameTurn : before = some .executing → after = some .executing)
    (mayStart : before = none ∨ before = some .executing → MayStart log key →
      MayStart (log ++ events) key) :
    point.Safe after arrived (MayStart (log ++ events) key) key := by
  cases point with
  | polling page =>
      match page with
      | none | some none => trivial
      | some (some item) =>
          intro isKey
          obtain ⟨isArrived, mayBefore⟩ := safe isKey
          refine ⟨isArrived, fun isNone => ?_⟩
          have wasNone := sameRow.mpr isNone
          exact mayStart (.inl wasNone) (mayBefore wasNone)
  | executing work =>
      intro isKey
      obtain ⟨isExecuting, mayBefore⟩ := safe isKey
      exact ⟨sameTurn isExecuting, mayStart (.inr isExecuting) mayBefore⟩
  | running work started =>
      intro isKey
      obtain ⟨isExecuting, mayBefore⟩ := safe isKey
      exact ⟨sameTurn isExecuting, fun notStarted =>
        mayStart (.inr isExecuting) (mayBefore notStarted)⟩
  | sending | checking | admitted | acking | sendingOutcome | replyAcked | resultStored => trivial
  | _ => cases waits

/-- An operator call while the step in flight waits. -/
theorem DrainSafe.resolve (safe : DrainSafe world key) {resolved : DrainJournal}
    {events : List DrainEvent}
    (waits : ∀ flight, world.flight = some flight → flight.point.waits = true)
    (row : RowSafe (resolved.phase? key) (key ∈ world.arrived) (world.Lists key)
      (world.log ++ events) key)
    (sameRow : world.journal.phase? key = none ↔ resolved.phase? key = none)
    (sameTurn : world.journal.phase? key = some .executing → resolved.phase? key = some .executing)
    (mayStart : world.journal.phase? key = none ∨ world.journal.phase? key = some .executing →
      MayStart world.log key → MayStart (world.log ++ events) key) :
    DrainSafe { world with journal := resolved, log := world.log ++ events } key :=
  ⟨row, fun flight isFlight =>
    (safe.point flight isFlight).resolved (waits flight isFlight) sameRow sameTurn mayStart⟩

/-- An operator call about another message. -/
theorem DrainSafe.resolveOther (safe : DrainSafe world key) {resolved : DrainJournal}
    {event : DrainEvent}
    (waits : ∀ flight, world.flight = some flight → flight.point.waits = true)
    (same : resolved.phase? key = world.journal.phase? key) (notStarted : event ≠ .started key)
    (notRetried : event ≠ .retried key) (notDiscarded : event ≠ .discarded key) :
    DrainSafe { world with journal := resolved, log := world.log ++ [event] } key := by
  refine safe.resolve waits ?_ (by rw [same]) (fun isExecuting => same.trans isExecuting) ?_
  · rw [same]
    exact safe.row.otherEvent notStarted notRetried notDiscarded
  · exact fun _ => (mayStart_append_other notStarted notRetried notDiscarded).mpr

/-- An operator call that adds no event. -/
theorem DrainSafe.resolveSilent (safe : DrainSafe world key) {resolved : DrainJournal}
    (waits : ∀ flight, world.flight = some flight → flight.point.waits = true)
    (row : RowSafe (resolved.phase? key) (key ∈ world.arrived) (world.Lists key) world.log key)
    (sameRow : world.journal.phase? key = none ↔ resolved.phase? key = none)
    (sameTurn : world.journal.phase? key = some .executing →
      resolved.phase? key = some .executing) :
    DrainSafe { world with journal := resolved, log := world.log ++ [] } key := by
  refine safe.resolve waits ?_ sameRow sameTurn fun _ mayStart => ?_
  · rw [List.append_nil]
    exact row
  · rw [List.append_nil]
    exact mayStart

theorem takeResolve_safe (safe : DrainSafe world key) (call : ResolveCall) :
    DrainSafe (takeResolve digest world call) key := by
  unfold takeResolve
  split
  next waiting =>
    have waits : ∀ flight, world.flight = some flight → flight.point.waits = true := by
      intro flight isFlight
      rw [isFlight] at waiting
      exact waiting
    split
    · exact safe
    next resolved resolution result isResolved =>
      rcases @resolvePeerRecord_phase key digest _ _ _ _ _ _ _ isResolved with
        ⟨rfl, isHeld, isPhase⟩ | ⟨rfl, wasOpen, isPhase⟩ | ⟨rfl, isFailed, isPhase⟩ |
          ⟨isSilent, isPhase⟩
      · by_cases isKey : call.key = key
        · rw [if_pos isKey] at isPhase
          subst isKey
          refine safe.resolve waits ?_ (by simp [isHeld, isPhase]) (by simp [isHeld])
            (by simp [isHeld])
          rw [isPhase]
          exact safe.row.retried isHeld
        · rw [if_neg isKey] at isPhase
          exact safe.resolveOther waits isPhase (fun same => (nomatch same))
            (fun same => isKey (DrainEvent.retried.inj same)) (fun same => (nomatch same))
      · by_cases isKey : call.key = key
        · rw [if_pos isKey] at isPhase
          subst isKey
          have isRow : world.journal.phase? call.key ≠ none := by
            rcases wasOpen with isHeld | isFailed
            · simp [isHeld]
            · simp [isFailed]
          have notTurn : world.journal.phase? call.key ≠ some .executing := by
            rcases wasOpen with isHeld | isFailed
            · simp [isHeld]
            · simp [isFailed]
          refine safe.resolve waits ?_ (by simp [isRow, isPhase])
            (fun isTurn => absurd isTurn notTurn) fun either => ?_
          · rw [isPhase]
            exact safe.row.discarded isRow
          · rcases either with isNone | isTurn
            · exact absurd isNone isRow
            · exact absurd isTurn notTurn
        · rw [if_neg isKey] at isPhase
          exact safe.resolveOther waits isPhase (fun same => (nomatch same))
            (fun same => (nomatch same)) (fun same => isKey (DrainEvent.discarded.inj same))
      · by_cases isKey : call.key = key
        · rw [if_pos isKey] at isPhase
          subst isKey
          refine safe.resolveSilent waits ?_ (by simp [isFailed, isPhase]) (by simp [isFailed])
          have moved := safe.row.setPhase .resendPending (fun leads => (nomatch leads))
            (fun same => (nomatch same))
          rw [isFailed] at moved
          rw [isPhase]
          exact moved
        · rw [if_neg isKey] at isPhase
          refine safe.resolveSilent waits ?_ (by rw [isPhase]) (fun isTurn => isPhase.trans isTurn)
          rw [isPhase]
          exact safe.row
      · rcases isSilent with rfl | rfl
        · refine safe.resolveSilent waits ?_ (by rw [isPhase]) (fun isTurn => isPhase.trans isTurn)
          rw [isPhase]
          exact safe.row
        · refine safe.resolveSilent waits ?_ (by rw [isPhase]) (fun isTurn => isPhase.trans isTurn)
          rw [isPhase]
          exact safe.row
  · exact safe

theorem Point.Safe.arrive {before after mayStart : Prop}
    (safe : point.Safe phase before mayStart key) (arrives : before → after) :
    point.Safe phase after mayStart key := by
  cases point with
  | polling page =>
      match page with
      | none | some none => trivial
      | some (some item) => exact fun isKey => ⟨arrives (safe isKey).1, (safe isKey).2⟩
  | insertExecuting work => exact fun isKey => ⟨arrives (safe isKey).1, (safe isKey).2⟩
  | reject | closeOutbound | storeReply => exact fun isKey => arrives (safe isKey)
  | _ => exact safe

theorem engineLists_safe (safe : DrainSafe world key) (item : InboxItem)
    (mayList : world.mayList item = true) :
    DrainSafe
      { world with
        inbox := world.inbox ++ [item]
        arrived := item.key :: world.arrived } key := by
  have listedBefore : (∃ other ∈ world.inbox ++ [item], other.key = key) →
      world.Lists key ∨ item.key = key := by
    rintro ⟨other, member, isKey⟩
    rcases List.mem_append.mp member with before | isNew
    · exact .inl ⟨other, before, isKey⟩
    · rw [List.mem_singleton.mp isNew] at isKey
      exact .inr isKey
  refine ⟨⟨safe.row.runsOnce, fun unknown => ?_, fun isListed => ?_, fun isNone isListed => ?_,
    safe.row.retry, safe.row.dead⟩, fun flight isFlight => ?_⟩
  · exact safe.row.unseen fun isArrived => unknown (List.mem_cons_of_mem _ isArrived)
  · rcases listedBefore isListed with before | rfl
    · exact List.mem_cons_of_mem _ (safe.row.listedArrived before)
    · exact List.mem_cons_self
  · rcases listedBefore isListed with before | rfl
    · exact safe.row.fresh isNone before
    · -- The item is new, or it has a record.
      unfold DrainWorld.mayList at mayList
      rcases Bool.or_eq_true _ _ |>.mp mayList with isNew | again
      · exact (safe.row.unseen (of_decide_eq_true isNew)).2
      · have isNone : world.journal.phase? item.key = none := isNone
        rw [DrainJournal.phase?, Option.map_eq_none_iff] at isNone
        rw [isNone] at again
        cases again
  · exact (safe.point flight isFlight).arrive fun isArrived => List.mem_cons_of_mem _ isArrived

theorem restart_safe (safe : DrainSafe world key) (sets : ∀ row, (change row).phase = .held)
    (routes : List (String × Route)) (signalsStart : Bool) :
    DrainSafe
      { world with
        journal := world.journal.updateWhere (fun row => row.phase = .executing) change
        routes := routes
        signalsStart := signalsStart
        flight := none
        activeExecutions := [] } key := by
  refine ⟨?_, fun _ isFlight => (nomatch isFlight)⟩
  change RowSafe ((world.journal.updateWhere _ _).phase? key) _ _ _ _
  rcases @phase?_updateWhere world.journal key (fun row => row.phase = .executing) _ _ sets with
    same | ⟨⟨row, isRow, isExecuting⟩, isHeld⟩
  · rw [same]
    exact safe.row
  · have wasExecuting : world.journal.phase? key = some .executing := by
      rw [DrainJournal.phase?, isRow, Option.map_some, of_decide_eq_true isExecuting]
    have held := safe.row.setPhase .held (fun _ => safe.row.not_discarded wasExecuting)
      (fun same => (nomatch same))
    rw [wasExecuting] at held
    rw [isHeld]
    exact held

/-- Every step is safe, but for a sweep that forgets a listed message. -/
theorem drainStep_safe (safe : DrainSafe world key) (label : DrainLabel)
    (kept : ¬ ForgetsListed world label) : DrainSafe (drainStep digest world label) key := by
  cases label with
  | step aborted =>
      simp only [drainStep]
      split
      · exact safe
      · refine ⟨safe.row, fun flight isFlight => ?_⟩
        cases isFlight
        trivial
  | advance tie => exact advance_safe safe tie kept
  | abort =>
      refine ⟨safe.row, fun flight isFlight => ?_⟩
      obtain ⟨before, wasFlight, rfl⟩ := Option.map_eq_some_iff.mp isFlight
      exact safe.point before wasFlight
  | answer answer => exact takeAnswer_safe safe answer
  | runnerStarts =>
      simp only [drainStep]
      split
      next work isFlight =>
        have turn := safe.point _ isFlight
        exact start_safe safe work fun isKey => ⟨(turn isKey).1, (turn isKey).2 rfl⟩
      · exact safe
  | runnerEnds outcome =>
      simp only [drainStep]
      split
      next isFlight => exact afterRunner_safe safe _ _ _ outcome (safe.point _ isFlight)
      · exact safe
  | runnerSettles named => exact ⟨safe.row, safe.point⟩
  | engineLists item =>
      simp only [drainStep]
      split
      next mayList => exact engineLists_safe safe item mayList
      · exact safe
  | engineAcks named =>
      simp only [drainStep]
      split
      · have listedBefore : (∃ item ∈ world.inbox.filter (fun item => item.key ≠ named),
            item.key = key) → world.Lists key := by
          rintro ⟨item, member, isKey⟩
          exact ⟨item, List.mem_of_mem_filter member, isKey⟩
        exact ⟨{ safe.row with
          listedArrived := fun isListed => safe.row.listedArrived (listedBefore isListed)
          fresh := fun isNone isListed => safe.row.fresh isNone (listedBefore isListed) },
          safe.point⟩
      · exact safe
  | enginePolls =>
      simp only [drainStep]
      split
      · refine safe.goTo ?_
        cases isHead : world.inbox.head? with
        | none => trivial
        | some item =>
            intro isKey
            have isListed : world.Lists key := ⟨item, List.mem_of_mem_head? isHead, isKey⟩
            exact ⟨safe.row.listedArrived isListed,
              fun isNone => safe.row.fresh isNone isListed⟩
      · exact safe
  | resolve call => exact takeResolve_safe safe call
  | consumeReply named =>
      simp only [drainStep]
      split
      · split
        · exact safe
        next journal isConsumed =>
          have same : journal.phase? key = world.journal.phase? key := by
            unfold consumeReply at isConsumed
            split_ifs at isConsumed
            split at isConsumed
            · cases isConsumed
            · split_ifs at isConsumed
              cases isConsumed
              exact phase?_updateWhere_same fun _ => rfl
          refine ⟨?_, fun flight isFlight => ?_⟩
          · change RowSafe (journal.phase? key) _ _ _ _
            rw [same]
            exact safe.row
          · change flight.point.Safe (journal.phase? key) _ _ _
            rw [same]
            exact safe.point flight isFlight
      · exact safe
  | writeOutbound | setClock => exact ⟨safe.row, safe.point⟩
  | restart routes signalsStart => exact restart_safe safe (fun _ => rfl) routes signalsStart

end

theorem drainSafe_initial (digest : String → String) (key : MessageKey) :
    DrainSafe (drainMachine digest).initial key := by
  have mayStart : MayStart [] key := ⟨Nat.le_refl _, List.not_mem_nil⟩
  refine ⟨⟨⟨Nat.zero_le _, fun before after same => ?_⟩, fun _ => ⟨rfl, mayStart⟩, ?_,
    fun _ _ => mayStart, fun _ => mayStart, fun _ => rfl⟩, fun _ isFlight => (nomatch isFlight)⟩
  · exact absurd same.symm (List.append_ne_nil_of_right_ne_nil _ (List.cons_ne_nil _ _))
  · rintro ⟨item, member, -⟩
    cases member

/-- As long as no retention sweep forgets a message that the engine still lists
and that may not start again, every message is started at most once and once
more for each accepted retry, and never after a discard, whatever fails, stops
or comes in between. -/
theorem drain_runs_once (digest : String → String) (labels : List DrainLabel)
    (remembers : (drainMachine digest).Along (fun world label => ¬ ForgetsListed world label)
      (drainMachine digest).initial labels) (key : MessageKey) :
    RunsOnce ((drainMachine digest).run labels).log key := by
  have preserved : ∀ world label, ¬ ForgetsListed world label → DrainSafe world key →
      DrainSafe ((drainMachine digest).step world label) key :=
    fun _ label kept safe => drainStep_safe safe label kept
  have safe : DrainSafe ((drainMachine digest).run labels) key :=
    Machine.Along.invariant preserved (drainSafe_initial digest key) remembers
  exact safe.row.runsOnce

/-! ## Runs -/

private def samplePeer : String :=
  "aaaaaaaaaaaaaaaaaaaaaaaaaaaaaaaaaaaaaaaaaaaaaaaaaaaaaaaaaaaaaaaa"

private def samplePayload : String :=
  Json.text (.obj [("protocol", .str "triangle.peer/1"), ("kind", .str "request"),
    ("request_id", .str "r-1"), ("text", .str "hi")])

/-- The SHA-256 of the sample payload, the only text that the runs hash. -/
private def sampleDigest : String → String :=
  fun _ => "ac8c273ea302affaccfee562d669ba9509e4573623beb7a9c164706a78fa6fb5"

private def sampleRestart : DrainLabel :=
  .restart [(samplePeer, ⟨samplePeer, []⟩)] false

private def sampleLists : DrainLabel :=
  .engineLists ⟨samplePeer, "m-1", some samplePayload, some (sampleDigest samplePayload)⟩

/-- A step up to the poll and the item that it brings. -/
private def sampleStep : List DrainLabel :=
  [.step false, .advance 0, .advance 0, .advance 0, .enginePolls, .answer .page]

/-- A request runs and fails, its ack fails too, and an operator discards it. -/
private def sampleDiscard : List DrainLabel :=
  [sampleRestart, sampleLists] ++ sampleStep ++
    [.advance 0, .advance 0, .runnerEnds (.failed "runner_failed"), .advance 0, .advance 0,
      .answer (.failed none), .resolve ⟨samplePeer, "m-1", "discard", "op-1", none⟩]

/-- The item of a discarded request is polled again within the retention: it is
acked and not run. -/
theorem drain_runs_once_discarded :
    (drainMachine sampleDigest).Along (fun world label => ¬ ForgetsListed world label)
        (drainMachine sampleDigest).initial (sampleDiscard ++ sampleStep ++ [.advance 0]) ∧
      RunsOnce ((drainMachine sampleDigest).run (sampleDiscard ++ sampleStep ++ [.advance 0])).log
        (samplePeer, "m-1") := by
  have remembers : (drainMachine sampleDigest).Along
      (fun world label => ¬ ForgetsListed world label) (drainMachine sampleDigest).initial
      (sampleDiscard ++ sampleStep ++ [.advance 0]) := by
    decide +kernel
  exact ⟨remembers, drain_runs_once sampleDigest _ remembers _⟩

/-- The host is down for eight days before it can ack the item of the discarded
request. The first sweep then forgets the record, and the request runs again. -/
theorem forgotten_request_runs_again :
    ¬ RunsOnce ((drainMachine sampleDigest).run (sampleDiscard ++
      [.setClock retentionMs, sampleRestart] ++ sampleStep ++ [.advance 0, .advance 0])).log
      (samplePeer, "m-1") := by
  have log : ((drainMachine sampleDigest).run (sampleDiscard ++
      [.setClock retentionMs, sampleRestart] ++ sampleStep ++ [.advance 0, .advance 0])).log =
        [.started (samplePeer, "m-1"), .discarded (samplePeer, "m-1"),
          .started (samplePeer, "m-1")] := by
    decide +kernel
  intro once
  rw [log] at once
  exact once.notAfterDiscard [.started (samplePeer, "m-1")] [.started (samplePeer, "m-1")] rfl
    List.mem_cons_self

end Triangle.PeerDrain
