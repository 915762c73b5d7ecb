import Triangle.PeerDrain.RowSafety

/-!
# What the step in flight is about

From the choice of its work to its end a step is about one message. It changes
no other record and acks no other item, so an invariant about one message is
kept by all steps about others, and only the steps about the message itself, the
retention sweep, the choice of work and operator calls are left to look at.
-/

namespace Triangle.PeerDrain

open Triangle.Std

/-- The message that a point is about. -/
def Point.subject : Point → Option MessageKey
  | .retention | .sweepOutbound | .choose | .polling _ | .replyAcked => none
  | .resume key | .failReply key _ | .markAdmitted key | .admitted key | .ack key _
  | .acking key _ | .markAcked key _ | .close key | .stampTerminal key | .sendingOutcome key
  | .markOutcome key | .resultStored key => some key
  | .deliver row | .sending row | .checking row | .outcome row _ _ => some row.key
  | .rerun work | .insertExecuting work | .executing work | .running work _ | .notStarted work
  | .hold work _ | .storeResult work _ => some work.key
  | .reject item _ | .closeOutbound item _ _ | .storeReply item _ _ => some item.key

/-- The step in flight is not about a message. -/
def DrainWorld.IsElsewhere (world : DrainWorld) (key : MessageKey) : Prop :=
  ∀ flight, world.flight = some flight → flight.point.subject ≠ some key

/-- A change asks for no ack of a message. -/
def AsksNot (key : MessageKey) (before after : DrainWorld) : Prop :=
  after.acksSent = before.acksSent ∨
    ∃ other, other ≠ key ∧ after.acksSent = other :: before.acksSent

/-- A change leaves the record of a message alone, asks for no ack of it and does
not turn to it. -/
structure Elsewhere (key : MessageKey) (before after : DrainWorld) : Prop where
  row : after.journal.getRow key = before.journal.getRow key
  acksSent : AsksNot key before after
  flight : after.IsElsewhere key

section

variable {world : DrainWorld} {key : MessageKey} {digest : String → String}

/-! ## The journal's statements -/

variable {journal : DrainJournal} {change : Record → Record}

/-- A statement about another record. -/
theorem getRow_updateRow_other {named : MessageKey} (different : named ≠ key) :
    (journal.updateRow named change).getRow key = journal.getRow key := by
  unfold DrainJournal.updateRow
  rw [DrainJournal.getRow_updateWhere]
  cases found : journal.getRow key with
  | none => rfl
  | some row =>
      obtain ⟨-, rfl⟩ := Table.find?_some found
      simp [Ne.symm different]

/-- A statement about the record. -/
theorem getRow_updateRow_self {journal : DrainJournal} {change : Record → Record} {row : Record}
    (found : journal.getRow key = some row) :
    (journal.updateRow key change).getRow key = some (row.setColumns (change row)) := by
  unfold DrainJournal.updateRow
  rw [DrainJournal.getRow_updateWhere, found]
  obtain ⟨-, rfl⟩ := Table.find?_some found
  simp

/-- A statement makes no record. -/
theorem getRow_updateRow_none {named : MessageKey} (free : journal.getRow key = none) :
    (journal.updateRow named change).getRow key = none := by
  unfold DrainJournal.updateRow
  rw [DrainJournal.getRow_updateWhere, free]
  rfl

theorem getRow_insertRow {journal inserted : DrainJournal} {row : Record}
    (isInserted : journal.insertRow row = some inserted) :
    journal.getRow row.key = none ∧
      inserted.getRow key = if key = row.key then some row else journal.getRow key := by
  unfold DrainJournal.insertRow at isInserted
  split at isInserted
  next free =>
    cases isInserted
    refine ⟨free, ?_⟩
    unfold DrainJournal.getRow
    rw [Table.find?_insert]
  · cases isInserted

theorem insertRow_free {journal : DrainJournal} {row : Record}
    (free : journal.getRow row.key = none) : ∃ inserted, journal.insertRow row = some inserted := by
  unfold DrainJournal.getRow at free
  unfold DrainJournal.insertRow
  rw [dif_pos free]
  exact ⟨_, rfl⟩

/-! ## Moves of a step about another message -/

theorem IsElsewhere.goTo (world : DrainWorld) {point : Point}
    (different : point.subject ≠ some key) : (world.goTo point).IsElsewhere key := by
  intro flight isFlight
  unfold DrainWorld.goTo at isFlight
  obtain ⟨before, -, rfl⟩ := Option.map_eq_some_iff.mp isFlight
  exact different

theorem IsElsewhere.finish (world : DrainWorld) : world.finish.IsElsewhere key := by
  intro flight isFlight
  cases isFlight

theorem Elsewhere.goTo {point : Point} (different : point.subject ≠ some key) :
    Elsewhere key world (world.goTo point) :=
  ⟨rfl, (.inl rfl), IsElsewhere.goTo world different⟩

theorem Elsewhere.finish : Elsewhere key world world.finish :=
  ⟨rfl, (.inl rfl), IsElsewhere.finish world⟩

/-- A statement that leaves the record alone. -/
theorem Elsewhere.write {point : Point} (same : journal.getRow key = world.journal.getRow key)
    (different : point.subject ≠ some key) :
    Elsewhere key world ((world.write journal).goTo point) :=
  ⟨same, (.inl rfl), IsElsewhere.goTo _ different⟩

theorem Elsewhere.writeLast (same : journal.getRow key = world.journal.getRow key) :
    Elsewhere key world (world.write journal).finish :=
  ⟨same, (.inl rfl), IsElsewhere.finish _⟩

variable {named : MessageKey}

theorem afterAck_elsewhere (different : some named ≠ some key) (next : AfterAck) :
    Elsewhere key world (afterAck world named next) := by
  unfold afterAck
  cases next with
  | finish => exact Elsewhere.finish
  | close => exact Elsewhere.goTo different
  | outcome state reason =>
      cases found : world.journal.getRow named with
      | none => exact Elsewhere.finish
      | some row =>
          obtain ⟨-, rfl⟩ := Table.find?_some found
          exact Elsewhere.goTo different
  | replyView => exact Elsewhere.goTo nofun

theorem ackItem_elsewhere (different : some named ≠ some key) (next : AfterAck) :
    Elsewhere key world (ackItem world named next) := by
  unfold ackItem
  split
  · exact afterAck_elsewhere different next
  · refine ⟨rfl, .inr ⟨named, fun same => different (by rw [same]), rfl⟩, ?_⟩
    exact IsElsewhere.goTo _ different

theorem deliverReply_elsewhere (row : Record) (different : some row.key ≠ some key) :
    Elsewhere key world (deliverReply digest world row) := by
  unfold deliverReply
  split
  · exact Elsewhere.goTo different
  · split
    · exact Elsewhere.goTo different
    · exact Elsewhere.goTo different

theorem rejectItem_elsewhere (item : InboxItem) (reason : String)
    (different : some item.key ≠ some key) : Elsewhere key world (rejectItem world item reason) := by
  have notItem : item.key ≠ key := fun same => different (by rw [same])
  unfold rejectItem
  dsimp only
  split
  · split
    next journal isInserted =>
      refine Elsewhere.write ?_ different
      rw [(getRow_insertRow isInserted).2, if_neg]
      exact fun same => notItem same.symm
    · exact Elsewhere.write (getRow_updateRow_other notItem) different
  · exact Elsewhere.goTo different

theorem callRunner_elsewhere (aborted : Bool) (work : Work)
    (different : some work.key ≠ some key) : Elsewhere key world (callRunner world aborted work) := by
  unfold callRunner
  split
  · exact Elsewhere.goTo different
  · split
    · split
      · exact Elsewhere.goTo different
      · exact Elsewhere.goTo different
    · dsimp only
      split
      · exact ⟨rfl, (.inl rfl), IsElsewhere.goTo _ different⟩
      · exact ⟨rfl, (.inl rfl), IsElsewhere.goTo _ different⟩

theorem storeResult_elsewhere (work : Work) (text : String) (different : some work.key ≠ some key) :
    Elsewhere key world (storeResult digest world work text) := by
  have notWork : work.key ≠ key := fun same => different (by rw [same])
  unfold storeResult
  dsimp only
  split
  · exact Elsewhere.write (getRow_updateRow_other notWork) different
  · exact Elsewhere.write (getRow_updateRow_other notWork) different

theorem dropTurn_elsewhere (work : Work) (different : some work.key ≠ some key) :
    Elsewhere key world (dropTurn world work) := by
  have notWork : work.key ≠ key := fun same => different (by rw [same])
  -- The record of the message is not of the turn.
  have unselected : ∀ row, world.journal.getRow key = some row →
      (row.key = work.key && row.phase = .executing) = false := by
    intro row found
    obtain ⟨-, rfl⟩ := Table.find?_some found
    simp [Ne.symm notWork]
  unfold dropTurn
  dsimp only
  split
  · refine Elsewhere.writeLast ?_
    unfold DrainJournal.getRow DrainJournal.deleteWhere
    rw [Table.find?_delete]
    cases found : world.journal.records.find? key with
    | none => rfl
    | some row => rw [Option.filter_some, unselected row found]; rfl
  · refine Elsewhere.writeLast ?_
    rw [DrainJournal.getRow_updateWhere]
    cases found : world.journal.getRow key with
    | none => rfl
    | some row => rw [Option.map_some, unselected row found]; rfl

/-- A step about another message, but for the sweep and the choice of work. -/
theorem advance_elsewhere (isElsewhere : world.IsElsewhere key) (tie : Nat)
    (notRetention : world.flight.map Flight.point ≠ some .retention)
    (notChoose : world.flight.map Flight.point ≠ some .choose) :
    Elsewhere key world (advance digest world tie) := by
  unfold advance
  split
  · exact ⟨rfl, (.inl rfl), isElsewhere⟩
  next flight isFlight =>
    have stays : Elsewhere key world world := ⟨rfl, (.inl rfl), isElsewhere⟩
    have different := isElsewhere flight isFlight
    rw [isFlight] at notRetention notChoose
    generalize isPoint : flight.point = point at different
    have other : ∀ {named}, some named ≠ some key → named ≠ key :=
      fun different same => different (by rw [same])
    cases point with
    | retention => exact absurd (by rw [Option.map_some, isPoint]) notRetention
    | choose => exact absurd (by rw [Option.map_some, isPoint]) notChoose
    | sweepOutbound => exact Elsewhere.write rfl nofun
    | resume named =>
        dsimp only
        split
        · exact Elsewhere.writeLast (getRow_updateRow_other (other different))
        next row found =>
          obtain ⟨-, rfl⟩ := Table.find?_some found
          exact Elsewhere.write (getRow_updateRow_other (other different)) different
    | rerun | close | hold =>
        exact Elsewhere.write (getRow_updateRow_other (other different)) different
    | deliver row => exact deliverReply_elsewhere row different
    | failReply | markAdmitted =>
        exact Elsewhere.write (getRow_updateRow_other (other different)) different
    | admitted named => exact Elsewhere.goTo different
    | ack named next => exact ackItem_elsewhere different next
    | markAcked named next =>
        obtain ⟨row, acksSent, turns⟩ :=
          @afterAck_elsewhere (world.write (world.journal.updateRow named fun row =>
            { row with inputAcked := true, updatedAt := world.clock })) key named different next
        exact ⟨row.trans (getRow_updateRow_other (other different)), acksSent, turns⟩
    | stampTerminal | markOutcome =>
        exact Elsewhere.writeLast (getRow_updateRow_other (other different))
    | outcome row state reason =>
        dsimp only
        split
        · exact Elsewhere.goTo different
        · exact Elsewhere.goTo different
    | reject item reason => exact rejectItem_elsewhere item reason different
    | closeOutbound item requestId inReplyTo => exact Elsewhere.write rfl different
    | storeReply | insertExecuting =>
        dsimp only
        split
        · exact Elsewhere.finish
        next journal isInserted =>
          refine Elsewhere.write ?_ different
          rw [(getRow_insertRow isInserted).2, if_neg]
          exact fun same => other different same.symm
    | replyAcked => exact Elsewhere.finish
    | executing work => exact callRunner_elsewhere flight.aborted work different
    | notStarted work => exact dropTurn_elsewhere work different
    | storeResult work text => exact storeResult_elsewhere work text different
    | resultStored named =>
        dsimp only
        split
        · exact Elsewhere.finish
        next row found =>
          obtain ⟨-, rfl⟩ := Table.find?_some found
          exact Elsewhere.goTo different
    | sending | checking | acking | sendingOutcome | polling | running => exact stays

theorem handleItem_elsewhere (item : InboxItem) (different : some item.key ≠ some key) :
    Elsewhere key world (handleItem digest world item) := by
  have rejected : ∀ reason, Elsewhere key world (world.goTo (.reject item reason)) :=
    fun reason => Elsewhere.goTo different
  have correlated : ∀ requestId inReplyTo next, next.subject ≠ some key →
      Elsewhere key world (handleItem.correlate world item requestId inReplyTo next) := by
    intro requestId inReplyTo next nextDifferent
    unfold handleItem.correlate
    split
    · exact rejected _
    split
    · exact rejected _
    split
    · exact rejected _
    · exact Elsewhere.goTo nextDifferent
  unfold handleItem
  dsimp only
  -- The record that the item names has its key.
  have isItem : ∀ row, (if (isEndpoint item.fromEndpointId && isIdentifier item.messageId) = true
      then world.journal.getRow item.key else none) = some row → row.key = item.key := by
    intro row found
    split at found
    · exact (Table.find?_some found).2
    · cases found
  generalize (if (isEndpoint item.fromEndpointId && isIdentifier item.messageId) = true then
    world.journal.getRow item.key else none) = row at isItem
  split
  · exact Elsewhere.goTo different
  split
  next stored found =>
    refine Elsewhere.goTo ?_
    change some stored.key ≠ some key
    rw [isItem stored (Option.filter_eq_some_iff.mp found).1]
    exact different
  split
  · exact rejected _
  split
  · exact rejected _
  split
  · exact rejected _
  split
  · exact rejected _
  split
  · exact rejected _
  split
  · exact rejected _
  split
  · exact rejected _
  split
  · exact Elsewhere.goTo different
  · exact correlated _ _ _ different
  · exact correlated _ _ _ different

theorem afterSend_elsewhere (aborted : Bool) (row : Record) (error : Option String)
    (different : some row.key ≠ some key) :
    Elsewhere key world (afterSend world aborted row error) := by
  unfold afterSend
  split
  · exact Elsewhere.finish
  · split
    · exact Elsewhere.finish
    · split
      · exact Elsewhere.goTo different
      · exact Elsewhere.goTo different

theorem afterStatus_elsewhere (row : Record) (status : Option MessageStatus)
    (different : some row.key ≠ some key) :
    Elsewhere key world (afterStatus digest world row status) := by
  unfold afterStatus
  split
  · exact Elsewhere.goTo different
  · split
    · exact Elsewhere.goTo different
    · split
      · exact Elsewhere.goTo different
      · split
        · exact Elsewhere.goTo different
        · exact Elsewhere.goTo different

/-- An answer to a step about another message, but for a page with an item of the message. -/
theorem takeAnswer_elsewhere (isElsewhere : world.IsElsewhere key) (answer : IpcAnswer)
    (notPolled : ∀ aborted item, world.flight = some ⟨aborted, .polling (some (some item))⟩ →
      item.key ≠ key) :
    Elsewhere key world (takeAnswer digest world answer) := by
  have stays : Elsewhere key world world := ⟨rfl, (.inl rfl), isElsewhere⟩
  unfold takeAnswer
  split
  · exact stays
  next flight isFlight =>
    have different := isElsewhere flight isFlight
    obtain ⟨aborted, point⟩ := flight
    dsimp only at different ⊢
    split
    · exact afterSend_elsewhere _ _ _ different
    · exact afterSend_elsewhere _ _ _ different
    · exact Elsewhere.finish
    · exact afterStatus_elsewhere _ _ different
    · exact Elsewhere.finish
    · exact Elsewhere.finish
    · exact Elsewhere.goTo different
    · split
      · exact Elsewhere.finish
      · exact Elsewhere.goTo different
    · exact Elsewhere.goTo different
    · exact Elsewhere.finish
    · exact Elsewhere.finish
    next item =>
      refine handleItem_elsewhere item fun same => ?_
      exact notPolled aborted item isFlight (Option.some.inj same)
    · exact stays

theorem afterRunner_elsewhere (aborted : Bool) (work : Work) (started : Bool)
    (outcome : RunnerOutcome) (different : some work.key ≠ some key) :
    Elsewhere key world (afterRunner world aborted work started outcome) := by
  have failed : ∀ reason, Elsewhere key world (afterRunner.failed world work started reason) := by
    intro reason
    unfold afterRunner.failed
    split
    · exact Elsewhere.goTo different
    · exact Elsewhere.goTo different
  unfold afterRunner
  split
  · split
    · exact failed _
    · split
      · exact failed _
      · exact Elsewhere.goTo different
  · exact failed _

/-- What is left to look at for a message when the step in flight is about
another one. -/
def Touches (key : MessageKey) (world : DrainWorld) : DrainLabel → Prop
  | .advance _ => world.flight.map Flight.point = some .retention ∨
      world.flight.map Flight.point = some .choose
  | .answer _ => ∃ aborted item, world.flight = some ⟨aborted, .polling (some (some item))⟩ ∧
      item.key = key
  | .resolve _ => True
  | .consumeReply _ => True
  | .restart _ _ => True
  | _ => False

theorem drainStep_elsewhere (isElsewhere : world.IsElsewhere key) (label : DrainLabel)
    (untouched : ¬ Touches key world label) : Elsewhere key world (drainStep digest world label) := by
  have stays : Elsewhere key world world := ⟨rfl, (.inl rfl), isElsewhere⟩
  cases label with
  | step aborted =>
      simp only [drainStep]
      split
      · exact stays
      · refine ⟨rfl, (.inl rfl), fun flight isFlight => ?_⟩
        cases isFlight
        exact nofun
  | advance tie =>
      exact advance_elsewhere isElsewhere tie (fun isPoint => untouched (.inl isPoint))
        fun isPoint => untouched (.inr isPoint)
  | abort =>
      refine ⟨rfl, (.inl rfl), fun flight isFlight => ?_⟩
      obtain ⟨before, wasFlight, rfl⟩ := Option.map_eq_some_iff.mp isFlight
      exact isElsewhere before wasFlight
  | answer answer =>
      refine takeAnswer_elsewhere isElsewhere answer fun aborted item isFlight same => ?_
      exact untouched ⟨aborted, item, isFlight, same⟩
  | runnerStarts =>
      simp only [drainStep]
      split
      next isFlight => exact ⟨rfl, (.inl rfl), IsElsewhere.goTo _ (isElsewhere _ isFlight)⟩
      · exact stays
  | runnerEnds outcome =>
      simp only [drainStep]
      split
      next isFlight => exact afterRunner_elsewhere _ _ _ _ (isElsewhere _ isFlight)
      · exact stays
  | runnerSettles named => exact ⟨rfl, (.inl rfl), isElsewhere⟩
  | engineLists | engineAcks =>
      simp only [drainStep]
      split
      · exact ⟨rfl, (.inl rfl), isElsewhere⟩
      · exact stays
  | enginePolls =>
      simp only [drainStep]
      split
      · exact Elsewhere.goTo nofun
      · exact stays
  | writeOutbound | setClock => exact ⟨rfl, (.inl rfl), isElsewhere⟩
  | resolve | consumeReply | restart => exact absurd trivial untouched

/-! ## The choice of work and the calls of others -/

/-- What a step turns to: a record that needs it, or the engine's inbox. -/
theorem chooseNext_cases (world : DrainWorld) (tie : Nat) :
    (∃ row, world.journal.getRow row.key = some row ∧
      (row.phase = .resendPending ∧ chooseNext world tie = world.goTo (.resume row.key) ∨
        row.phase = .retryPending ∧ chooseNext world tie = world.goTo (.rerun row.work) ∨
        (row.phase = .result ∨ row.phase = .admitted) ∧
          chooseNext world tie = world.goTo (.deliver row) ∨
        (row.phase = .held ∨ row.phase = .replyFailed) ∧
          ∃ state reason, chooseNext world tie = world.goTo (.outcome row state reason))) ∨
      chooseNext world tie = world.finish ∨ chooseNext world tie = world.goTo (.polling none) := by
  unfold chooseNext
  split
  next row found =>
    obtain ⟨isRow, isResend⟩ := oldest_some found
    exact .inl ⟨row, isRow, .inl ⟨of_decide_eq_true isResend, rfl⟩⟩
  · split
    next row found =>
      obtain ⟨isRow, isRetry⟩ := oldest_some found
      exact .inl ⟨row, isRow, .inr (.inl ⟨of_decide_eq_true isRetry, rfl⟩)⟩
    · split
      next row found =>
        obtain ⟨isRow, isOwed⟩ := oldest_some found
        refine .inl ⟨row, isRow, .inr (.inr (.inl ⟨?_, rfl⟩))⟩
        simpa using isOwed
      · split
        next row found =>
          obtain ⟨isRow, isOwed⟩ := oldest_some found
          refine .inl ⟨row, isRow, .inr (.inr (.inr ⟨?_, _, _, rfl⟩))⟩
          simp only [Bool.and_eq_true, Bool.or_eq_true, decide_eq_true_eq] at isOwed
          exact isOwed.2.imp_right And.left
        · split
          · exact .inr (.inl rfl)
          · exact .inr (.inr rfl)

/-- What an operator call does to a record. -/
def Resolves (before after : Record) : Prop :=
  before.phase = .held ∧ after.phase = .retryPending ∧
      after.executionAttempt = before.executionAttempt + 1 ∧
      after.resendAttempt = before.resendAttempt ∨
    before.phase = .replyFailed ∧ after.phase = .resendPending ∧
      after.executionAttempt = before.executionAttempt ∧
      after.resendAttempt = before.resendAttempt + 1 ∨
    (before.phase = .held ∨ before.phase = .replyFailed) ∧ after.phase = .discarded ∧
      after.executionAttempt = before.executionAttempt ∧ after.resendAttempt = before.resendAttempt

theorem resolveRow_resolves {active : Bool} {call : ResolveCall} {row : Record} {now : Nat}
    {resolution : Resolution} {result : ResolveResult}
    (isChange : resolveRow digest active call row now = .ok (change, resolution, result)) :
    Resolves row (row.setColumns (change row)) := by
  unfold resolveRow at isChange
  dsimp only at isChange
  split at isChange
  next isHeld =>
    split_ifs at isChange
    · cases isChange
      exact .inl ⟨isHeld, rfl, rfl, rfl⟩
    · cases isChange
      exact .inr (.inr ⟨.inl isHeld, rfl, rfl, rfl⟩)
  next isFailed =>
    split_ifs at isChange
    · cases isChange
      exact .inr (.inl ⟨isFailed, rfl, rfl, rfl⟩)
    · cases isChange
      exact .inr (.inr ⟨.inr isFailed, rfl, rfl, rfl⟩)
  · cases isChange

/-- An operator call resolves a record, or closes an outbound request. -/
theorem resolvePeerRecord_cases {journal resolved : DrainJournal} {active : Bool}
    {call : ResolveCall} {now : Nat} {resolution : Resolution} {result : ResolveResult}
    (isResolved : resolvePeerRecord digest journal active call now =
      .ok (resolved, resolution, result)) :
    (resolved.outbound = journal.outbound ∨ call.action = "close_outbound" ∧
        resolved.outbound = journal.outbound.update (fun row => row.messageId = call.messageId)
          (fun row =>
            { row with
              closedAt := some now
              closeReason := some "operator_closed"
              updatedAt := now })
          (fun _ _ => rfl)) ∧
      (resolved.getRow key = journal.getRow key ∨ ∃ row next, journal.getRow key = some row ∧
        resolved.getRow key = some next ∧ Resolves row next) := by
  unfold resolvePeerRecord at isResolved
  split at isResolved
  · cases isResolved
  · split at isResolved
    · split at isResolved
      · cases isResolved
        exact ⟨.inl rfl, .inl rfl⟩
      · cases isResolved
    · split at isResolved
      next isClose =>
        split at isResolved
        · cases isResolved
        · cases isResolved
          exact ⟨.inr ⟨isClose, rfl⟩, .inl rfl⟩
      · split at isResolved
        · cases isResolved
        next row found =>
          split at isResolved
          · cases isResolved
          · split at isResolved
            · cases isResolved
            next change _ _ isChange =>
              cases isResolved
              refine ⟨.inl rfl, ?_⟩
              change (journal.updateRow call.key change).getRow key = _ ∨ ∃ row next, _ ∧
                (journal.updateRow call.key change).getRow key = _ ∧ _
              by_cases isKey : call.key = key
              · subst isKey
                exact .inr ⟨row, _, found, getRow_updateRow_self found, resolveRow_resolves isChange⟩
              · exact .inl (getRow_updateRow_other isKey)

/-- What the application's call does to a record. -/
theorem consumeReply_row {journal consumed : DrainJournal} {named : MessageKey} {now : Nat}
    (isConsumed : consumeReply journal named now = .ok consumed) :
    consumed.outbound = journal.outbound ∧ (consumed.getRow key = journal.getRow key ∨
      named = key ∧ ∃ row, journal.getRow key = some row ∧ row.phase = .replyReceived ∧
        consumed.getRow key = some (row.setColumns
          { row with
            applicationConsumed := true
            terminalAt := some now
            updatedAt := now })) := by
  unfold consumeReply at isConsumed
  split_ifs at isConsumed
  split at isConsumed
  · cases isConsumed
  next row found =>
    split_ifs at isConsumed with isReply
    cases isConsumed
    refine ⟨rfl, ?_⟩
    by_cases isKey : named = key
    · subst isKey
      exact .inr ⟨rfl, row, found, not_not.mp isReply, getRow_updateRow_self found⟩
    · exact .inl (getRow_updateRow_other isKey)

/-- The sweep leaves a record or takes it away. -/
theorem getRow_deleteWhere {selected : Record → Bool} :
    (journal.deleteWhere selected).getRow key =
      (journal.getRow key).filter fun row => !selected row := by
  unfold DrainJournal.getRow DrainJournal.deleteWhere
  rw [Table.find?_delete]

end

end Triangle.PeerDrain
