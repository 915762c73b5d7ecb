import Triangle.PeerDrain.Replies

/-!
# A stored reply

A reply that is stored for the application stays stored until the application
consumes it: no step works on its record, and it does not expire.
-/

namespace Triangle.PeerDrain

open Triangle.Std

/-- The record of a reply that waits for the application. -/
structure HoldsReply (item : InboxItem) (requestId inReplyTo : String) (row : Record) : Prop where
  key : row.key = item.key
  phase : row.phase = .replyReceived
  unconsumed : row.applicationConsumed = false
  inReplyTo : row.inReplyTo = some inReplyTo
  requestId : row.requestId = some requestId
  payload : row.replyPayload = item.payload

/-- A point that acks the item of a stored reply. -/
def Point.AcksReply (key : MessageKey) : Point → Prop
  | .ack named next | .acking named next | .markAcked named next =>
      named = key ∧ (next = .finish ∨ next = .replyView)
  | _ => False

/-- The reply is stored, and no step works on its record. -/
structure StoredReply (item : InboxItem) (requestId inReplyTo : String) (world : DrainWorld) :
    Prop where
  row : ∃ row, world.journal.getRow item.key = some row ∧ HoldsReply item requestId inReplyTo row
  point : ∀ flight, world.flight = some flight →
    flight.point.subject ≠ some item.key ∨ flight.point.AcksReply item.key

section

variable {world after : DrainWorld} {digest : String → String} {item : InboxItem}
  {requestId inReplyTo : String}

theorem StoredReply.keeps {journal : DrainJournal} {row : Record} {point : Point}
    (isRow : journal.getRow item.key = some row) (holds : HoldsReply item requestId inReplyTo row)
    (next : point.subject ≠ some item.key ∨ point.AcksReply item.key) :
    StoredReply item requestId inReplyTo ((world.write journal).goTo point) := by
  refine ⟨⟨row, isRow, holds⟩, fun flight isFlight => ?_⟩
  unfold DrainWorld.goTo at isFlight
  obtain ⟨before, -, rfl⟩ := Option.map_eq_some_iff.mp isFlight
  exact next

theorem StoredReply.elsewhere (stored : StoredReply item requestId inReplyTo world)
    (elsewhere : Elsewhere item.key world after) : StoredReply item requestId inReplyTo after := by
  refine ⟨?_, fun flight isFlight => .inl (elsewhere.flight flight isFlight)⟩
  rw [elsewhere.row]
  exact stored.row

theorem StoredReply.goTo (stored : StoredReply item requestId inReplyTo world) {point : Point}
    (next : point.subject ≠ some item.key ∨ point.AcksReply item.key) :
    StoredReply item requestId inReplyTo (world.goTo point) := by
  obtain ⟨row, isRow, holds⟩ := stored.row
  exact @StoredReply.keeps world item requestId inReplyTo world.journal row point isRow holds next

theorem StoredReply.finish (stored : StoredReply item requestId inReplyTo world) :
    StoredReply item requestId inReplyTo world.finish :=
  ⟨stored.row, fun _ isFlight => (nomatch isFlight)⟩

section

variable (stored : StoredReply item requestId inReplyTo world)
include stored

/-- The item of a stored reply is acked once more. -/
theorem handleItem_stored (isReply : IsReply digest item requestId inReplyTo) {other : InboxItem}
    (isKey : other.key = item.key) :
    StoredReply item requestId inReplyTo (handleItem digest world other) := by
  obtain ⟨row, isRow, holds⟩ := stored.row
  obtain ⟨isSender, isMessage, -⟩ := isReply
  have named : (isEndpoint other.fromEndpointId && isIdentifier other.messageId) = true := by
    have sameSender : other.fromEndpointId = item.fromEndpointId := congrArg Prod.fst isKey
    have sameMessage : other.messageId = item.messageId := congrArg Prod.snd isKey
    rw [sameSender, sameMessage, isSender, isMessage]
    rfl
  have isTerminal : (if (isEndpoint other.fromEndpointId && isIdentifier other.messageId) = true
      then world.journal.getRow other.key else none).any (fun row => row.phase.isTerminal) = true := by
    rw [if_pos named, isKey, isRow, Option.any_some, holds.phase]
    rfl
  unfold handleItem
  dsimp only
  rw [if_pos isTerminal]
  exact stored.goTo (.inr ⟨isKey, .inl rfl⟩)

/-- A step about the stored reply only acks its item. -/
theorem advance_stored {flight : Flight} (isFlight : world.flight = some flight)
    (acks : flight.point.AcksReply item.key) (tie : Nat) :
    StoredReply item requestId inReplyTo (advance digest world tie) := by
  obtain ⟨row, isRow, holds⟩ := stored.row
  have goesOn : ∀ {world : DrainWorld} {next : AfterAck},
      StoredReply item requestId inReplyTo world → next = .finish ∨ next = .replyView →
      StoredReply item requestId inReplyTo (afterAck world item.key next) := by
    rintro world next stored (rfl | rfl)
    · exact stored.finish
    · exact stored.goTo (.inl nofun)
  unfold advance
  rw [isFlight]
  dsimp only
  generalize flight.point = point at acks
  cases point with
  | ack named next =>
      obtain ⟨rfl, isNext⟩ := acks
      dsimp only
      unfold ackItem
      split
      · exact goesOn stored isNext
      · refine @StoredReply.goTo { world with acksSent := item.key :: world.acksSent } _ _ _
          ⟨stored.row, stored.point⟩ _ (.inr ⟨rfl, isNext⟩)
  | acking named next => exact stored
  | markAcked named next =>
      obtain ⟨rfl, isNext⟩ := acks
      refine goesOn ⟨⟨_, getRow_updateRow_self isRow, ?_⟩, fun other isOther => ?_⟩ isNext
      · exact ⟨holds.key, holds.phase, holds.unconsumed, holds.inReplyTo, holds.requestId,
          holds.payload⟩
      · exact stored.point other isOther
  | _ => cases acks

theorem chooseNext_stored (tie : Nat) :
    StoredReply item requestId inReplyTo (chooseNext world tie) := by
  obtain ⟨row, isRow, holds⟩ := stored.row
  -- A step turns to no record of a received reply.
  have notChosen : ∀ other, world.journal.getRow other.key = some other →
      other.phase ≠ .replyReceived → some other.key ≠ some item.key := by
    intro other isOther notReply same
    rw [Option.some.inj same, isRow] at isOther
    cases isOther
    exact notReply holds.phase
  rcases chooseNext_cases world tie with ⟨other, isOther, chosen⟩ | isDone | isPoll
  · rcases chosen with ⟨isPhase, same⟩ | ⟨isPhase, same⟩ | ⟨isPhase, same⟩ |
      ⟨isPhase, state, reason, same⟩
    · rw [same]
      exact stored.goTo (.inl (notChosen other isOther (by simp [isPhase])))
    · rw [same]
      exact stored.goTo (.inl (notChosen other isOther (by simp [isPhase])))
    · rw [same]
      refine stored.goTo (.inl (notChosen other isOther ?_))
      rcases isPhase with isPhase | isPhase <;> simp [isPhase]
    · rw [same]
      refine stored.goTo (.inl (notChosen other isOther ?_))
      rcases isPhase with isPhase | isPhase <;> simp [isPhase]
  · rw [isDone]
    exact stored.finish
  · rw [isPoll]
    exact stored.goTo (.inl nofun)

end

/-- Nothing but the record and the step in flight matters. -/
theorem StoredReply.same (stored : StoredReply item requestId inReplyTo world)
    (row : after.journal.getRow item.key = world.journal.getRow item.key)
    (point : after.flight.map Flight.point = world.flight.map Flight.point) :
    StoredReply item requestId inReplyTo after := by
  refine ⟨?_, fun flight isFlight => ?_⟩
  · rw [row]
    exact stored.row
  · rw [isFlight, Option.map_some] at point
    obtain ⟨before, wasFlight, samePoint⟩ := Option.map_eq_some_iff.mp point.symm
    rw [← samePoint]
    exact stored.point before wasFlight

theorem takeAnswer_stored (stored : StoredReply item requestId inReplyTo world)
    (isReply : IsReply digest item requestId inReplyTo) (answer : IpcAnswer) :
    StoredReply item requestId inReplyTo (takeAnswer digest world answer) := by
  cases isFlight : world.flight with
  | none =>
      unfold takeAnswer
      rw [isFlight]
      exact stored
  | some flight =>
      rcases stored.point flight isFlight with notSubject | acks
      · have isElsewhere : world.IsElsewhere item.key := by
          intro other isOther
          cases isFlight.symm.trans isOther
          exact notSubject
        by_cases polled : ∃ other, flight.point = .polling (some (some other)) ∧
            other.key = item.key
        · obtain ⟨other, isPoint, isKey⟩ := polled
          unfold takeAnswer
          rw [isFlight]
          dsimp only
          rw [isPoint]
          cases answer with
          | page => exact handleItem_stored stored isReply isKey
          | failed code => exact stored.finish
          | done | status | acked => exact stored
        · refine stored.elsewhere (takeAnswer_elsewhere isElsewhere answer ?_)
          intro aborted other isOther isKey
          cases isFlight.symm.trans isOther
          exact polled ⟨other, rfl, isKey⟩
      · unfold takeAnswer
        rw [isFlight]
        dsimp only
        generalize flight.point = point at acks
        cases point with
        | ack named next => exact stored
        | acking named next =>
            cases answer with
            | failed code => exact stored.finish
            | acked verified =>
                cases verified with
                | true => exact stored.goTo (.inr acks)
                | false => exact stored.finish
            | done | status | page => exact stored
        | markAcked named next => exact stored
        | _ => cases acks

theorem sweep_stored (stored : StoredReply item requestId inReplyTo world) :
    StoredReply item requestId inReplyTo ((world.write
      (world.journal.deleteWhere (Record.isExpired world.clock))).goTo .sweepOutbound) := by
  obtain ⟨row, isRow, holds⟩ := stored.row
  refine StoredReply.keeps ?_ holds (.inl nofun)
  rw [getRow_deleteWhere, isRow, Option.filter_some]
  -- A reply that the application has not consumed does not expire.
  have notExpired : row.isExpired world.clock = false := by
    simp [Record.isExpired, holds.phase, holds.unconsumed]
  simp [notExpired]

/-- A stored reply stays stored. -/
theorem StoredReply.step (stored : StoredReply item requestId inReplyTo world)
    (isReply : IsReply digest item requestId inReplyTo) {label : DrainLabel}
    (noRival : NoRival item inReplyTo world label) :
    StoredReply item requestId inReplyTo (drainStep digest world label) := by
  obtain ⟨row, isRow, holds⟩ := stored.row
  cases label with
  | step aborted =>
      simp only [drainStep]
      split
      · exact stored
      · refine ⟨stored.row, fun flight isFlight => .inl ?_⟩
        cases isFlight
        rintro ⟨⟩
  | advance tie =>
      cases isFlight : world.flight with
      | none =>
          simp only [drainStep, advance, isFlight]
          exact stored
      | some flight =>
          rcases stored.point flight isFlight with notSubject | acks
          · by_cases isRetention : flight.point = .retention
            · simp only [drainStep, advance, isFlight, isRetention]
              exact sweep_stored stored
            · by_cases isChoose : flight.point = .choose
              · simp only [drainStep, advance, isFlight, isChoose]
                exact chooseNext_stored stored tie
              · refine stored.elsewhere (advance_elsewhere (fun other isOther => ?_) tie ?_ ?_)
                · cases isFlight.symm.trans isOther
                  exact notSubject
                · simpa [isFlight] using isRetention
                · simpa [isFlight] using isChoose
          · exact advance_stored stored isFlight acks tie
  | abort =>
      refine stored.same rfl ?_
      change (world.flight.map _).map Flight.point = _
      rw [Option.map_map]
      rfl
  | answer answer => exact takeAnswer_stored stored isReply answer
  | runnerStarts =>
      simp only [drainStep]
      split
      next work isFlight =>
        refine @StoredReply.goTo (world.started work.key) _ _ _ ⟨stored.row, stored.point⟩ _ ?_
        exact stored.point _ isFlight
      · exact stored
  | runnerEnds outcome =>
      simp only [drainStep]
      split
      next isFlight =>
        rcases stored.point _ isFlight with notSubject | acks
        · exact stored.elsewhere (afterRunner_elsewhere _ _ _ outcome notSubject)
        · cases acks
      · exact stored
  | runnerSettles named => exact stored.same rfl rfl
  | engineLists | engineAcks =>
      simp only [drainStep]
      split
      · exact stored.same rfl rfl
      · exact stored
  | enginePolls =>
      simp only [drainStep]
      split
      · exact stored.goTo (.inl (by rintro ⟨⟩))
      · exact stored
  | resolve call =>
      simp only [drainStep, takeResolve]
      split
      · split
        · exact stored
        next resolved resolution result isResolved =>
          rcases (@resolvePeerRecord_cases item.key digest _ _ _ _ _ _ _ isResolved).2 with
            same | ⟨other, next, found, -, resolves⟩
          · exact stored.same same rfl
          · cases isRow.symm.trans found
            rcases resolves with ⟨isPhase, -⟩ | ⟨isPhase, -⟩ | ⟨isPhase | isPhase, -⟩
            · cases holds.phase.symm.trans isPhase
            · cases holds.phase.symm.trans isPhase
            · cases holds.phase.symm.trans isPhase
            · cases holds.phase.symm.trans isPhase
      · exact stored
  | consumeReply named =>
      simp only [drainStep]
      split
      · split
        · exact stored
        next consumed isConsumed =>
          rcases (@consumeReply_row item.key _ _ _ _ isConsumed).2 with same | ⟨isKey, -⟩
          · exact stored.same same rfl
          · exact absurd isKey noRival
      · exact stored
  | writeOutbound | setClock => exact stored.same rfl rfl
  | restart routes signalsStart =>
      refine ⟨⟨row, ?_, holds⟩, fun flight isFlight => by cases isFlight⟩
      change (world.journal.updateWhere _ _).getRow item.key = _
      rw [DrainJournal.getRow_updateWhere, isRow]
      simp [holds.phase]

end

end Triangle.PeerDrain
