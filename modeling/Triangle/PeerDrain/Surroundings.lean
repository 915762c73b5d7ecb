import Triangle.PeerDrain.Subject

/-!
# What a step leaves around it

The engine's inbox and the item of a poll change by what the engine does, and the
outbound requests by the two statements about them and by calls of others. All
other effects of the step in flight leave them alone.
-/

namespace Triangle.PeerDrain

section

variable {world : DrainWorld} {digest : String → String}

/-- The step in flight has an item from its poll. -/
def DrainWorld.Polls (world : DrainWorld) (item : InboxItem) : Prop :=
  ∃ aborted, world.flight = some ⟨aborted, .polling (some (some item))⟩

/-- A change leaves the engine's inbox and the outbound requests alone and brings
no item. -/
structure Inside (before after : DrainWorld) : Prop where
  inbox : after.inbox = before.inbox
  arrived : after.arrived = before.arrived
  outbound : after.journal.outbound = before.journal.outbound
  polled : ∀ item, after.Polls item → before.Polls item

variable {point : Point} {journal : DrainJournal}

theorem not_polls_goTo (world : DrainWorld)
    (notPolled : ∀ item, point ≠ .polling (some (some item))) (item : InboxItem) :
    ¬ (world.goTo point).Polls item := by
  rintro ⟨aborted, isFlight⟩
  unfold DrainWorld.goTo at isFlight
  obtain ⟨before, -, same⟩ := Option.map_eq_some_iff.mp isFlight
  exact notPolled item (congrArg Flight.point same)

theorem not_polls_finish (world : DrainWorld) (item : InboxItem) : ¬ world.finish.Polls item := by
  rintro ⟨aborted, isFlight⟩
  cases isFlight

theorem Inside.goTo {point : Point} (notPolled : ∀ item, point ≠ .polling (some (some item))) :
    Inside world (world.goTo point) :=
  ⟨rfl, rfl, rfl, fun item polls => absurd polls (not_polls_goTo world notPolled item)⟩

theorem Inside.finish : Inside world world.finish :=
  ⟨rfl, rfl, rfl, fun item polls => absurd polls (not_polls_finish world item)⟩

section

variable (same : journal.outbound = world.journal.outbound)
include same

theorem Inside.write (notPolled : ∀ item, point ≠ .polling (some (some item))) :
    Inside world ((world.write journal).goTo point) :=
  ⟨rfl, rfl, same, fun item polls => absurd polls (not_polls_goTo _ notPolled item)⟩

theorem Inside.writeLast : Inside world (world.write journal).finish :=
  ⟨rfl, rfl, same, fun item polls => absurd polls (not_polls_finish _ item)⟩

end

theorem Inside.refl (world : DrainWorld) : Inside world world :=
  ⟨rfl, rfl, rfl, fun _ polls => polls⟩

theorem outbound_insertRow {journal inserted : DrainJournal} {row : Record}
    (isInserted : journal.insertRow row = some inserted) : inserted.outbound = journal.outbound := by
  unfold DrainJournal.insertRow at isInserted
  split at isInserted
  · cases isInserted
    rfl
  · cases isInserted

theorem afterAck_inside (named : MessageKey) (next : AfterAck) :
    Inside world (afterAck world named next) := by
  unfold afterAck
  cases next with
  | finish => exact Inside.finish
  | close => exact Inside.goTo nofun
  | outcome state reason =>
      dsimp only
      split
      · exact Inside.finish
      · exact Inside.goTo nofun
  | replyView => exact Inside.goTo nofun

theorem rejectItem_inside (item : InboxItem) (reason : String) :
    Inside world (rejectItem world item reason) := by
  unfold rejectItem
  dsimp only
  split
  · split
    next isInserted => exact Inside.write (outbound_insertRow isInserted) nofun
    · exact Inside.write rfl nofun
  · exact Inside.goTo nofun

theorem chooseNext_inside (tie : Nat) : Inside world (chooseNext world tie) := by
  rcases chooseNext_cases world tie with ⟨row, -, chosen⟩ | isDone | isPoll
  · rcases chosen with ⟨-, same⟩ | ⟨-, same⟩ | ⟨-, same⟩ | ⟨-, state, reason, same⟩
    · rw [same]
      exact Inside.goTo nofun
    · rw [same]
      exact Inside.goTo nofun
    · rw [same]
      exact Inside.goTo nofun
    · rw [same]
      exact Inside.goTo nofun
  · rw [isDone]
    exact Inside.finish
  · rw [isPoll]
    exact Inside.goTo nofun

theorem deliverReply_inside (row : Record) : Inside world (deliverReply digest world row) := by
  unfold deliverReply
  split
  · exact Inside.goTo nofun
  · split
    · exact Inside.goTo nofun
    · exact Inside.goTo nofun

theorem ackItem_inside (named : MessageKey) (next : AfterAck) :
    Inside world (ackItem world named next) := by
  unfold ackItem
  split
  · exact afterAck_inside named next
  · exact ⟨rfl, rfl, rfl, fun item polls => absurd polls (not_polls_goTo _ (by nofun) item)⟩

theorem callRunner_inside (aborted : Bool) (work : Work) :
    Inside world (callRunner world aborted work) := by
  unfold callRunner
  split
  · exact Inside.goTo nofun
  · split
    · split
      · exact Inside.goTo nofun
      · exact Inside.goTo nofun
    · dsimp only
      split
      · exact ⟨rfl, rfl, rfl, fun item polls => absurd polls (not_polls_goTo _ (by nofun) item)⟩
      · exact ⟨rfl, rfl, rfl, fun item polls => absurd polls (not_polls_goTo _ (by nofun) item)⟩

theorem storeResult_inside (work : Work) (text : String) :
    Inside world (storeResult digest world work text) := by
  unfold storeResult
  dsimp only
  split
  · exact Inside.write rfl nofun
  · exact Inside.write rfl nofun

theorem dropTurn_inside (work : Work) : Inside world (dropTurn world work) := by
  unfold dropTurn
  dsimp only
  split
  · exact Inside.writeLast rfl
  · exact Inside.writeLast rfl

/-- Every effect of a step, but for the two on the outbound requests. -/
theorem advance_inside (tie : Nat)
    (notSweep : world.flight.map Flight.point ≠ some .sweepOutbound)
    (notClose : ∀ item requestId inReplyTo, world.flight.map Flight.point ≠
      some (.closeOutbound item requestId inReplyTo)) :
    Inside world (advance digest world tie) := by
  unfold advance
  split
  · exact Inside.refl world
  next flight isFlight =>
    rw [isFlight, Option.map_some] at notSweep
    simp only [isFlight, Option.map_some] at notClose
    generalize flight.point = point at notSweep notClose
    cases point with
    | retention => exact Inside.write rfl nofun
    | sweepOutbound => exact absurd rfl notSweep
    | choose => exact chooseNext_inside tie
    | resume named =>
        dsimp only
        split
        · exact Inside.writeLast rfl
        · exact Inside.write rfl nofun
    | rerun | close | hold => exact Inside.write rfl nofun
    | deliver row => exact deliverReply_inside row
    | failReply | markAdmitted => exact Inside.write rfl nofun
    | admitted named => exact Inside.goTo nofun
    | ack named next => exact ackItem_inside named next
    | markAcked named next =>
        obtain ⟨inbox, arrived, outbound, polled⟩ :=
          @afterAck_inside (world.write (world.journal.updateRow named fun row =>
            { row with inputAcked := true, updatedAt := world.clock })) named next
        exact ⟨inbox, arrived, outbound, polled⟩
    | stampTerminal named => exact Inside.writeLast rfl
    | outcome row state reason =>
        dsimp only
        split
        · exact Inside.goTo nofun
        · exact Inside.goTo nofun
    | markOutcome named => exact Inside.writeLast rfl
    | reject item reason => exact rejectItem_inside item reason
    | closeOutbound item requestId inReplyTo => exact absurd rfl (notClose item requestId inReplyTo)
    | storeReply | insertExecuting =>
        dsimp only
        split
        · exact Inside.finish
        next isInserted => exact Inside.write (outbound_insertRow isInserted) nofun
    | replyAcked => exact Inside.finish
    | executing work => exact callRunner_inside flight.aborted work
    | notStarted work => exact dropTurn_inside work
    | storeResult work text => exact storeResult_inside work text
    | resultStored named =>
        dsimp only
        split
        · exact Inside.finish
        · exact Inside.goTo nofun
    | sending | checking | acking | sendingOutcome | polling | running => exact Inside.refl world

theorem handleItem_inside (item : InboxItem) : Inside world (handleItem digest world item) := by
  have rejected : ∀ reason, Inside world (world.goTo (.reject item reason)) :=
    fun reason => Inside.goTo nofun
  have correlated : ∀ requestId inReplyTo next,
      (∀ other, next ≠ .polling (some (some other))) →
      Inside world (handleItem.correlate world item requestId inReplyTo next) := by
    intro requestId inReplyTo next notPolled
    unfold handleItem.correlate
    split
    · exact rejected _
    split
    · exact rejected _
    split
    · exact rejected _
    · exact Inside.goTo notPolled
  unfold handleItem
  dsimp only
  generalize (if (isEndpoint item.fromEndpointId && isIdentifier item.messageId) = true then
    world.journal.getRow item.key else none) = row
  split
  · exact Inside.goTo nofun
  split
  · exact Inside.goTo nofun
  split
  · exact rejected _
  split
  · exact rejected _
  split
  · exact rejected _
  split
  · exact rejected _
  split
  · exact rejected _
  split
  · exact rejected _
  split
  · exact rejected _
  split
  · exact Inside.goTo nofun
  · exact correlated _ _ _ nofun
  · exact correlated _ _ _ nofun

theorem takeAnswer_inside (answer : IpcAnswer) : Inside world (takeAnswer digest world answer) := by
  have sent : ∀ aborted row error, Inside world (afterSend world aborted row error) := by
    intro aborted row error
    unfold afterSend
    split
    · exact Inside.finish
    · split
      · exact Inside.finish
      · split
        · exact Inside.goTo nofun
        · exact Inside.goTo nofun
  have checked : ∀ row status, Inside world (afterStatus digest world row status) := by
    intro row status
    unfold afterStatus
    split
    · exact Inside.goTo nofun
    · split
      · exact Inside.goTo nofun
      · split
        · exact Inside.goTo nofun
        · split
          · exact Inside.goTo nofun
          · exact Inside.goTo nofun
  unfold takeAnswer
  split
  · exact Inside.refl world
  next flight isFlight =>
    split
    · exact sent _ _ _
    · exact sent _ _ _
    · exact Inside.finish
    · exact checked _ _
    · exact Inside.finish
    · exact Inside.finish
    · exact Inside.goTo nofun
    · split
      · exact Inside.finish
      · exact Inside.goTo nofun
    · exact Inside.goTo nofun
    · exact Inside.finish
    · exact Inside.finish
    · exact handleItem_inside _
    · exact Inside.refl world

theorem afterRunner_inside (aborted : Bool) (work : Work) (started : Bool)
    (outcome : RunnerOutcome) : Inside world (afterRunner world aborted work started outcome) := by
  have failed : ∀ reason, Inside world (afterRunner.failed world work started reason) := by
    intro reason
    unfold afterRunner.failed
    split
    · exact Inside.goTo nofun
    · exact Inside.goTo nofun
  unfold afterRunner
  split
  · split
    · exact failed _
    · split
      · exact failed _
      · exact Inside.goTo nofun
  · exact failed _

/-- Steps of the engine. -/
def DrainLabel.isEngine : DrainLabel → Bool
  | .engineLists _ | .engineAcks _ | .enginePolls => true
  | _ => false

/-- A change leaves the engine's inbox alone and brings no item. -/
structure KeepsInbox (before after : DrainWorld) : Prop where
  inbox : after.inbox = before.inbox
  arrived : after.arrived = before.arrived
  polled : ∀ item, after.Polls item → before.Polls item

theorem Inside.keepsInbox {after : DrainWorld} (inside : Inside world after) :
    KeepsInbox world after :=
  ⟨inside.inbox, inside.arrived, inside.polled⟩

theorem advance_keepsInbox (tie : Nat) : KeepsInbox world (advance digest world tie) := by
  cases isFlight : world.flight with
  | none =>
      have stays : advance digest world tie = world := by
        unfold advance
        rw [isFlight]
      rw [stays]
      exact (Inside.refl world).keepsInbox
  | some flight =>
      by_cases isSweep : flight.point = .sweepOutbound
      · unfold advance
        rw [isFlight]
        dsimp only
        rw [isSweep]
        exact ⟨rfl, rfl, fun item polls => absurd polls (not_polls_goTo _ (by nofun) item)⟩
      · by_cases isClose : ∃ item requestId inReplyTo,
          flight.point = .closeOutbound item requestId inReplyTo
        · obtain ⟨item, requestId, inReplyTo, isClose⟩ := isClose
          unfold advance
          rw [isFlight]
          dsimp only
          rw [isClose]
          exact ⟨rfl, rfl, fun item polls => absurd polls (not_polls_goTo _ (by nofun) item)⟩
        · refine (advance_inside tie ?_ fun item requestId inReplyTo same => ?_).keepsInbox
          · simpa [isFlight] using isSweep
          · rw [isFlight, Option.map_some] at same
            exact isClose ⟨item, requestId, inReplyTo, Option.some.inj same⟩

/-- What is not a step of the engine leaves its inbox alone. -/
theorem drainStep_keepsInbox {label : DrainLabel} (notEngine : label.isEngine = false) :
    KeepsInbox world (drainStep digest world label) := by
  have stays : KeepsInbox world world := (Inside.refl world).keepsInbox
  cases label with
  | step aborted =>
      simp only [drainStep]
      split
      · exact stays
      · refine ⟨rfl, rfl, ?_⟩
        rintro item ⟨aborted, isFlight⟩
        cases isFlight
  | advance tie => exact advance_keepsInbox tie
  | abort =>
      refine ⟨rfl, rfl, ?_⟩
      rintro item ⟨aborted, isFlight⟩
      obtain ⟨before, wasFlight, same⟩ := Option.map_eq_some_iff.mp isFlight
      refine ⟨before.aborted, ?_⟩
      rw [wasFlight]
      have samePoint : before.point = .polling (some (some item)) := congrArg Flight.point same
      rw [← samePoint]
  | answer answer => exact (takeAnswer_inside answer).keepsInbox
  | runnerStarts =>
      simp only [drainStep]
      split
      · exact ⟨rfl, rfl, fun item polls => absurd polls (not_polls_goTo _ (by rintro _ ⟨⟩) item)⟩
      · exact stays
  | runnerEnds outcome =>
      simp only [drainStep]
      split
      · exact (afterRunner_inside _ _ _ outcome).keepsInbox
      · exact stays
  | runnerSettles named => exact ⟨rfl, rfl, fun _ polls => polls⟩
  | resolve call =>
      simp only [drainStep, takeResolve]
      split
      · split
        · exact stays
        · exact ⟨rfl, rfl, fun _ polls => polls⟩
      · exact stays
  | consumeReply named =>
      simp only [drainStep]
      split
      · split
        · exact stays
        · exact ⟨rfl, rfl, fun _ polls => polls⟩
      · exact stays
  | writeOutbound | setClock => exact ⟨rfl, rfl, fun _ polls => polls⟩
  | restart routes signalsStart =>
      refine ⟨rfl, rfl, ?_⟩
      rintro item ⟨aborted, isFlight⟩
      cases isFlight
  | engineLists | engineAcks | enginePolls => cases notEngine

end

end Triangle.PeerDrain
