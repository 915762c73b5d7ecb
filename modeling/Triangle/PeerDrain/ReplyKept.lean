import Triangle.PeerDrain.ReplyStored

/-!
# A correlated reply is not lost

From the first poll of a reply to an open request on, the reply is either still
listed and its request open, or stored for the application. This holds as long
as the service does not stop between the statement that closes the request and
the one that stores the reply.
-/

namespace Triangle.PeerDrain

open Triangle.Std
open Triangle.Semantics (Machine)

/-- Where the step in flight is with a reply that is not stored. -/
def ReplyTurn (item : InboxItem) (requestId inReplyTo : String) (world : DrainWorld) : Prop :=
  world.IsElsewhere item.key ∧ Correlates world item requestId inReplyTo ∨
    (∃ aborted, world.flight = some ⟨aborted, .closeOutbound item requestId inReplyTo⟩) ∧
      Correlates world item requestId inReplyTo ∨
    ∃ aborted, world.flight = some ⟨aborted, .storeReply item requestId inReplyTo⟩

/-- The engine lists one item of the message, and only it can be polled. -/
structure ListedOnce (item : InboxItem) (world : DrainWorld) : Prop where
  listed : item ∈ world.inbox
  single : ∀ other ∈ world.inbox, other.key = item.key → other = item
  arrived : item.key ∈ world.arrived
  polled : ∀ other, world.Polls other → other.key = item.key → other = item

/-- The reply is listed, has no record yet, and its request is open or being closed
for it. -/
structure AwaitedReply (item : InboxItem) (requestId inReplyTo : String) (world : DrainWorld) :
    Prop where
  row : world.journal.getRow item.key = none
  unacked : item.key ∉ world.acksSent
  listing : ListedOnce item world
  turn : ReplyTurn item requestId inReplyTo world

section

variable {world after : DrainWorld} {digest : String → String} {item : InboxItem}
  {requestId inReplyTo : String}

/-! ## A reply that is not stored yet -/

/-- An item without record of which no ack was asked stays listed. -/
theorem ListedOnce.step (listing : ListedOnce item world)
    (free : world.journal.getRow item.key = none) (unacked : item.key ∉ world.acksSent)
    (label : DrainLabel) : ListedOnce item (drainStep digest world label) := by
  by_cases isEngine : label.isEngine = true
  · cases label with
    | engineLists other =>
        simp only [drainStep]
        split
        next mayList =>
          have different : other.key ≠ item.key := by
            intro isKey
            unfold DrainWorld.mayList at mayList
            rw [isKey, free] at mayList
            simp [listing.arrived] at mayList
          refine ⟨List.mem_append_left _ listing.listed, fun third member isKey => ?_,
            List.mem_cons_of_mem _ listing.arrived, listing.polled⟩
          rcases List.mem_append.mp member with before | isNew
          · exact listing.single third before isKey
          · rw [List.mem_singleton.mp isNew] at isKey
            exact absurd isKey different
        · exact listing
    | engineAcks named =>
        simp only [drainStep]
        split
        next isAsked =>
          have different : item.key ≠ named := by
            rintro rfl
            exact unacked isAsked
          refine ⟨List.mem_filter.mpr ⟨listing.listed, by simpa using different⟩, ?_,
            listing.arrived, listing.polled⟩
          intro other member
          exact listing.single other (List.mem_of_mem_filter member)
        · exact listing
    | enginePolls =>
        simp only [drainStep]
        split
        · refine ⟨listing.listed, listing.single, listing.arrived, ?_⟩
          rintro other ⟨flag, polls⟩ isKey
          unfold DrainWorld.goTo at polls
          obtain ⟨before, -, same⟩ := Option.map_eq_some_iff.mp polls
          have samePage := Point.polling.inj (congrArg Flight.point same)
          exact listing.single other (List.mem_of_mem_head? (Option.some.inj samePage)) isKey
        · exact listing
    | _ => cases isEngine
  · obtain ⟨inbox, arrived, polled⟩ := @drainStep_keepsInbox world digest label
      (Bool.eq_false_iff.mpr isEngine)
    refine ⟨?_, ?_, ?_, fun other polls isKey => listing.polled other (polled other polls) isKey⟩
    · rw [inbox]
      exact listing.listed
    · rw [inbox]
      exact listing.single
    · rw [arrived]
      exact listing.arrived

theorem Correlates.same (correlates : Correlates world item requestId inReplyTo)
    (outbound : after.journal.outbound.find? inReplyTo = world.journal.outbound.find? inReplyTo) :
    Correlates after item requestId inReplyTo := by
  unfold Correlates
  rw [outbound]
  exact correlates

/-- Closing other requests leaves this one. -/
theorem find?_closeOther {outbound : Table Outbound.messageId} {named : String}
    {change : Outbound → Outbound}
    {keeps : ∀ row, decide (row.messageId = named) = true → (change row).messageId = row.messageId}
    (different : named ≠ inReplyTo) :
    (outbound.update (fun row => row.messageId = named) change keeps).find? inReplyTo =
      outbound.find? inReplyTo := by
  rw [Table.find?_update]
  cases found : outbound.find? inReplyTo with
  | none => rfl
  | some row =>
      have isRow := (Table.find?_some found).2
      rw [Option.map_some, isRow]
      simp [Ne.symm different]

theorem advance_correlates (correlates : Correlates world item requestId inReplyTo)
    (isElsewhere : world.IsElsewhere item.key) {tie : Nat}
    (noRival : NoRival item inReplyTo world (.advance tie)) :
    Correlates (advance digest world tie) item requestId inReplyTo := by
  cases isFlight : world.flight with
  | none =>
      simp only [advance, isFlight]
      exact correlates
  | some flight =>
      by_cases isSweep : flight.point = .sweepOutbound
      · simp only [advance, isFlight, isSweep]
        refine correlates.same ?_
        obtain ⟨row, found, -, -, isOpen⟩ := correlates
        change (world.journal.outbound.delete _).find? inReplyTo = _
        rw [Table.find?_delete, found, Option.filter_some]
        simp [isOpen]
      · by_cases isClose : ∃ other id named, flight.point = .closeOutbound other id named
        · obtain ⟨other, id, named, isClose⟩ := isClose
          have different : named ≠ inReplyTo := by
            rintro rfl
            have isItem := noRival flight other id isFlight isClose
            refine isElsewhere flight isFlight ?_
            rw [isClose, isItem]
            rfl
          simp only [advance, isFlight, isClose]
          refine correlates.same ?_
          apply find?_closeOther
          · exact fun _ _ => rfl
          · exact different
        · have inside := @advance_inside world digest tie (by simpa [isFlight] using isSweep) (by
            intro other id named same
            rw [isFlight, Option.map_some] at same
            exact isClose ⟨other, id, named, Option.some.inj same⟩)
          exact correlates.same (by rw [inside.outbound])

/-- An open request stays open, but for what closes it for its reply. -/
theorem Correlates.step (correlates : Correlates world item requestId inReplyTo)
    {label : DrainLabel} (isElsewhere : ∀ tie, label = .advance tie → world.IsElsewhere item.key)
    (noRival : NoRival item inReplyTo world label) :
    Correlates (drainStep digest world label) item requestId inReplyTo := by
  cases label with
  | step | runnerStarts =>
      simp only [drainStep]
      split
      · exact correlates
      · exact correlates
  | advance tie => exact advance_correlates correlates (isElsewhere tie rfl) noRival
  | answer answer =>
      have inside := @takeAnswer_inside world digest answer
      exact correlates.same (by rw [drainStep, inside.outbound])
  | runnerEnds outcome =>
      simp only [drainStep]
      split
      · exact correlates.same (by rw [(afterRunner_inside _ _ _ outcome).outbound])
      · exact correlates
  | engineLists | engineAcks | enginePolls =>
      simp only [drainStep]
      split
      · exact correlates
      · exact correlates
  | resolve call =>
      simp only [drainStep, takeResolve]
      split
      · split
        · exact correlates
        next resolved resolution result isResolved =>
          rcases (@resolvePeerRecord_cases item.key digest _ _ _ _ _ _ _ isResolved).1 with
            same | ⟨isClose, closed⟩
          · exact correlates.same (congrArg (Table.find? · inReplyTo) same)
          · refine correlates.same ?_
            change resolved.outbound.find? inReplyTo = _
            rw [closed]
            exact find?_closeOther fun named => noRival ⟨isClose, named⟩
      · exact correlates
  | consumeReply named =>
      simp only [drainStep]
      split
      · split
        · exact correlates
        next consumed isConsumed =>
          have same := (@consumeReply_row item.key _ _ _ _ isConsumed).1
          exact correlates.same (congrArg (Table.find? · inReplyTo) same)
      · exact correlates
  | writeOutbound outbound =>
      obtain ⟨row, found, isTo, isRequest, isOpen⟩ := correlates
      obtain ⟨next, isNext, sameTo, sameRequest, sameClosed⟩ := noRival row found
      exact ⟨next, isNext, sameTo.trans isTo, sameRequest.trans isRequest, sameClosed.trans isOpen⟩
  | abort | runnerSettles | setClock | restart => exact correlates

/-- A polled reply to an open request closes the request. -/
theorem handleItem_closes (isReply : IsReply digest item requestId inReplyTo)
    (free : world.journal.getRow item.key = none)
    (correlates : Correlates world item requestId inReplyTo)
    (hasRoute : world.hasRoute item.fromEndpointId = true)
    (fits : checkPayloadAndFrame digest (item.payload.getD "") item.messageId item.fromEndpointId
      world.clock = true) :
    handleItem digest world item = world.goTo (.closeOutbound item requestId inReplyTo) := by
  obtain ⟨isSender, isMessage, payload, text, isPayload, isHash, isEnvelope⟩ := isReply
  obtain ⟨row, found, isTo, isRequest, isOpen⟩ := correlates
  rw [isPayload, Option.getD_some] at fits
  unfold handleItem
  simp only [isSender, isMessage, free, isPayload, isHash, isEnvelope, hasRoute, fits, Bool.and_self,
    Bool.not_true, if_true, Option.any_none, Option.filter_none, ne_eq, not_true_eq_false, if_false,
    Bool.false_eq_true]
  unfold handleItem.correlate
  simp [found, isTo, isRequest, isOpen]

variable {label : DrainLabel}

/-- The step in flight is not about the reply. -/
theorem AwaitedReply.stepElsewhere (awaited : AwaitedReply item requestId inReplyTo world)
    (isReply : IsReply digest item requestId inReplyTo) (isElsewhere : world.IsElsewhere item.key)
    (correlates : Correlates world item requestId inReplyTo)
    (noRival : NoRival item inReplyTo world label)
    (notTorn : NotTorn digest item requestId inReplyTo world label) :
    AwaitedReply item requestId inReplyTo (drainStep digest world label) := by
  have listing := @ListedOnce.step world digest item awaited.listing awaited.row awaited.unacked label
  by_cases polled : label = .answer .page ∧ world.Polls item
  · obtain ⟨rfl, polls⟩ := polled
    obtain ⟨hasRoute, fits⟩ := notTorn polls
    obtain ⟨aborted, isFlight⟩ := polls
    have closes : drainStep digest world (.answer .page) =
        world.goTo (.closeOutbound item requestId inReplyTo) := by
      simp only [drainStep, takeAnswer, isFlight]
      exact handleItem_closes isReply awaited.row correlates hasRoute fits
    rw [closes] at listing ⊢
    refine ⟨awaited.row, awaited.unacked, listing, .inr (.inl ⟨⟨aborted, ?_⟩, correlates⟩)⟩
    unfold DrainWorld.goTo
    rw [isFlight]
    rfl
  · have notPolled : NotPolled item.key world label := by
      intro isPage other polls isKey
      exact polled ⟨isPage, awaited.listing.polled other polls isKey ▸ polls⟩
    have elsewhere := @drainStep_elsewhere_free world item.key digest awaited.row isElsewhere label
      notPolled
    exact ⟨elsewhere.row.trans awaited.row, elsewhere.acksSent.unacked awaited.unacked, listing,
      .inl ⟨elsewhere.flight, correlates.step (fun _ _ => isElsewhere) noRival⟩⟩

/-- What others leave of a step in flight that does not wait. -/
structure Unaided (flight : Flight) (before after : DrainWorld) : Prop where
  records : after.journal.records = before.journal.records
  acksSent : after.acksSent = before.acksSent
  point : after.flight.map Flight.point = some flight.point

/-- A step in flight that does not wait goes on only by its next effect, by an
abort or by a stop of the service. -/
theorem drainStep_unaided {flight : Flight} (isFlight : world.flight = some flight)
    (notWaiting : flight.point.waits = false) {label : DrainLabel}
    (notAdvance : ∀ tie, label ≠ .advance tie)
    (notRestart : ∀ routes signalsStart, label ≠ .restart routes signalsStart) :
    Unaided flight world (drainStep digest world label) := by
  have point : world.flight.map Flight.point = some flight.point := by
    rw [isFlight]
    rfl
  have stays : Unaided flight world world := ⟨rfl, rfl, point⟩
  have blocked : ¬ (world.flight.all fun flight => flight.point.waits) = true := by
    rw [isFlight, Option.all_some, notWaiting]
    exact nofun
  cases label with
  | step aborted =>
      have busy : (world.flight.isSome || aborted) = true := by
        rw [isFlight]
        rfl
      simp only [drainStep, busy, if_true]
      exact stays
  | advance tie => exact absurd rfl (notAdvance tie)
  | restart routes signalsStart => exact absurd rfl (notRestart routes signalsStart)
  | abort =>
      refine ⟨rfl, rfl, ?_⟩
      simp [drainStep, isFlight]
  | answer answer =>
      have unanswered : takeAnswer digest world answer = world := by
        unfold takeAnswer
        rw [isFlight]
        dsimp only
        generalize flight.point = point at notWaiting
        cases point <;> first | rfl | cases notWaiting
      simp only [drainStep, unanswered]
      exact stays
  | runnerStarts =>
      simp only [drainStep]
      split
      next started =>
        cases isFlight.symm.trans started
        cases notWaiting
      · exact stays
  | runnerEnds outcome =>
      simp only [drainStep]
      split
      next running =>
        cases isFlight.symm.trans running
        cases notWaiting
      · exact stays
  | runnerSettles named => exact ⟨rfl, rfl, point⟩
  | engineLists | engineAcks =>
      simp only [drainStep]
      split
      · exact ⟨rfl, rfl, point⟩
      · exact stays
  | enginePolls =>
      simp only [drainStep]
      split
      next polling =>
        cases isFlight.symm.trans polling
        cases notWaiting
      · exact stays
  | resolve call =>
      simp only [drainStep, takeResolve, blocked]
      exact stays
  | consumeReply named =>
      simp only [drainStep, blocked]
      exact stays
  | writeOutbound | setClock => exact ⟨rfl, rfl, point⟩

theorem flight_of_point {flight : Option Flight} {point : Point}
    (isPoint : flight.map Flight.point = some point) : ∃ aborted, flight = some ⟨aborted, point⟩ := by
  obtain ⟨before, rfl, rfl⟩ := Option.map_eq_some_iff.mp isPoint
  exact ⟨before.aborted, rfl⟩

section

variable (awaited : AwaitedReply item requestId inReplyTo world)
include awaited

/-- Nothing but the next effect or a stop moves a step between the two statements. -/
theorem AwaitedReply.stepUnaided {flight : Flight} (isFlight : world.flight = some flight)
    (notWaiting : flight.point.waits = false) (notAdvance : ∀ tie, label ≠ .advance tie)
    (notRestart : ∀ routes signalsStart, label ≠ .restart routes signalsStart)
    (turn : (∃ aborted, (drainStep digest world label).flight = some ⟨aborted, flight.point⟩) →
      ReplyTurn item requestId inReplyTo (drainStep digest world label)) :
    AwaitedReply item requestId inReplyTo (drainStep digest world label) := by
  have listing := @ListedOnce.step world digest item awaited.listing awaited.row awaited.unacked label
  obtain ⟨records, acksSent, point⟩ := @drainStep_unaided world digest flight isFlight notWaiting
    label notAdvance notRestart
  refine ⟨?_, ?_, listing, turn (flight_of_point point)⟩
  · unfold DrainJournal.getRow
    rw [records]
    exact awaited.row
  · rw [acksSent]
    exact awaited.unacked

theorem restart_awaited (correlates : Correlates world item requestId inReplyTo)
    (routes : List (String × Route)) (signalsStart : Bool) :
    AwaitedReply item requestId inReplyTo (drainStep digest world (.restart routes signalsStart)) := by
  have listing := @ListedOnce.step world digest item awaited.listing awaited.row awaited.unacked
    (.restart routes signalsStart)
  refine ⟨?_, awaited.unacked, listing, .inl ⟨fun _ isFlight => (nomatch isFlight), correlates⟩⟩
  change (world.journal.updateWhere _ _).getRow item.key = none
  rw [DrainJournal.getRow_updateWhere, awaited.row]
  rfl

end

/-- An awaited reply stays awaited until it is stored. -/
theorem AwaitedReply.step (awaited : AwaitedReply item requestId inReplyTo world)
    (isReply : IsReply digest item requestId inReplyTo) {label : DrainLabel}
    (noRival : NoRival item inReplyTo world label)
    (notTorn : NotTorn digest item requestId inReplyTo world label) :
    AwaitedReply item requestId inReplyTo (drainStep digest world label) ∨
      StoredReply item requestId inReplyTo (drainStep digest world label) := by
  have listing := @ListedOnce.step world digest item awaited.listing awaited.row awaited.unacked label
  rcases awaited.turn with ⟨isElsewhere, correlates⟩ | ⟨⟨aborted, isFlight⟩, correlates⟩ |
    ⟨aborted, isFlight⟩
  · exact .inl (awaited.stepElsewhere isReply isElsewhere correlates noRival notTorn)
  · left
    cases label with
    | advance tie =>
        simp only [drainStep, advance, isFlight] at listing ⊢
        refine ⟨awaited.row, awaited.unacked, listing, .inr (.inr ⟨aborted, ?_⟩)⟩
        simp [DrainWorld.goTo, DrainWorld.write, isFlight]
    | restart routes signalsStart => exact restart_awaited awaited correlates routes signalsStart
    | _ =>
        exact awaited.stepUnaided isFlight rfl (by rintro _ ⟨⟩) (by rintro _ _ ⟨⟩) fun moved =>
          .inr (.inl ⟨moved, correlates.step (by rintro _ ⟨⟩) noRival⟩)
  · cases label with
    | advance tie =>
        right
        have free : world.journal.getRow (replyRow item requestId inReplyTo world.clock).key = none :=
          awaited.row
        obtain ⟨inserted, isInserted⟩ := insertRow_free free
        simp only [drainStep, advance, isFlight, isInserted]
        have holds : HoldsReply item requestId inReplyTo
            (replyRow item requestId inReplyTo world.clock) := ⟨rfl, rfl, rfl, rfl, rfl, rfl⟩
        refine StoredReply.keeps ?_ holds (.inr ⟨rfl, .inr rfl⟩)
        rw [(getRow_insertRow isInserted).2]
        exact if_pos rfl
    | restart routes signalsStart => exact absurd rfl (notTorn _ isFlight)
    | _ =>
        left
        exact awaited.stepUnaided isFlight rfl (by rintro _ ⟨⟩) (by rintro _ _ ⟨⟩) fun moved =>
          .inr (.inr moved)

/-! ## Every run -/

/-- The first poll of a listed reply to an open request. -/
theorem Unseen.awaited (unseen : Unseen item.key world) (polls : world.Polls item)
    (correlates : Correlates world item requestId inReplyTo) :
    AwaitedReply item requestId inReplyTo world := by
  have isListed := unseen.polled item polls rfl
  refine ⟨unseen.row, unseen.unacked, ⟨isListed, ?_, unseen.arrived item isListed rfl, ?_⟩,
    .inl ⟨unseen.elsewhere, correlates⟩⟩
  · intro other member isKey
    exact unseen.single other member item isListed isKey rfl
  · intro other otherPolls isKey
    exact unseen.single other (unseen.polled other otherPolls isKey) item isListed isKey rfl

theorem HoldsReply.isPendingReply {row : Record} (holds : HoldsReply item requestId inReplyTo row)
    {query : RepliesQuery} (sameReply : query.inReplyTo.all (· = inReplyTo) = true)
    (sameRequest : query.requestId.all (· = requestId) = true) :
    row.isPendingReply query = true := by
  unfold Record.isPendingReply
  rw [holds.phase, holds.unconsumed, holds.inReplyTo, holds.requestId]
  have isReply : query.inReplyTo.all (fun id => some inReplyTo = some id) = true := by
    cases isQuery : query.inReplyTo with
    | none => rfl
    | some id =>
        rw [isQuery] at sameReply
        simp only [Option.all_some, decide_eq_true_eq] at sameReply
        simp [sameReply]
  have isRequest : query.requestId.all (fun id => some requestId = some id) = true := by
    cases isQuery : query.requestId with
    | none => rfl
    | some id =>
        rw [isQuery] at sameRequest
        simp only [Option.all_some, decide_eq_true_eq] at sameRequest
        simp [sameRequest]
  rw [isReply, isRequest]
  rfl

end

/-- A well-formed reply whose request is open when the reply is polled first is
stored for the application by the time its item leaves the inbox, whatever
fails or stops, unless the service stops between the two statements or rejects
the sender or the frame. -/
theorem correlated_reply_kept (digest : String → String) (before after : List DrainLabel)
    (item : InboxItem) (requestId inReplyTo : String)
    (first : (drainMachine digest).Along (NotPolled item.key) (drainMachine digest).initial before)
    (polls : ((drainMachine digest).run before).Polls item)
    (isReply : IsReply digest item requestId inReplyTo)
    (isOpen : Correlates ((drainMachine digest).run before) item requestId inReplyTo)
    (undisturbed : (drainMachine digest).Along
      (fun world label => NoRival item inReplyTo world label ∧
        NotTorn digest item requestId inReplyTo world label)
      ((drainMachine digest).run before) after)
    (left : ¬ ((drainMachine digest).run (before ++ after)).Lists item.key) :
    ∃ row, ((drainMachine digest).run (before ++ after)).journal.getRow item.key = some row ∧
      row.phase = .replyReceived ∧ row.applicationConsumed = false ∧
      ∀ query : RepliesQuery, 1 ≤ query.limit ∧ query.limit ≤ 1000 →
        query.inReplyTo.all (· = inReplyTo) = true → query.requestId.all (· = requestId) = true →
        row ∈ readReplies ((drainMachine digest).run (before ++ after)).journal query
          ((drainMachine digest).run (before ++ after)).journal.records.rows.length none := by
  have unseen : Unseen item.key ((drainMachine digest).run before) :=
    @Machine.Along.invariant _ _ _ _ (Unseen item.key)
      (fun _ _ notPolled unseen => Unseen.step unseen notPolled) _ (unseen_initial digest item.key)
      _ first
  have kept : AwaitedReply item requestId inReplyTo ((drainMachine digest).run (before ++ after)) ∨
      StoredReply item requestId inReplyTo ((drainMachine digest).run (before ++ after)) := by
    have step : ∀ world label, NoRival item inReplyTo world label ∧
        NotTorn digest item requestId inReplyTo world label →
        AwaitedReply item requestId inReplyTo world ∨ StoredReply item requestId inReplyTo world →
        AwaitedReply item requestId inReplyTo ((drainMachine digest).step world label) ∨
          StoredReply item requestId inReplyTo ((drainMachine digest).step world label) := by
      rintro world label ⟨noRival, notTorn⟩ (awaited | stored)
      · exact awaited.step isReply noRival notTorn
      · exact .inr (stored.step isReply noRival)
    rw [Machine.run, Machine.runFrom_append]
    exact Machine.Along.invariant step (.inl (unseen.awaited polls isOpen)) undisturbed
  rcases kept with awaited | stored
  · exact absurd ⟨item, awaited.listing.listed, rfl⟩ left
  · obtain ⟨row, isRow, holds⟩ := stored.row
    refine ⟨row, isRow, holds.phase, holds.unconsumed, fun query isLimit sameReply sameRequest => ?_⟩
    exact mem_readReplies isLimit (by rw [holds.key]; exact isRow)
      (holds.isPendingReply sameReply sameRequest)

/-! ## Runs -/

def replyPeer : String :=
  "cccccccccccccccccccccccccccccccccccccccccccccccccccccccccccccccc"

def replyText : String :=
  Json.text (.obj [("protocol", .str "triangle.peer/1"), ("kind", .str "reply"),
    ("request_id", .str "r-1"), ("in_reply_to", .str "m-0"), ("text", .str "ok")])

/-- The SHA-256 of the reply, the only text that the runs hash. -/
def replyDigest : String → String :=
  fun _ => "2504a3192555ac30821cf4720dbdc4aab8ca7dafcf9af98d4d4d5bec62376750"

def replyItem : InboxItem :=
  ⟨replyPeer, "m-1", some replyText, some (replyDigest replyText)⟩

/-- The request that the reply answers. -/
def openRequest : Outbound where
  messageId := "m-0"
  toEndpointId := replyPeer
  requestId := "r-1"
  payloadHash := "ac8c273ea302affaccfee562d669ba9509e4573623beb7a9c164706a78fa6fb5"
  state := "settled"
  createdAt := 0
  updatedAt := 0
  terminalAt := none
  closedAt := none
  closeReason := none

def startDrain : DrainLabel :=
  .restart [(replyPeer, ⟨replyPeer, []⟩)] false

/-- A step up to its poll. -/
def pollItem : List DrainLabel :=
  [.step false, .advance 0, .advance 0, .advance 0, .enginePolls]

/-- A request was sent, its reply is listed and polled. -/
def replyPolled : List DrainLabel :=
  [startDrain, .writeOutbound (Table.empty.upsert openRequest), .engineLists replyItem] ++ pollItem

/-- The reply is stored, acked and consumed by the engine. -/
def replyStored : List DrainLabel :=
  [.answer .page, .advance 0, .advance 0, .advance 0, .engineAcks replyItem.key]

/-- The service stops when it has closed the request. It polls the reply again,
rejects it and acks it. -/
def replyTorn : List DrainLabel :=
  [.answer .page, .advance 0, startDrain] ++ pollItem ++
    [.answer .page, .advance 0, .advance 0, .engineAcks replyItem.key]

/-- A test for `NotPolled`. -/
def isNotPolled (key : MessageKey) (world : DrainWorld) (label : DrainLabel) : Bool :=
  match label, world.flight with
  | .answer .page, some ⟨_, .polling (some (some item))⟩ => item.key ≠ key
  | _, _ => true

/-- A test for `NoRival` when requests are written before they are answered. -/
def isNoRival (item : InboxItem) (inReplyTo : String) (world : DrainWorld) : DrainLabel → Bool
  | .advance _ =>
      match world.flight with
      | some ⟨_, .closeOutbound other _ named⟩ => named ≠ inReplyTo || other = item
      | _ => true
  | .resolve call => call.action ≠ "close_outbound" || call.messageId ≠ inReplyTo
  | .writeOutbound _ => (world.journal.outbound.find? inReplyTo).isNone
  | .consumeReply named => named ≠ item.key
  | _ => true

/-- A test for `NotTorn`. -/
def isNotTorn (digest : String → String) (item : InboxItem) (requestId inReplyTo : String)
    (world : DrainWorld) : DrainLabel → Bool
  | .restart _ _ => world.flight.all fun flight => flight.point ≠ .storeReply item requestId inReplyTo
  | .answer _ => world.hasRoute item.fromEndpointId &&
      checkPayloadAndFrame digest (item.payload.getD "") item.messageId item.fromEndpointId
        world.clock
  | _ => true

variable {world : DrainWorld} {label : DrainLabel} {item : InboxItem}

theorem notPolled_of_test {key : MessageKey} (passes : isNotPolled key world label = true) :
    NotPolled key world label := by
  rintro rfl item ⟨aborted, isFlight⟩
  unfold isNotPolled at passes
  rw [isFlight] at passes
  exact of_decide_eq_true passes

theorem noRival_of_test {inReplyTo : String}
    (passes : isNoRival item inReplyTo world label = true) :
    NoRival item inReplyTo world label := by
  cases label with
  | advance tie =>
      rintro ⟨aborted, point⟩ other requestId isFlight rfl
      unfold isNoRival at passes
      simpa [isFlight] using passes
  | resolve call =>
      rintro ⟨isClose, isNamed⟩
      simp [isNoRival, isClose, isNamed] at passes
  | writeOutbound outbound =>
      intro row found
      simp [isNoRival, found] at passes
  | consumeReply named => simpa [isNoRival, NoRival] using passes
  | _ => trivial

theorem notTorn_of_test {digest : String → String} {requestId inReplyTo : String}
    (passes : isNotTorn digest item requestId inReplyTo world label = true) :
    NotTorn digest item requestId inReplyTo world label := by
  cases label with
  | restart routes signalsStart =>
      intro flight isFlight
      simpa [isNotTorn, isFlight] using passes
  | answer answer =>
      intro _
      simpa [isNotTorn] using passes
  | _ => trivial

/-- What the runs have in common: the first poll of a reply to an open request. -/
theorem replyPolled_first :
    (drainMachine replyDigest).Along (NotPolled replyItem.key) (drainMachine replyDigest).initial
        replyPolled ∧
      ((drainMachine replyDigest).run replyPolled).Polls replyItem ∧
      IsReply replyDigest replyItem "r-1" "m-0" ∧
      Correlates ((drainMachine replyDigest).run replyPolled) replyItem "r-1" "m-0" := by
  have evaluated : (drainMachine replyDigest).Along
        (fun world label => isNotPolled replyItem.key world label = true)
        (drainMachine replyDigest).initial replyPolled ∧
      ((drainMachine replyDigest).run replyPolled).flight =
        some ⟨false, .polling (some (some replyItem))⟩ ∧
      ((drainMachine replyDigest).run replyPolled).journal.outbound.find? "m-0" =
        some openRequest ∧
      parsePeerEnvelope replyText = .ok (.reply "r-1" "m-0" "ok") ∧
      isEndpoint replyPeer = true ∧ isIdentifier "m-1" = true := by
    decide +kernel
  obtain ⟨first, polls, found, isEnvelope, isSender, isMessage⟩ := evaluated
  exact ⟨first.mono fun _ _ passes => notPolled_of_test passes, ⟨false, polls⟩,
    ⟨isSender, isMessage, replyText, "ok", rfl, rfl, isEnvelope⟩, openRequest, found, rfl, rfl, rfl⟩

theorem correlated_reply_kept_stored :
    ∃ row, ((drainMachine replyDigest).run (replyPolled ++ replyStored)).journal.getRow replyItem.key =
        some row ∧ row.phase = .replyReceived ∧ row.applicationConsumed = false ∧
      ∀ query : RepliesQuery, 1 ≤ query.limit ∧ query.limit ≤ 1000 →
        query.inReplyTo.all (· = "m-0") = true → query.requestId.all (· = "r-1") = true →
        row ∈ readReplies ((drainMachine replyDigest).run (replyPolled ++ replyStored)).journal query
          ((drainMachine replyDigest).run (replyPolled ++ replyStored)).journal.records.rows.length
          none := by
  obtain ⟨first, polls, isReply, isOpen⟩ := replyPolled_first
  have evaluated : (drainMachine replyDigest).Along
        (fun world label => (isNoRival replyItem "m-0" world label &&
          isNotTorn replyDigest replyItem "r-1" "m-0" world label) = true)
        ((drainMachine replyDigest).run replyPolled) replyStored ∧
      ((drainMachine replyDigest).run (replyPolled ++ replyStored)).inbox = [] := by
    decide +kernel
  obtain ⟨undisturbed, left⟩ := evaluated
  refine correlated_reply_kept replyDigest replyPolled replyStored replyItem "r-1" "m-0" first polls
    isReply isOpen (undisturbed.mono fun _ _ passes => ?_) ?_
  · obtain ⟨noRival, notTorn⟩ := Bool.and_eq_true _ _ |>.mp passes
    exact ⟨noRival_of_test noRival, notTorn_of_test notTorn⟩
  · rintro ⟨item, member, -⟩
    rw [left] at member
    cases member

/-- A service that stops between the two statements rejects the reply when it
polls it again. -/
theorem reply_lost_between_statements :
    ¬ ∀ (before after : List DrainLabel) (item : InboxItem) (requestId inReplyTo : String),
      (drainMachine replyDigest).Along (NotPolled item.key) (drainMachine replyDigest).initial
        before →
      ((drainMachine replyDigest).run before).Polls item →
      IsReply replyDigest item requestId inReplyTo →
      Correlates ((drainMachine replyDigest).run before) item requestId inReplyTo →
      (drainMachine replyDigest).Along (NoRival item inReplyTo) ((drainMachine replyDigest).run before)
        after →
      ¬ ((drainMachine replyDigest).run (before ++ after)).Lists item.key →
      ∃ row, ((drainMachine replyDigest).run (before ++ after)).journal.getRow item.key = some row ∧
        row.phase = .replyReceived := by
  intro kept
  obtain ⟨first, polls, isReply, isOpen⟩ := replyPolled_first
  have evaluated : (drainMachine replyDigest).Along
        (fun world label => isNoRival replyItem "m-0" world label = true)
        ((drainMachine replyDigest).run replyPolled) replyTorn ∧
      ((drainMachine replyDigest).run (replyPolled ++ replyTorn)).inbox = [] ∧
      ((drainMachine replyDigest).run (replyPolled ++ replyTorn)).journal.phase? replyItem.key =
        some .rejected := by
    decide +kernel
  obtain ⟨noRival, left, isRejected⟩ := evaluated
  obtain ⟨row, isRow, isReceived⟩ := kept replyPolled replyTorn replyItem "r-1" "m-0" first polls
    isReply isOpen (noRival.mono fun _ _ passes => noRival_of_test passes) (by
      rintro ⟨item, member, -⟩
      rw [left] at member
      cases member)
  rw [DrainJournal.phase?, isRow, Option.map_some, isReceived] at isRejected
  cases isRejected

end Triangle.PeerDrain
