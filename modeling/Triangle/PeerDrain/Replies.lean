import Mathlib.Data.Prod.Lex
import Mathlib.Data.String.Basic
import Triangle.PeerDrain.Surroundings
import Triangle.Std.Paging

/-!
# Received replies

`pendingReplies` and what the service does with a reply to a request of its own:
it closes the request, stores the reply and acks the item. The three are separate
statements and requests. A service that stops between the first two finds the
request closed when it polls the reply again, and rejects it.
-/

namespace Triangle.PeerDrain

open Triangle.Std

/-! ## The application's view -/

/-- `encodeReplyCursor`: the place of a reply in arrival order. -/
abbrev ReplyCursor := ℕ ×ₗ String ×ₗ String

def Record.cursor (row : Record) : ReplyCursor :=
  toLex (row.createdAt, toLex (row.sender, row.messageId))

/-- The arguments of `pendingReplies`. -/
structure RepliesQuery where
  inReplyTo : Option String := none
  requestId : Option String := none
  limit : Nat := 200
  after : Option ReplyCursor := none

def Record.isPendingReply (query : RepliesQuery) (row : Record) : Bool :=
  row.phase = .replyReceived && !row.applicationConsumed &&
    query.inReplyTo.all (fun inReplyTo => row.inReplyTo = some inReplyTo) &&
    query.requestId.all (fun requestId => row.requestId = some requestId)

/-- `pendingReplies`. -/
def pendingReplies (journal : DrainJournal) (query : RepliesQuery) : Except String (List Record) :=
  if query.limit < 1 || 1000 < query.limit then .error "invalid_params"
  else
    .ok (Paging.page Record.cursor (journal.records.select (Record.isPendingReply query))
      query.limit query.after)

/-- An application that passes the last reply's cursor on to read the next page. -/
def readReplies (journal : DrainJournal) (query : RepliesQuery) :
    Nat → Option ReplyCursor → List Record
  | 0, _ => []
  | count + 1, after =>
      match pendingReplies journal { query with after } with
      | .error _ => []
      | .ok page =>
          match page.getLast? with
          | none => []
          | some last => page ++ readReplies journal query count (some last.cursor)

theorem readReplies_eq (journal : DrainJournal) {query : RepliesQuery}
    (isLimit : 1 ≤ query.limit ∧ query.limit ≤ 1000) (count : Nat) (after : Option ReplyCursor) :
    readReplies journal query count after =
      Paging.pages Record.cursor (journal.records.select (Record.isPendingReply query)) query.limit
        count after := by
  induction count generalizing after with
  | zero => rfl
  | succ count ih =>
      have isPage : pendingReplies journal { query with after } = .ok (Paging.page Record.cursor
          (journal.records.select (Record.isPendingReply query)) query.limit after) := by
        unfold pendingReplies
        have allowed : ¬ (query.limit < 1 || 1000 < query.limit) = true := by
          simp only [Bool.or_eq_true, decide_eq_true_eq]
          omega
        rw [if_neg allowed]
        rfl
      simp only [readReplies, Paging.pages, isPage]
      cases (Paging.page Record.cursor (journal.records.select (Record.isPendingReply query))
          query.limit after).getLast? with
      | none => rfl
      | some last => simp only [ih]

/-- Rows are different in their sender or message id, so a reader sees all of them. -/
theorem mem_readReplies {journal : DrainJournal} {query : RepliesQuery}
    (isLimit : 1 ≤ query.limit ∧ query.limit ≤ 1000) {row : Record}
    (isRow : journal.getRow row.key = some row) (isPending : row.isPendingReply query = true) :
    row ∈ readReplies journal query journal.records.rows.length none := by
  rw [readReplies_eq journal isLimit]
  have member : row ∈ journal.records.select (Record.isPendingReply query) :=
    Table.mem_select.mpr ⟨isRow, isPending⟩
  have same : Paging.rowsAfter Record.cursor
      (journal.records.select (Record.isPendingReply query)) none =
      journal.records.select (Record.isPendingReply query) := by
    unfold Paging.rowsAfter
    simp
  refine Paging.mem_pages (fun first isFirst second isSecond sameCursor => ?_) (by omega) _ ?_ ?_
  · have sameKey : first.key = second.key := by
      have sameNames := congrArg (fun cursor => ofLex (ofLex cursor).2) sameCursor
      exact sameNames
    obtain ⟨isFirst, -⟩ := Table.mem_select.mp isFirst
    obtain ⟨isSecond, -⟩ := Table.mem_select.mp isSecond
    rw [sameKey] at isFirst
    exact Option.mem_unique isFirst isSecond
  · rw [same]
    exact List.length_filter_le _ _
  · rw [same]
    exact member

/-! ## A reply and its request -/

/-- The item is a well-formed reply. -/
def IsReply (digest : String → String) (item : InboxItem) (requestId inReplyTo : String) : Prop :=
  isEndpoint item.fromEndpointId = true ∧ isIdentifier item.messageId = true ∧
    ∃ payload text, item.payload = some payload ∧ item.payloadHash = some (digest payload) ∧
      parsePeerEnvelope payload = .ok (.reply requestId inReplyTo text)

/-- The item answers a request to its sender that is still open. -/
def Correlates (world : DrainWorld) (item : InboxItem) (requestId inReplyTo : String) : Prop :=
  ∃ row, world.journal.outbound.find? inReplyTo = some row ∧
    row.toEndpointId = item.fromEndpointId ∧ row.requestId = requestId ∧ row.closedAt = none

/-- The page of a poll that brings an item of a message for the first time. -/
def NotPolled (key : MessageKey) (world : DrainWorld) (label : DrainLabel) : Prop :=
  label = .answer .page → ∀ item, world.Polls item → item.key ≠ key

/-- Nobody else settles the request or the reply: no other reply and no operator
closes the request, `sendRequest` only notes how its message fares, and the
application does not consume the reply. -/
def NoRival (item : InboxItem) (inReplyTo : String) (world : DrainWorld) : DrainLabel → Prop
  | .advance _ => ∀ flight other requestId, world.flight = some flight →
      flight.point = .closeOutbound other requestId inReplyTo → other = item
  | .resolve call => ¬ (call.action = "close_outbound" ∧ call.messageId = inReplyTo)
  | .writeOutbound outbound => ∀ row, world.journal.outbound.find? inReplyTo = some row →
      ∃ next, outbound.find? inReplyTo = some next ∧ next.toEndpointId = row.toEndpointId ∧
        next.requestId = row.requestId ∧ next.closedAt = row.closedAt
  | .consumeReply named => named ≠ item.key
  | _ => True

/-- The service does not stop between the statement that closes the request and
the one that stores the reply, and when the reply is polled its sender has a
route and its frame fits. -/
def NotTorn (digest : String → String) (item : InboxItem) (requestId inReplyTo : String)
    (world : DrainWorld) : DrainLabel → Prop
  | .restart _ _ => ∀ flight, world.flight = some flight →
      flight.point ≠ .storeReply item requestId inReplyTo
  | .answer _ => world.Polls item → world.hasRoute item.fromEndpointId = true ∧
      checkPayloadAndFrame digest (item.payload.getD "") item.messageId item.fromEndpointId
        world.clock = true
  | _ => True

/-! ## Before the first poll -/

/-- The service has not seen a message yet. -/
structure Unseen (key : MessageKey) (world : DrainWorld) : Prop where
  row : world.journal.getRow key = none
  unacked : key ∉ world.acksSent
  elsewhere : world.IsElsewhere key
  single : ∀ first ∈ world.inbox, ∀ second ∈ world.inbox, first.key = key → second.key = key →
    first = second
  arrived : ∀ item ∈ world.inbox, item.key = key → key ∈ world.arrived
  polled : ∀ item, world.Polls item → item.key = key → item ∈ world.inbox

section

variable {world after : DrainWorld} {key : MessageKey} {digest : String → String}
  {item : InboxItem} {requestId inReplyTo : String}

theorem AsksNot.unacked (asksNot : AsksNot key world after) (unacked : key ∉ world.acksSent) :
    key ∉ after.acksSent := by
  rcases asksNot with same | ⟨other, different, isCons⟩
  · rw [same]
    exact unacked
  · rw [isCons, List.mem_cons, not_or]
    exact ⟨Ne.symm different, unacked⟩

/-- A step leaves a message without record alone, unless it brings its item. -/
theorem drainStep_elsewhere_free (free : world.journal.getRow key = none)
    (isElsewhere : world.IsElsewhere key) {label : DrainLabel}
    (notPolled : NotPolled key world label) : Elsewhere key world (drainStep digest world label) := by
  have stays : Elsewhere key world world := ⟨rfl, .inl rfl, isElsewhere⟩
  by_cases touches : Touches key world label
  · cases label with
    | advance tie =>
        cases isFlight : world.flight with
        | none =>
            rcases touches with isPoint | isPoint
            · simp [isFlight] at isPoint
            · simp [isFlight] at isPoint
        | some flight =>
            rw [Touches, isFlight] at touches
            rcases touches with isPoint | isPoint
            · have isPoint : flight.point = .retention := Option.some.inj isPoint
              simp only [drainStep, advance, isFlight, isPoint]
              refine Elsewhere.write ?_ (by rintro ⟨⟩)
              rw [getRow_deleteWhere, free]
              rfl
            · have isPoint : flight.point = .choose := Option.some.inj isPoint
              simp only [drainStep, advance, isFlight, isPoint]
              -- What the step turns to has a record.
              have notChosen : ∀ row, world.journal.getRow row.key = some row →
                  some row.key ≠ some key := by
                intro row isRow same
                rw [Option.some.inj same, free] at isRow
                cases isRow
              rcases chooseNext_cases world tie with ⟨row, isRow, chosen⟩ | isDone | isPoll
              · rcases chosen with ⟨-, same⟩ | ⟨-, same⟩ | ⟨-, same⟩ | ⟨-, state, reason, same⟩
                · rw [same]
                  exact Elsewhere.goTo (notChosen row isRow)
                · rw [same]
                  exact Elsewhere.goTo (notChosen row isRow)
                · rw [same]
                  exact Elsewhere.goTo (notChosen row isRow)
                · rw [same]
                  exact Elsewhere.goTo (notChosen row isRow)
              · rw [isDone]
                exact Elsewhere.finish
              · rw [isPoll]
                exact Elsewhere.goTo (by rintro ⟨⟩)
    | answer answer =>
        obtain ⟨aborted, item, isFlight, isKey⟩ := touches
        simp only [drainStep, takeAnswer, isFlight]
        cases answer with
        | page => exact absurd isKey (notPolled rfl item ⟨aborted, isFlight⟩)
        | failed code => exact Elsewhere.finish
        | done | status | acked => exact stays
    | resolve call =>
        simp only [drainStep, takeResolve]
        split
        · split
          · exact stays
          next resolved resolution result isResolved =>
            refine ⟨?_, .inl rfl, isElsewhere⟩
            rcases (@resolvePeerRecord_cases key digest _ _ _ _ _ _ _ isResolved).2 with
              same | ⟨row, next, found, -⟩
            · exact same
            · rw [free] at found
              cases found
        · exact stays
    | consumeReply named =>
        simp only [drainStep]
        split
        · split
          · exact stays
          next consumed isConsumed =>
            refine ⟨?_, .inl rfl, isElsewhere⟩
            rcases (@consumeReply_row key _ _ _ _ isConsumed).2 with same | ⟨-, row, found, -⟩
            · exact same
            · rw [free] at found
              cases found
        · exact stays
    | restart routes signalsStart =>
        refine ⟨?_, .inl rfl, fun flight isFlight => by cases isFlight⟩
        change (world.journal.updateWhere _ _).getRow key = _
        rw [DrainJournal.getRow_updateWhere, free]
        rfl
    | _ => cases touches
  · exact drainStep_elsewhere isElsewhere label touches

theorem unseen_initial (digest : String → String) (key : MessageKey) :
    Unseen key (drainMachine digest).initial where
  row := rfl
  unacked := List.not_mem_nil
  elsewhere := fun _ isFlight => (nomatch isFlight)
  single := fun _ member => absurd member List.not_mem_nil
  arrived := fun _ member => absurd member List.not_mem_nil
  polled := by
    rintro item ⟨aborted, isFlight⟩
    cases isFlight

/-- A message stays unseen until a page brings its item. -/
theorem Unseen.step (unseen : Unseen key world) {label : DrainLabel}
    (notPolled : NotPolled key world label) : Unseen key (drainStep digest world label) := by
  have elsewhere := @drainStep_elsewhere_free world key digest unseen.row unseen.elsewhere label
    notPolled
  have row := elsewhere.row.trans unseen.row
  have unacked := elsewhere.acksSent.unacked unseen.unacked
  by_cases isEngine : label.isEngine = true
  · cases label with
    | engineLists item =>
        simp only [drainStep]
        split
        next mayList =>
          -- An item of the message is its first one.
          have isFirst : item.key = key → ∀ other ∈ world.inbox, other.key ≠ key := by
            rintro isKey other member otherKey
            have isArrived := unseen.arrived other member otherKey
            unfold DrainWorld.mayList at mayList
            rw [isKey, unseen.row] at mayList
            simp [isArrived] at mayList
          refine ⟨unseen.row, unseen.unacked, unseen.elsewhere, ?_, ?_, ?_⟩
          · intro first isFirstListed second isSecondListed firstKey secondKey
            rcases List.mem_append.mp isFirstListed with firstBefore | firstNew
            · rcases List.mem_append.mp isSecondListed with secondBefore | secondNew
              · exact unseen.single first firstBefore second secondBefore firstKey secondKey
              · rw [List.mem_singleton.mp secondNew] at secondKey
                exact absurd firstKey (isFirst secondKey first firstBefore)
            · rw [List.mem_singleton.mp firstNew] at firstKey ⊢
              rcases List.mem_append.mp isSecondListed with secondBefore | secondNew
              · exact absurd secondKey (isFirst firstKey second secondBefore)
              · exact (List.mem_singleton.mp secondNew).symm
          · intro other member otherKey
            rcases List.mem_append.mp member with before | isNew
            · exact List.mem_cons_of_mem _ (unseen.arrived other before otherKey)
            · rw [← otherKey, List.mem_singleton.mp isNew]
              exact List.mem_cons_self
          · intro other polls otherKey
            exact List.mem_append_left _ (unseen.polled other polls otherKey)
        · exact unseen
    | engineAcks named =>
        simp only [drainStep]
        split
        next isAsked =>
          have different : ∀ item : InboxItem, item.key = key → item.key ≠ named := by
            rintro item isKey rfl
            exact unseen.unacked (isKey ▸ isAsked)
          refine ⟨unseen.row, unseen.unacked, unseen.elsewhere, ?_, ?_, ?_⟩
          · intro first isFirst second isSecond
            exact unseen.single first (List.mem_of_mem_filter isFirst) second
              (List.mem_of_mem_filter isSecond)
          · intro item member
            exact unseen.arrived item (List.mem_of_mem_filter member)
          · intro item polls isKey
            refine List.mem_filter.mpr ⟨unseen.polled item polls isKey, ?_⟩
            simpa using different item isKey
        · exact unseen
    | enginePolls =>
        simp only [drainStep] at row unacked elsewhere ⊢
        split
        next aborted isFlight =>
          simp only [isFlight] at elsewhere
          refine ⟨unseen.row, unseen.unacked, elsewhere.flight, unseen.single, unseen.arrived, ?_⟩
          rintro item ⟨flag, polls⟩ -
          unfold DrainWorld.goTo at polls
          obtain ⟨before, -, same⟩ := Option.map_eq_some_iff.mp polls
          have samePage := Point.polling.inj (congrArg Flight.point same)
          exact List.mem_of_mem_head? (Option.some.inj samePage)
        · exact unseen
    | _ => cases isEngine
  · obtain ⟨inbox, arrived, polled⟩ := @drainStep_keepsInbox world digest label
      (Bool.eq_false_iff.mpr isEngine)
    refine ⟨row, unacked, elsewhere.flight, ?_, ?_, fun item polls isKey => ?_⟩
    · rw [inbox]
      exact unseen.single
    · rw [inbox, arrived]
      exact unseen.arrived
    · rw [inbox]
      exact unseen.polled item (polled item polls) isKey

end

end Triangle.PeerDrain
