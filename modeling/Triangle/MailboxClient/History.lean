import Mathlib.Data.List.DropRight
import Triangle.MailboxClient.Client
import Triangle.Std.JsonParse
import Triangle.Std.Outcome
import Triangle.Std.Text

/-!
# What the mailbox client reads in a response

The events of a room as a history page or an append response shows them: the event of a
delivery, the scan for a reply that the room holds already, and the check of the event
that an append created. A response is the JSON value that `request` returned, or what it
threw.

`findExistingReply_complete`: a scan of ascending pages passes no reply that they hold.
-/

namespace Triangle.MailboxClient

open Triangle.Std

/-- The value of a field; `none` where it is undefined. -/
def field (value : Json) (name : String) : Option Json :=
  match value with
  | .obj fields => fields.lookup name
  | _ => none

/-- `isObject`. -/
def isObject : Json → Bool
  | .obj _ => true
  | _ => false

/-- `text === value`. -/
def isText (value : Option Json) (text : String) : Bool :=
  match value with
  | some (.str other) => other = text
  | _ => false

/-- A `TypeError`. -/
def typeError (message : String) : Failure where
  message := message
  isRequestError := false

/-- A `MailboxRequestError` without a status. -/
def requestError (message : String) : Failure where
  message := message

/-- `String.prototype.trim`. -/
def trim (text : String) : String :=
  String.ofList ((text.toList.dropWhile Text.isTrimmed).rdropWhile Text.isTrimmed)

def required (value : Option Json) (name : String) : Except Failure String :=
  match value with
  | some (.str text) =>
      if Text.isBlank text then .error (typeError (name ++ " is required")) else .ok (trim text)
  | _ => .error (typeError (name ++ " is required"))

def maxIdBytes : Nat := 120

def maxTextBytes : Nat := 64 * 1024

def maxBodyBytes : Nat := 16 * 1024

def boundedId (value : Option Json) (name : String) (pattern : String → Bool) :
    Except Failure String := do
  let text ← required value name
  require (text.utf8ByteSize ≤ maxIdBytes) (typeError (name ++ " is too large"))
  require (pattern text = true) (typeError (name ++ " is invalid"))
  pure text

def boundedText (value : Option Json) (name : String) : Except Failure String :=
  match value with
  | some (.str text) => do
      require (Text.isBlank text = false) (typeError (name ++ " must be a non-empty string"))
      require (text.utf8ByteSize ≤ maxTextBytes) (typeError (name ++ " is too large"))
      pure text
  | _ => .error (typeError (name ++ " must be a non-empty string"))

def validatePositiveInteger (value : Option Json) (name : String) : Except Failure Nat :=
  match value with
  | some (.int number) => do
      require (0 < number ∧ number ≤ Json.maxSafeInteger)
        (typeError (name ++ " must be a positive safe integer"))
      pure number.toNat
  | _ => .error (typeError (name ++ " must be a positive safe integer"))

/-- `AGENT_ID`. -/
def isAgentId : String → Bool :=
  Text.matchesLedClass "agent_" Text.isLowerHex 32 32

/-- `ROOM_ID`. -/
def isRoomId : String → Bool :=
  Text.matchesLedClass "room_" Text.isLowerHex 32 32

/-- `EVENT_ID`. -/
def isEventId : String → Bool :=
  Text.matchesLedClass "event_" Text.isLowerHex 32 32

/-- `Boolean(value)`. -/
def truthy : Json → Bool
  | .null => false
  | .bool value => value
  | .int value => value ≠ 0
  | .str value => value ≠ ""
  | _ => true

def parseReplyRequired : Option Json → Bool
  | none => true
  | some value => truthy value

def pickEventIdempotencyKey (event : Json) : Option Json :=
  (field event "idempotency_key").or (field event "idempotencyKey")

/-- The items of a history page of a room. -/
def historyItems (roomId : String) (page : Json) : Except Failure (List Json) :=
  if isText (field page "roomId") roomId then
    match field page "items" with
    | some (.arr items) => .ok items
    | _ => .error (requestError "Mailbox history response is invalid")
  else .error (requestError "Mailbox history response is invalid")

/-! ## The event of a delivery -/

def validateRoomEvent (event : Json) (delivery : Delivery) (workerId : String) :
    Except Failure RoomEvent := do
  require (isObject event = true) (requestError "Mailbox history response is invalid")
  let roomId ← boundedId (field event "roomId") "roomId" isRoomId
  let sequence ← validatePositiveInteger (field event "sequence") "roomSequence"
  let senderAgentId ← required (field event "senderAgentId") "senderAgentId"
  let eventId ← boundedId (field event "id") "eventId" isEventId
  let type ← required (field event "type") "type"
  require (roomId = delivery.roomId ∧ sequence = delivery.roomSequence ∧
    eventId = delivery.eventId) (requestError "Mailbox event cursor mismatch")
  require (type = "message.created") (requestError "Mailbox event type is unsupported")
  require (senderAgentId ≠ workerId)
    (requestError "Mailbox delivery sender must not be this worker")
  match field event "body" with
  | some (.obj body) =>
      let text ← match body.lookup "text" with
        | some (.str text) =>
            if Text.isBlank text then
              .error (requestError "Mailbox event body has no reply text")
            else boundedText (some (.str text)) "text"
        | _ => .error (requestError "Mailbox event body has no reply text")
      let senderId ← boundedId (some (.str senderAgentId)) "senderId" isAgentId
      pure { id := eventId, roomId, senderId, text,
             replyRequired := parseReplyRequired (body.lookup "replyRequired") }
  | _ => .error (requestError "Mailbox event body is invalid")

/-- The event of a delivery in a page of one item. -/
def listRoomEvent (workerId : String) (delivery : Delivery) (response : Except Failure Json) :
    Except Failure RoomEvent := do
  let items ← historyItems delivery.roomId (← response)
  match items with
  | [] => .error (requestError "Mailbox history response is empty")
  | event :: _ =>
      -- A falsy item is no event.
      require (truthy event = true) (requestError "Mailbox history response is empty")
      validateRoomEvent event delivery workerId

/-! ## Replies -/

/-- The key under which a reply to a message is appended. `digest` is the
base64url text of the SHA-256 of a text. -/
def deterministicMailboxReplyMessageId (digest : String → String) (message : Message) : String :=
  "reply_" ++ digest (Json.text (.obj [("recipientId", .str message.recipientId),
    ("senderId", .str message.senderId), ("messageId", .str message.messageId),
    ("taskId", .str message.taskId), ("contextId", .str message.contextId)]))

/-- The event is one of the worker with the key. -/
def isReply (workerId replyMessageId : String) (event : Json) : Bool :=
  isObject event && isText (field event "senderAgentId") workerId &&
    isText (pickEventIdempotencyKey event) replyMessageId

/-- An event that shows a reply, and the identifier that the client takes from it. -/
structure ShownReply where
  event : Json
  eventId : String

def maxReconciliationPages : Nat := 12

def historyLimit : Nat := 100

def scanExceeded : Failure :=
  requestError "Mailbox history reconciliation scan exceeded safe bounds"

/-- The loop of `findExistingReply` with so many pages to go. `pages` are the answers to
its requests, each named by the pages to go and the sequence number that it is after. -/
def scanHistory (workerId roomId replyMessageId : String) (pages : Nat → Nat → Except Failure Json) :
    Nat → Nat → Nat → Except Failure (Option ShownReply)
  | 0, _, _ => .error scanExceeded
  | toGo + 1, afterSequence, lastSequence => do
      let items ← historyItems roomId (← pages toGo afterSequence)
      match items.find? (isReply workerId replyMessageId) with
      | some event =>
          let eventId ← boundedId (field event "id") "eventId" isEventId
          pure (some { event, eventId })
      | none =>
          if items.length < historyLimit then pure none
          else
            match items.getLast? with
            | some (.obj lastEvent) =>
                let nextSequence ←
                  validatePositiveInteger (lastEvent.lookup "sequence") "roomSequence"
                require (afterSequence < nextSequence ∧ nextSequence ≠ lastSequence)
                  (requestError "Mailbox history scan did not progress")
                scanHistory workerId roomId replyMessageId pages toGo nextSequence nextSequence
            | _ => .error scanExceeded

def findExistingReply (workerId roomId replyMessageId : String) (startSequence : Nat)
    (pages : Nat → Nat → Except Failure Json) : Except Failure (Option ShownReply) :=
  scanHistory workerId roomId replyMessageId pages maxReconciliationPages startSequence 0

def buildReplyPayload (message : Message) (replyText replyMessageId : String) :
    Except Failure Json := do
  let payload := Json.obj [("type", .str "message.created"),
    ("body", .obj [("text", .str replyText), ("replyRequired", .bool false),
      ("inReplyToEventId", .str message.messageId)]),
    ("idempotency_key", .str replyMessageId)]
  require (payload.byteLength ≤ maxBodyBytes) (typeError "Mailbox reply body is too large")
  pure payload

def invalidReplyEvent : Failure :=
  requestError "Mailbox reply persistence returned invalid event"

/-- The reply that an append response shows, and its sequence number. -/
def validateAppendResponse (workerId : String) (message : Message)
    (replyText replyMessageId : String) (response : Json) : Except Failure (ShownReply × Nat) :=
  match field response "event" with
  | some event => do
      require (isObject event = true) invalidReplyEvent
      let eventRoomId ← boundedId (field event "roomId") "roomId" isRoomId
      let sequence ← validatePositiveInteger (field event "sequence") "roomSequence"
      let eventId ← boundedId (field event "id") "eventId" isEventId
      require (eventRoomId = message.contextId) invalidReplyEvent
      require (isText (field event "type") "message.created" = true) invalidReplyEvent
      let senderAgentId ← boundedId (field event "senderAgentId") "senderAgentId" isAgentId
      require (senderAgentId = workerId) invalidReplyEvent
      require (isText (pickEventIdempotencyKey event) replyMessageId = true) invalidReplyEvent
      match field event "body" with
      | some (.obj body) =>
          require (isText (body.lookup "text") replyText = true) invalidReplyEvent
          let _ ← boundedText (body.lookup "text") "text"
          require (body.lookup "replyRequired" matches some (.bool false)) invalidReplyEvent
          let inReplyToEventId ←
            boundedId (body.lookup "inReplyToEventId") "inReplyToEventId" isEventId
          require (inReplyToEventId = message.messageId) invalidReplyEvent
          pure ({ event, eventId }, sequence)
      | _ => .error invalidReplyEvent
  | none => .error invalidReplyEvent

def appendReply (workerId : String) (message : Message) (replyText replyMessageId : String)
    (respond : Json → Except Failure Json) : Except Failure (ShownReply × Nat) := do
  let payload ← buildReplyPayload message replyText replyMessageId
  validateAppendResponse workerId message replyText replyMessageId (← respond payload)

/-! ## The scan finds every reply -/

/-- The number of an event in its room. -/
def sequenceOf (event : Json) : Nat :=
  match field event "sequence" with
  | some (.int number) => number.toNat
  | _ => 0

/-- The events of a room: numbered, in ascending order. -/
structure RoomHistory where
  events : List Json
  numbered : ∀ event ∈ events, ∃ fields, event = .obj fields ∧
    validatePositiveInteger (fields.lookup "sequence") "roomSequence" = .ok (sequenceOf event)
  ascending : events.Pairwise fun first second => sequenceOf first < sequenceOf second

namespace RoomHistory

/-- The events of a page after a sequence number. -/
def itemsAfter (history : RoomHistory) (afterSequence : Nat) : List Json :=
  (history.events.filter fun event => afterSequence < sequenceOf event).take historyLimit

/-- The history page that a room answers with. -/
def IsPage (history : RoomHistory) (roomId : String) (afterSequence : Nat) (page : Json) : Prop :=
  historyItems roomId page = .ok (history.itemsAfter afterSequence)

variable {history : RoomHistory} {afterSequence : Nat} {event : Json}

section

variable (member : event ∈ history.events) (above : afterSequence < sequenceOf event)
  (leftOut : event ∉ history.itemsAfter afterSequence)
include member above leftOut

/-- An event that a page leaves out comes after every event of the page. -/
theorem before_of_left_out {other : Json} (isItem : other ∈ history.itemsAfter afterSequence) :
    sequenceOf other < sequenceOf event := by
  let later := history.events.filter fun event => afterSequence < sequenceOf event
  have isLater : event ∈ later := List.mem_filter.mpr ⟨member, decide_eq_true above⟩
  have ordered : later.Pairwise fun first second => sequenceOf first < sequenceOf second :=
    history.ascending.filter _
  rw [← List.take_append_drop historyLimit later] at isLater ordered
  have inRest : event ∈ later.drop historyLimit := by
    rcases List.mem_append.mp isLater with inPage | inRest
    · exact absurd inPage leftOut
    · exact inRest
  exact (List.pairwise_append.mp ordered).2.2 other isItem event inRest

/-- A page that leaves an event out is full. -/
theorem full_of_left_out : (history.itemsAfter afterSequence).length = historyLimit := by
  let later := history.events.filter fun event => afterSequence < sequenceOf event
  have isLater : event ∈ later := List.mem_filter.mpr ⟨member, decide_eq_true above⟩
  have long : historyLimit ≤ later.length := by
    by_contra short
    apply leftOut
    change event ∈ later.take historyLimit
    rw [List.take_of_length_le (by omega)]
    exact isLater
  change (later.take historyLimit).length = historyLimit
  rw [List.length_take]
  omega

end

end RoomHistory

section

variable {workerId roomId replyMessageId : String} {pages : Nat → Nat → Except Failure Json}

/-- Every page is of a history that holds a reply with the number. -/
def ServesReply (workerId roomId replyMessageId : String)
    (pages : Nat → Nat → Except Failure Json) (sequence : Nat) : Prop :=
  ∀ toGo afterSequence page, pages toGo afterSequence = .ok page →
    ∃ history : RoomHistory, history.IsPage roomId afterSequence page ∧
      ∃ event ∈ history.events, isReply workerId replyMessageId event = true ∧
        sequenceOf event = sequence

/-- A scan that starts before a reply does not end without one. -/
theorem scanHistory_complete {sequence : Nat}
    (serves : ServesReply workerId roomId replyMessageId pages sequence)
    {toGo afterSequence lastSequence : Nat} (above : afterSequence < sequence) :
    scanHistory workerId roomId replyMessageId pages toGo afterSequence lastSequence ≠ .ok none := by
  induction toGo generalizing afterSequence lastSequence with
  | zero => exact nofun
  | succ toGo ih =>
      intro endsWithout
      unfold scanHistory at endsWithout
      obtain ⟨page, isPage, endsWithout⟩ := (bind_ok _).mp endsWithout
      obtain ⟨items, areItems, endsWithout⟩ := (bind_ok _).mp endsWithout
      obtain ⟨history, isOf, event, member, shows, isNumber⟩ :=
        serves toGo afterSequence page isPage
      obtain rfl := Except.ok.inj (isOf.symm.trans areItems)
      rw [← isNumber] at above
      cases isFound : (history.itemsAfter afterSequence).find? (isReply workerId replyMessageId) with
      | some found =>
          rw [isFound] at endsWithout
          obtain ⟨eventId, -, endsWithout⟩ := (bind_ok _).mp endsWithout
          cases endsWithout
      | none =>
          have leftOut : event ∉ history.itemsAfter afterSequence := by
            intro isItem
            exact List.find?_eq_none.mp isFound event isItem shows
          have isFull := history.full_of_left_out member above leftOut
          rw [isFound] at endsWithout
          dsimp only at endsWithout
          rw [if_neg (by omega)] at endsWithout
          cases isLast : (history.itemsAfter afterSequence).getLast? with
          | none =>
              rw [isLast] at endsWithout
              cases endsWithout
          | some last =>
              have isItem := List.mem_of_getLast? isLast
              have inHistory : last ∈ history.events :=
                (List.mem_filter.mp (List.mem_of_mem_take isItem)).1
              obtain ⟨fields, rfl, isSequence⟩ := history.numbered last inHistory
              rw [isLast] at endsWithout
              dsimp only at endsWithout
              rw [isSequence, ok_bind, require_bind_ok] at endsWithout
              have before := history.before_of_left_out member above leftOut isItem
              rw [isNumber] at before
              exact ih before endsWithout.2

/-- What a scan finds is on a page that was read. -/
theorem scanHistory_found {toGo afterSequence lastSequence : Nat} {reply : ShownReply}
    (isFound : scanHistory workerId roomId replyMessageId pages toGo afterSequence lastSequence =
      .ok (some reply)) :
    isReply workerId replyMessageId reply.event = true ∧
      ∃ left since page items, pages left since = .ok page ∧ afterSequence ≤ since ∧
        historyItems roomId page = .ok items ∧ reply.event ∈ items := by
  induction toGo generalizing afterSequence lastSequence with
  | zero => cases isFound
  | succ toGo ih =>
      unfold scanHistory at isFound
      obtain ⟨page, isPage, isFound⟩ := (bind_ok _).mp isFound
      obtain ⟨items, areItems, isFound⟩ := (bind_ok _).mp isFound
      cases isFirst : items.find? (isReply workerId replyMessageId) with
      | some event =>
          rw [isFirst] at isFound
          obtain ⟨eventId, -, isFound⟩ := (bind_ok _).mp isFound
          rw [pure_ok, Option.some.injEq] at isFound
          subst isFound
          exact ⟨List.find?_some isFirst, toGo, afterSequence, page, items, isPage, Nat.le_refl _,
            areItems, List.mem_of_find?_eq_some isFirst⟩
      | none =>
          rw [isFirst] at isFound
          dsimp only at isFound
          split at isFound
          · cases isFound
          · split at isFound
            · obtain ⟨nextSequence, -, isFound⟩ := (bind_ok _).mp isFound
              rw [require_bind_ok] at isFound
              obtain ⟨⟨progresses, -⟩, isFound⟩ := isFound
              obtain ⟨shows, left, since, readPage, readItems, isRead, isSince, areRead, isItem⟩ :=
                ih isFound
              exact ⟨shows, left, since, readPage, readItems, isRead, by omega, areRead, isItem⟩
            · cases isFound

end

end Triangle.MailboxClient
