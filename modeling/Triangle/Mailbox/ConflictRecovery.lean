import Triangle.Mailbox.Host
import Triangle.Std.Json

/-!
# Recovery from an idempotency conflict

What `reply` makes of a 409. `AuthenticatedMailboxTransactionTransport` looks for the reply
on the first page of the room's history, so an event that comes later is not found, and
its transaction stays claimed.
-/

namespace Triangle.Mailbox

open Triangle.Std Triangle.Semantics

/-! ## The transport -/

/-- The requests that a reply sends. -/
inductive RoomRequest
  | appendEvent (roomID idempotencyKey text : String) (inReplyToEventID : Option String)
  | listEvents (roomID : String) (afterSequence limit : Nat)

/-- A response of the server. `body` is the JSON value of its body, if it has one. -/
structure HTTPResponse where
  statusCode : Nat
  body : Option Json

/-- How requests are answered. One that cannot be authorized or sent has no response. -/
abbrev Transport := RoomRequest → Except Unit HTTPResponse

/-- `object[name]` of a dictionary. -/
def field (value : Json) (name : String) : Option Json :=
  match value with
  | .obj fields => fields.lookup name
  | _ => none

/-- `value as? String`. -/
def asString : Option Json → Option String
  | some (.str text) => some text
  | _ => none

def isDictionary : Json → Bool
  | .obj _ => true
  | _ => false

/-- `value as? [[String: Any]]`. -/
def asDictionaries : Option Json → Option (List Json)
  | some (.arr items) => if items.all isDictionary then some items else none
  | _ => none

/-- The idempotency key of an event, under either of its names. -/
def keyOf (item : Json) : Option String :=
  (asString (field item "idempotency_key")).or (asString (field item "idempotencyKey"))

section

variable (send : Transport)

/-- `AuthenticatedMailboxTransactionTransport.sendReply`. -/
def sendReply (roomID idempotencyKey text : String) (inReplyToEventID : Option String) :
    Except Unit ReplyTransportResult :=
  match send (.appendEvent roomID idempotencyKey text inReplyToEventID) with
  | .error problem => .error problem
  | .ok response =>
      if response.statusCode = 409 then .ok .idempotencyConflict
      else if response.statusCode = 200 ∨ response.statusCode = 201 then
        match (response.body.bind fun object => field object "event").bind
            fun event => asString (field event "id") with
        | some eventID => .ok (.created eventID)
        | none => .error ()
      else .error ()

/-- The first item with the key whose id is a string. -/
def findReply (idempotencyKey : String) : List Json → Option String
  | [] => none
  | item :: rest =>
      if keyOf item = some idempotencyKey then
        match asString (field item "id") with
        | some id => some id
        | none => findReply idempotencyKey rest
      else findReply idempotencyKey rest

/-- The limit of the one page that a lookup reads. -/
def lookupLimit : Nat := 50

/-- `AuthenticatedMailboxTransactionTransport.lookupReplyEventID`. -/
def lookupReplyEventID (roomID idempotencyKey : String) : Except Unit (Option String) :=
  -- Bounded history lookup: first page only.
  match send (.listEvents roomID 0 lookupLimit) with
  | .error problem => .error problem
  | .ok response =>
      if response.statusCode = 200 then
        match asDictionaries (response.body.bind fun object => field object "items") with
        | some items => .ok (findReply idempotencyKey items)
        | none => .error ()
      else .error ()

/-- Carry out one call of a process over the transport. -/
def performOver (sha256Hex : String → String) (instanceID : ClientInstanceId)
    (environment : Call → Choice) (process : Nat) (world : World) :
    (request : Call) → World × Answer request
  | .sendReply roomID idempotencyKey text inReplyToEventID =>
      (world.note (.replySent (world.seen process) roomID idempotencyKey),
        sendReply send roomID.value idempotencyKey text (inReplyToEventID.map EventId.value))
  | .lookupReplyEventID roomID idempotencyKey =>
      (world, lookupReplyEventID send roomID.value idempotencyKey)
  | request => perform sha256Hex instanceID process world request (environment request)

end

/-! ## The history of a room -/

/-- An event of a room: a dictionary with the id of an event. -/
def IsEvent (item : Json) : Prop :=
  isDictionary item = true ∧ ∃ eventID : EventId, field item "id" = some (.str eventID.value)

/-- The server answers a listing with the first events of the room, as many as the limit
allows. Their sequences are positive, so all of them come after the sequence 0. -/
def ServesHistory (send : Transport) (roomID : RoomId) (history : List Json) : Prop :=
  ∃ response object, send (.listEvents roomID.value 0 lookupLimit) = .ok response ∧
    response.statusCode = 200 ∧ response.body = some object ∧
    field object "items" = some (.arr (history.take lookupLimit))

/-- The event that a lookup finds. -/
def recovered (history : List Json) (idempotencyKey : String) : Option Json :=
  (history.take lookupLimit).find? fun item => keyOf item = some idempotencyKey

/-- The transaction replied with a recovered event. -/
def OpenTransaction.recoveredWith (record : OpenTransaction) (eventID : EventId) :
    OpenTransaction :=
  { record with
    state := .replied, replyEventID := some eventID, replyResolution := .idempotencyConflict }

/-- The open transaction is replied with the event. -/
def Store.IsReplied (store : Store) (eventID : EventId) : Prop :=
  ∃ record, store.openFile = some record ∧ record.state = .replied ∧
    record.replyEventID = some eventID

section

variable {send : Transport} {history : List Json} {idempotencyKey : String}

/-- Among events the first with the key is found. -/
theorem findReply_eq (areEvents : ∀ item ∈ history, IsEvent item) :
    findReply idempotencyKey history =
      (history.find? fun item => keyOf item = some idempotencyKey).bind
        fun item => asString (field item "id") := by
  induction history with
  | nil => rfl
  | cons item rest ih =>
      obtain ⟨-, eventID, isId⟩ := areEvents item List.mem_cons_self
      unfold findReply
      rw [List.find?_cons]
      by_cases isKey : keyOf item = some idempotencyKey
      · simp [isKey, isId, asString]
      · rw [if_neg isKey]
        simp only [isKey, decide_false]
        exact ih fun other member =>
          areEvents other (List.mem_cons_of_mem _ member)

/-- A lookup finds what the first page holds. -/
theorem lookupReplyEventID_eq {roomID : RoomId} (areEvents : ∀ item ∈ history, IsEvent item)
    (serves : ServesHistory send roomID history) :
    lookupReplyEventID send roomID.value idempotencyKey =
      .ok ((recovered history idempotencyKey).bind fun item => asString (field item "id")) := by
  obtain ⟨response, object, isResponse, isOk, isBody, isItems⟩ := serves
  have onPage : ∀ item ∈ history.take lookupLimit, IsEvent item :=
    fun item member => areEvents item (List.mem_of_mem_take member)
  have areDictionaries : (history.take lookupLimit).all isDictionary = true := by
    rw [List.all_eq_true]
    exact fun item member => (onPage item member).1
  unfold lookupReplyEventID
  simp only [isResponse, isOk, isBody, isItems, if_true, Option.bind_some, asDictionaries,
    areDictionaries]
  rw [findReply_eq onPage]
  rfl

end

/-! ## The reply -/

section

variable {sha256Hex : String → String} {instanceID : ClientInstanceId} {send : Transport}
  {environment : Call → Choice} {process : Nat} {world : World} {record : OpenTransaction}
  {text : String} {inReplyToEventID : Option EventId}

/-- The call with which a reply of a record is sent. -/
def replyRequest (record : OpenTransaction) (text : String) (inReplyToEventID : Option EventId) :
    RoomRequest :=
  .appendEvent record.roomID.value record.replyIdempotencyKey text
    ((inReplyToEventID.orElse fun _ => record.inboundEventID).map EventId.value)

/-- A reply of a record that may be replied to comes to its request. -/
theorem exec_reply (isOpen : world.store.readOpen sha256Hex instanceID = .ok (some record))
    (isClaimed : record.state = .claimed) (isLive : record.isStuck = false)
    (isText : isReplyText text = true)
    (isAbout : ∀ inbound ∈ record.inboundEventID, ∀ given ∈ inReplyToEventID, given = inbound)
    (works : ∀ request, (environment request).fate = .success) :
    (reply sha256Hex record.protocolOwnership record.roomID text inReplyToEventID).exec
        (performOver send sha256Hex instanceID environment process) world =
      (do
        let next ← commitReply sha256Hex record text inReplyToEventID
        replace next
        pure next : Service OpenTransaction).exec
          (performOver send sha256Hex instanceID environment process)
          (world.see process record) := by
  have handled : performOver send sha256Hex instanceID environment process world .readOpen =
      (world.see process record, .ok (some record)) := by
    simp [performOver, perform, works, isOpen]
  have isRead : readOpen.exec (performOver send sha256Hex instanceID environment process) world =
      (world.see process record, .ok (some record)) :=
    Program.exec_attempt handled (show id (Except.ok _) = _ from rfl)
  unfold reply
  rw [Program.exec_ensure isText, Program.exec_bind_ok isRead]
  dsimp only
  rw [Program.exec_ensure rfl, Program.exec_ensure rfl, Program.exec_ensure isAbout,
    Program.exec_ensure isLive, if_neg (by rw [isClaimed]; decide), Program.exec_ensure isClaimed]

/-- The commit of a reply that is answered 409 goes on with the lookup. -/
theorem exec_commitReply_conflict {after : World} {response : HTTPResponse}
    (isResponse : send (replyRequest record text inReplyToEventID) = .ok response)
    (isConflict : response.statusCode = 409) :
    (commitReply sha256Hex record text inReplyToEventID).exec
        (performOver send sha256Hex instanceID environment process) after =
      (do
        let recovered ← Program.attempt
          (.lookupReplyEventID record.roomID record.replyIdempotencyKey) id
          fun _ => .unverifiedReplyConflict
        match recovered.bind EventId.ofRaw with
        | some eventID => checked (record.markingReplied sha256Hex eventID .idempotencyConflict)
        | none => Program.fail .unverifiedReplyConflict : Service OpenTransaction).exec
          (performOver send sha256Hex instanceID environment process)
          (after.note (.replySent (after.seen process) record.roomID
            record.replyIdempotencyKey)) := by
  have handled : performOver send sha256Hex instanceID environment process after
      (.sendReply record.roomID record.replyIdempotencyKey text
        (inReplyToEventID.orElse fun _ => record.inboundEventID)) =
      (after.note (.replySent (after.seen process) record.roomID record.replyIdempotencyKey),
        .ok .idempotencyConflict) := by
    unfold replyRequest at isResponse
    simp only [performOver, sendReply, isResponse, isConflict, if_true]
  unfold commitReply
  exact (Program.exec_bind_ok
    (Program.exec_attempt handled (show id (Except.ok _) = _ from rfl)) _).trans rfl

/-- A reply that is answered 409, and whose lookup ends so. -/
theorem exec_conflict {response : HTTPResponse} {found : Except Unit (Option String)}
    (isOpen : world.store.readOpen sha256Hex instanceID = .ok (some record))
    (isClaimed : record.state = .claimed) (isLive : record.isStuck = false)
    (isText : isReplyText text = true)
    (isAbout : ∀ inbound ∈ record.inboundEventID, ∀ given ∈ inReplyToEventID, given = inbound)
    (works : ∀ request, (environment request).fate = .success)
    (isResponse : send (replyRequest record text inReplyToEventID) = .ok response)
    (isConflict : response.statusCode = 409)
    (isFound : lookupReplyEventID send record.roomID.value record.replyIdempotencyKey = found) :
    let run := (reply sha256Hex record.protocolOwnership record.roomID text inReplyToEventID).exec
      (performOver send sha256Hex instanceID environment process) world
    match found.toOption.bind fun raw => raw.bind EventId.ofRaw with
    | some eventID => run.2 = .ok (record.recoveredWith eventID) ∧
        run.1.store = { world.store with openFile := some (record.recoveredWith eventID) }
    | none => run.2 = .error .unverifiedReplyConflict ∧ run.1.store = world.store := by
  intro run
  have isRun : run = _ := exec_reply isOpen isClaimed isLive isText isAbout works
  rw [Program.exec_bind, exec_commitReply_conflict isResponse isConflict] at isRun
  generalize isSent : (world.see process record).note (.replySent
    ((world.see process record).seen process) record.roomID record.replyIdempotencyKey) = sent
    at isRun
  have sameStore : sent.store = world.store := by
    rw [← isSent]
    rfl
  have handled : performOver send sha256Hex instanceID environment process sent
      (.lookupReplyEventID record.roomID record.replyIdempotencyKey) = (sent, found) := by
    simp only [performOver, isFound]
  obtain ⟨isStored, wellFormed, -⟩ := Store.readOpen_some isOpen
  cases found with
  | error problem =>
      rw [Program.exec_bind_error (Program.exec_attempt_error handled
        (show id (Except.error problem) = _ from rfl))] at isRun
      rw [isRun]
      exact ⟨rfl, sameStore⟩
  | ok raw =>
      rw [Program.exec_bind_ok (Program.exec_attempt handled
        (show id (Except.ok raw) = _ from rfl))] at isRun
      dsimp only [Except.toOption, Option.bind_some]
      cases isEvent : raw.bind EventId.ofRaw with
      | none =>
          simp only [isEvent, Program.exec_fail] at isRun
          rw [isRun]
          exact ⟨rfl, sameStore⟩
      | some eventID =>
          have marked : record.markingReplied sha256Hex eventID .idempotencyConflict =
              .ok (record.recoveredWith eventID) := by
            unfold OpenTransaction.markingReplied
            rw [require_bind_ok, require_bind_ok]
            exact ⟨.inl isClaimed, .inr rfl,
              OpenTransaction.make_of_derived wellFormed.1 wellFormed.2.1⟩
          have replaced : sent.store.replace sha256Hex (record.recoveredWith eventID) =
              .ok { sent.store with openFile := some (record.recoveredWith eventID) } := by
            have isCurrent : sent.store.readOpenFile sha256Hex = .ok record := by
              rw [sameStore]
              exact Store.readOpenFile_of_open isStored wellFormed
            unfold Store.replace
            rw [bind_ok]
            refine ⟨record, isCurrent, ?_⟩
            rw [require_bind_ok]
            exact ⟨⟨rfl, rfl, rfl, rfl, rfl, rfl⟩, rfl⟩
          have written : performOver send sha256Hex instanceID environment process sent
              (.replace (record.recoveredWith eventID)) =
              (({ sent with store :=
                  { sent.store with openFile := some (record.recoveredWith eventID) } } :
                World).see process (record.recoveredWith eventID), .ok ()) := by
            simp [performOver, perform, works, replaced, settleWrite]
          simp only [isEvent, checked, marked, Except.mapError, Program.ofExcept,
            Program.exec_done] at isRun
          unfold replace at isRun
          rw [Program.exec_bind_ok (Program.exec_attempt written
              (show id (Except.ok _) = _ from rfl)),
            Program.exec_pure] at isRun
          rw [isRun]
          refine ⟨rfl, ?_⟩
          change ({ sent.store with openFile := _ } : Store) = _
          rw [sameStore]

end

/-- A reply that is answered 409 marks the transaction replied with the first event of the
room's first page that carries its key. Where that page has no such event, or the lookup
fails, the record is left as it is and `unverifiedReplyConflict` is thrown. -/
theorem conflict_recovery (sha256Hex : String → String) (instanceID : ClientInstanceId)
    (send : Transport) (environment : Call → Choice) (process : Nat) (world : World)
    (record : OpenTransaction) (text : String) (inReplyToEventID : Option EventId)
    (response : HTTPResponse)
    (isOpen : world.store.readOpen sha256Hex instanceID = .ok (some record))
    (isClaimed : record.state = .claimed) (isLive : record.isStuck = false)
    (isText : isReplyText text = true)
    (isAbout : ∀ inbound ∈ record.inboundEventID, ∀ given ∈ inReplyToEventID, given = inbound)
    (works : ∀ request, (environment request).fate = .success)
    (isResponse : send (replyRequest record text inReplyToEventID) = .ok response)
    (isConflict : response.statusCode = 409) :
    let run := (reply sha256Hex record.protocolOwnership record.roomID text inReplyToEventID).exec
      (performOver send sha256Hex instanceID environment process) world
    (∀ history, (∀ item ∈ history, IsEvent item) → ServesHistory send record.roomID history →
      (∀ eventID, run.1.store.IsReplied eventID ↔
        ∃ item, recovered history record.replyIdempotencyKey = some item ∧
          field item "id" = some (.str eventID.value)) ∧
      (recovered history record.replyIdempotencyKey = none →
        run.2 = .error .unverifiedReplyConflict ∧ run.1.store = world.store)) ∧
    (∀ problem,
      lookupReplyEventID send record.roomID.value record.replyIdempotencyKey = .error problem →
        run.2 = .error .unverifiedReplyConflict ∧ run.1.store = world.store) := by
  intro run
  have ends := fun found
      (isFound : lookupReplyEventID send record.roomID.value record.replyIdempotencyKey = found) =>
    @exec_conflict sha256Hex instanceID send environment process world record text
      inReplyToEventID response found isOpen isClaimed isLive isText isAbout works isResponse
      isConflict isFound
  obtain ⟨isStored, -, -⟩ := Store.readOpen_some isOpen
  refine ⟨fun history areEvents serves => ?_, fun problem isFound => ends _ isFound⟩
  have ending := ends _ (lookupReplyEventID_eq areEvents serves)
  cases isRecovered : recovered history record.replyIdempotencyKey with
  | none =>
      rw [isRecovered] at ending
      obtain ⟨throws, same⟩ := ending
      refine ⟨fun eventID => ⟨?_, ?_⟩, fun _ => ⟨throws, same⟩⟩
      · rintro ⟨current, isCurrent, isReplied, -⟩
        change run.1.store = world.store at same
        rw [same, isStored] at isCurrent
        obtain rfl := Option.some.inj isCurrent
        rw [isClaimed] at isReplied
        cases isReplied
      · rintro ⟨item, isItem, -⟩
        cases isItem
  | some item =>
      have onPage := List.mem_of_find?_eq_some isRecovered
      obtain ⟨-, eventID, isId⟩ := areEvents item (List.mem_of_mem_take onPage)
      rw [isRecovered] at ending
      simp only [Option.bind_some, Except.toOption, isId, asString, EventId.ofRaw_value] at ending
      obtain ⟨-, isAfter⟩ := ending
      change run.1.store = _ at isAfter
      refine ⟨fun other => ⟨?_, ?_⟩, nofun⟩
      · rintro ⟨current, isCurrent, -, isEvent⟩
        rw [isAfter] at isCurrent
        obtain rfl := Option.some.inj isCurrent
        obtain rfl := Option.some.inj isEvent
        exact ⟨item, rfl, isId⟩
      · rintro ⟨same, isSame, isOther⟩
        obtain rfl := Option.some.inj isSame
        rw [isId] at isOther
        have isValue := Json.str.inj (Option.some.inj isOther)
        obtain rfl : eventID = other := by
          cases eventID
          cases other
          cases isValue
          rfl
        rw [isAfter]
        exact ⟨_, rfl, rfl, rfl⟩

/-! ## A long history -/

def conflictRoom : RoomId :=
  ⟨"room_00000000000000000000000000000000", by decide +kernel⟩

def conflictInstance : ClientInstanceId :=
  ⟨"0000000000000000000000000000000000000000000000000000000000000000", by decide +kernel⟩

def conflictDigest : String → String :=
  fun _ => conflictInstance.value

/-- A claimed transaction. -/
def claimedRecord : OpenTransaction where
  instanceID := conflictInstance
  protocolOwnership := .selfServeDrain
  deliveryID := 1
  roomID := conflictRoom
  inboundEventID := none
  inboundRoomSequence := none
  replyRequired := true
  claimID := claimId conflictDigest conflictInstance 1
  replyIdempotencyKey := replyIdempotencyKey conflictDigest conflictInstance 1
  state := .claimed
  replyEventID := none
  replyResolution := .none
  failureCount := 0
  lastFailureReason := none
  createdAt := "2026-01-01T00:00:00Z"

def otherEvent : Json :=
  .obj [("id", .str "event_00000000000000000000000000000001"), ("idempotency_key", .str "other")]

def replyEvent : Json :=
  .obj [("id", .str "event_00000000000000000000000000000002"),
    ("idempotency_key", .str claimedRecord.replyIdempotencyKey)]

/-- A server that has the events, and the reply already. -/
def conflictingServer (history : List Json) : Transport
  | .appendEvent _ _ _ _ => .ok ⟨409, none⟩
  | .listEvents _ _ limit => .ok ⟨200, some (.obj [("items", .arr (history.take limit))])⟩

/-- Every call succeeds. -/
def working : Call → Choice :=
  fun _ =>
    { fate := .success, now := "", candidates := [], claimResult := ⟨true, "", false⟩,
      newEventID := ⟨"event_00000000000000000000000000000002", by decide +kernel⟩,
      lookupFinds := true }

def claimedWorld : World :=
  { emptyWorld with store := ⟨some claimedRecord, []⟩ }

/-- A reply that comes after fifty other events is not recovered. -/
theorem conflict_unrecovered :
    let history := List.replicate 50 otherEvent ++ [replyEvent]
    let run := (reply conflictDigest .selfServeDrain conflictRoom "hi" none).exec
      (performOver (conflictingServer history) conflictDigest conflictInstance working 0)
      claimedWorld
    (∃ item ∈ history, keyOf item = some claimedRecord.replyIdempotencyKey) ∧
      ¬ ∃ eventID, run.1.store.IsReplied eventID := by
  intro history run
  refine ⟨⟨replyEvent, List.mem_append_right _ List.mem_cons_self, by decide +kernel⟩, ?_⟩
  rintro ⟨eventID, record, isOpen, isReplied, -⟩
  have isClaimed : run.1.store.openFile.map OpenTransaction.state = some .claimed := by
    decide +kernel
  rw [isOpen, Option.map_some, isReplied] at isClaimed
  cases isClaimed

/-- A reply on the first page is recovered. -/
theorem conflict_recovered :
    ((reply conflictDigest claimedRecord.protocolOwnership claimedRecord.roomID "hi" none).exec
      (performOver (conflictingServer [otherEvent, replyEvent]) conflictDigest conflictInstance
        working 0) claimedWorld).1.store.IsReplied
          ⟨"event_00000000000000000000000000000002", by decide +kernel⟩ := by
  have areEvents : ∀ item ∈ [otherEvent, replyEvent], IsEvent item := by
    intro item member
    rcases List.mem_cons.mp member with rfl | isReply
    · exact ⟨rfl, ⟨"event_00000000000000000000000000000001", by decide +kernel⟩, rfl⟩
    · rw [List.mem_singleton.mp isReply]
      exact ⟨rfl, ⟨"event_00000000000000000000000000000002", by decide +kernel⟩, rfl⟩
  have recovers := conflict_recovery conflictDigest conflictInstance
    (conflictingServer [otherEvent, replyEvent]) working 0 claimedWorld claimedRecord "hi" none
    ⟨409, none⟩ (Store.readOpen_of_open rfl (by decide +kernel) rfl) rfl rfl (by decide) nofun
    (fun _ => rfl) rfl rfl
  refine ((recovers.1 [otherEvent, replyEvent] areEvents ⟨_, _, rfl, rfl, rfl, rfl⟩).1 _).mpr
    ⟨replyEvent, ?_, rfl⟩
  rfl

end Triangle.Mailbox
