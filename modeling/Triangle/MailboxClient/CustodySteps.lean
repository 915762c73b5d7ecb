import Triangle.MailboxClient.CustodyFrames

/-!
# What a call of one process is to the others

Every allowed call keeps the invariant, and leaves every other process what it relies on.
-/

namespace Triangle.MailboxClient

open Triangle.Std Triangle.Semantics

section

variable {terms : Terms} {process : Nat} {command : Command} {custody after : Custody}
  {response : Response}

/-- A call that leaves the messages alone. -/
theorem Frame.of_same (executing : after.executing = custody.executing)
    (generated : after.generated = custody.generated)
    (custodies : after.custodies = custody.custodies)
    (messages : after.messages = custody.messages)
    (quarantined : after.isQuarantined = custody.isQuarantined)
    (active : after.isActive = custody.isActive) (issued : after.issued = custody.issued)
    (acknowledged : custody.acknowledged ⊆ after.acknowledged)
    (won : custody.won ⊆ after.won) (skipped : custody.skipped ⊆ after.skipped)
    (seen : custody.seen ⊆ after.seen)
    (known : terms.honest → ∀ seen ∈ after.seen, seen ∈ custody.seen ∨
      IsKnown terms after seen) : Frame terms custody after where
  executing := executing
  generated := generated
  custodies := custodies
  quarantined := quarantined
  active := active
  acknowledged := acknowledged
  won := won
  skipped := skipped
  seen := seen
  known := known
  issued := .inl issued
  kept ref message isMessage := by
    rw [messages]
    exact ⟨message, isMessage, .refl message⟩
  origin ref message isMessage := by
    rw [messages] at isMessage
    exact .inl ⟨message, isMessage, .refl message, .inl⟩

/-- A call that changes the client outside the messages, and nothing in the history. -/
theorem Frame.of_client {client : World}
    (messages : client.memory.messages = custody.client.memory.messages)
    (quarantined : client.memory.quarantinedDeliveries =
      custody.client.memory.quarantinedDeliveries)
    (active : client.memory.activeDeliveries = custody.client.memory.activeDeliveries)
    (issued : client.server.issued = custody.client.server.issued)
    (acknowledged : custody.client.acknowledged ⊆ client.acknowledged) :
    Frame terms custody { custody with client } := by
  refine .of_same rfl rfl rfl messages ?_ ?_ issued acknowledged (List.Subset.refl _)
    (List.Subset.refl _) (List.Subset.refl _) fun _ _ => .inl
  · funext id
    unfold Custody.isQuarantined Memory.isQuarantined
    rw [quarantined]
  · funext id
    unfold Custody.isActive
    rw [active]

theorem frame_others (action : ServerAction) :
    Frame terms custody { custody with client :=
      { custody.client with server := custody.client.server.act action } } where
  executing := rfl
  generated := rfl
  custodies := rfl
  quarantined := rfl
  active := rfl
  acknowledged := List.Subset.refl _
  won := List.Subset.refl _
  skipped := List.Subset.refl _
  seen := List.Subset.refl _
  known _ _ := .inl
  issued := by
    rcases custody.client.server.act_cases action with settles | ⟨delivery, isNew, isAfter⟩
    · exact .inl settles.issued
    · right
      refine ⟨delivery, isNew, ?_⟩
      change (custody.client.server.act action).issued = _
      rw [isAfter]
      rfl
  kept _ message isMessage := ⟨message, isMessage, .refl message⟩
  origin _ message isMessage := .inl ⟨message, isMessage, .refl message, .inl⟩

theorem changeMetadata_getElem? (memory : Memory) (place ref : Nat) (change : MetadataChange) :
    (memory.changeMetadata place change).messages[ref]? =
      (memory.messages[ref]?).map fun message =>
        if place = ref then message.changed change else message := by
  unfold Memory.changeMetadata
  exact List.getElem?_modify ..

/-- A change of metadata that is no work. -/
theorem frame_changeMetadata {place : Nat} {change : MetadataChange}
    (idle : change.works = false)
    (needs : Needs terms process command custody (.changeMetadata place change)) :
    Frame terms custody { custody with
      client := custody.client.withMemory
        (custody.client.memory.changeMetadata place change) } where
  executing := rfl
  generated := rfl
  custodies := rfl
  quarantined := rfl
  active := rfl
  acknowledged := List.Subset.refl _
  won := List.Subset.refl _
  skipped := List.Subset.refl _
  seen := List.Subset.refl _
  known _ _ := .inl
  issued := .inl rfl
  kept ref message isMessage := by
    have isOld : custody.client.memory.messages[ref]? = some message := isMessage
    refine ⟨if place = ref then message.changed change else message, ?_, ?_⟩
    · change (custody.client.memory.changeMetadata place change).messages[ref]? = _
      rw [changeMetadata_getElem?, isOld]
      rfl
    · split
      · exact steady_changed message idle
      · exact .refl message
  origin ref message isMessage := by
    left
    change (custody.client.memory.changeMetadata place change).messages[ref]? = _ at isMessage
    rw [changeMetadata_getElem?, Option.map_eq_some_iff] at isMessage
    obtain ⟨before, isBefore, isChanged⟩ := isMessage
    by_cases same : place = ref
    · subst same
      rw [if_pos rfl] at isChanged
      subst isChanged
      refine ⟨before, isBefore, steady_changed before idle, fun isOwned => ?_⟩
      cases change with
      | owned leaseExpiresAt =>
          obtain ⟨message, isMessage, isWon⟩ := needs
          obtain rfl := Option.mem_unique isMessage isBefore
          exact .inr isWon
      | lost => cases isOwned
      | _ => exact .inl isOwned
    · rw [if_neg same] at isChanged
      subst isChanged
      exact ⟨before, isBefore, .refl before, .inl⟩

theorem frame_createMessage {recipientId : String} {delivery : Delivery} {event : RoomEvent}
    {claimId : String}
    (needs : Needs terms process command custody (.createMessage recipientId delivery event)) :
    Frame terms custody { custody with
      client := custody.client.withMemory
        (custody.client.memory.createMessage recipientId delivery event claimId) } where
  executing := rfl
  generated := rfl
  custodies := rfl
  quarantined := rfl
  active := rfl
  acknowledged := List.Subset.refl _
  won := List.Subset.refl _
  skipped := List.Subset.refl _
  seen := List.Subset.refl _
  known _ _ := .inl
  issued := .inl rfl
  kept ref message isMessage :=
    ⟨message, (List.getElem?_append_left (List.getElem?_eq_some_iff.mp isMessage).1).trans isMessage,
      .refl message⟩
  origin ref message isMessage := by
    change (custody.messages ++ [_])[ref]? = _ at isMessage
    rcases Nat.lt_or_ge ref custody.messages.length with within | beyond
    · rw [List.getElem?_append_left within] at isMessage
      exact .inl ⟨message, isMessage, .refl message, .inl⟩
    · right
      rw [List.getElem?_append_right beyond, List.getElem?_singleton] at isMessage
      refine ⟨List.getElem?_eq_none_iff.mpr beyond, ?_⟩
      split at isMessage
      · obtain rfl := Option.some.inj isMessage
        obtain ⟨isWorker, isIssued, isEvent, isRoom, isSender⟩ := needs
        refine ⟨isIssued, ⟨isWorker, isEvent, isEvent, isRoom, fun isHonest => ?_⟩, rfl, rfl, rfl⟩
        exact (isSender isHonest).trans (congrArg terms.sender isEvent)
      · cases isMessage

/-! ## Replies that are shown -/

variable {workerId replyMessageId name text roomId : String} {event : Json} {value : Option Json}
  {sequence startSequence : Nat} {reply : ShownReply}

theorem isReply_shows (shows : isReply workerId replyMessageId event = true) :
    ShowsReply workerId replyMessageId event := by
  unfold isReply at shows
  rw [Bool.and_eq_true, Bool.and_eq_true] at shows
  obtain ⟨⟨-, isSender⟩, isKey⟩ := shows
  refine ⟨?_, isKey⟩
  unfold isText at isSender
  split at isSender
  next sender isField => exact ⟨sender, isField, .inl (of_decide_eq_true isSender)⟩
  next => cases isSender

theorem boundedId_required {pattern : String → Bool}
    (isBounded : boundedId value name pattern = .ok text) : required value name = .ok text := by
  unfold boundedId at isBounded
  obtain ⟨read, isRead, isBounded⟩ := (bind_ok _).mp isBounded
  rw [require_bind_ok, require_bind_ok, pure_ok] at isBounded
  rw [isRead, isBounded.2.2]

theorem required_trim (isRequired : required value name = .ok text) :
    ∃ whole, value = some (.str whole) ∧ trim whole = text := by
  unfold required at isRequired
  split at isRequired
  next whole =>
    split at isRequired
    · cases isRequired
    · exact ⟨whole, rfl, Except.ok.inj isRequired⟩
  next => cases isRequired

theorem validatePositiveInteger_sequenceOf
    (isValid : validatePositiveInteger (field event "sequence") name = .ok sequence) :
    sequenceOf event = sequence := by
  unfold validatePositiveInteger at isValid
  unfold sequenceOf
  split at isValid
  next number isNumber =>
    rw [require_bind_ok, pure_ok] at isValid
    exact isValid.2
  next => cases isValid

/-- An append response that passes its check shows the reply. -/
theorem appendReply_shows {message : Message} {respond : Json → Except Failure Json}
    (isAppended : appendReply workerId message text replyMessageId respond =
      .ok (reply, sequence)) :
    ShowsReply workerId replyMessageId reply.event ∧ sequenceOf reply.event = sequence := by
  unfold appendReply at isAppended
  obtain ⟨payload, -, isAppended⟩ := (bind_ok _).mp isAppended
  obtain ⟨answer, -, isAppended⟩ := (bind_ok _).mp isAppended
  unfold validateAppendResponse at isAppended
  split at isAppended
  next event isEvent =>
    rw [require_bind_ok] at isAppended
    obtain ⟨-, isAppended⟩ := isAppended
    obtain ⟨roomId, -, isAppended⟩ := (bind_ok _).mp isAppended
    obtain ⟨number, isNumber, isAppended⟩ := (bind_ok _).mp isAppended
    obtain ⟨eventId, -, isAppended⟩ := (bind_ok _).mp isAppended
    rw [require_bind_ok, require_bind_ok] at isAppended
    obtain ⟨-, -, isAppended⟩ := isAppended
    obtain ⟨sender, isSender, isAppended⟩ := (bind_ok _).mp isAppended
    rw [require_bind_ok, require_bind_ok] at isAppended
    obtain ⟨isWorker, isKey, isAppended⟩ := isAppended
    split at isAppended
    next body isBody =>
      rw [require_bind_ok] at isAppended
      obtain ⟨-, isAppended⟩ := isAppended
      obtain ⟨checked, -, isAppended⟩ := (bind_ok _).mp isAppended
      rw [require_bind_ok] at isAppended
      obtain ⟨-, isAppended⟩ := isAppended
      obtain ⟨inReplyTo, -, isAppended⟩ := (bind_ok _).mp isAppended
      rw [require_bind_ok, pure_ok] at isAppended
      obtain ⟨rfl, rfl⟩ := Prod.mk.inj isAppended.2
      obtain ⟨whole, isWhole, isTrimmed⟩ := required_trim (boundedId_required isSender)
      exact ⟨⟨⟨whole, isWhole, .inr (isTrimmed.trans isWorker)⟩, isKey⟩,
        validatePositiveInteger_sequenceOf isNumber⟩
    next => cases isAppended
  next => cases isAppended

/-- What a scan finds shows the reply. -/
theorem scanned_shows
    (isFound : response.scanned workerId roomId replyMessageId startSequence = .ok (some reply)) :
    ShowsReply workerId replyMessageId reply.event :=
  isReply_shows (scanHistory_found isFound).1

/-- What a scan of honest pages finds comes after its start. -/
theorem scanned_after
    (serves : ∀ toGo afterSequence page, response.pages toGo afterSequence = .ok page →
      ∃ history : RoomHistory, history.IsPage roomId afterSequence page)
    (isFound : response.scanned workerId roomId replyMessageId startSequence = .ok (some reply)) :
    startSequence < sequenceOf reply.event := by
  obtain ⟨-, left, since, page, items, isPage, isSince, areItems, isItem⟩ :=
    scanHistory_found isFound
  obtain ⟨history, isOf⟩ := serves left since page isPage
  obtain rfl := Except.ok.inj (isOf.symm.trans areItems)
  have later := of_decide_eq_true (List.mem_filter.mp (List.mem_of_mem_take isItem)).2
  exact Nat.lt_of_le_of_lt isSince later

/-! ## Each call -/

theorem frame_claim (id : Nat) (claimId : String) :
    Frame terms custody
      (performCustody terms.workerId process custody (.claim id claimId) response).1 := by
  obtain ⟨server, isServer, settles⟩ :=
    @perform_claim custody.client id claimId (response.choiceFor terms.workerId (.claim id claimId))
  have isAfter : ∃ won, custody.won ⊆ won ∧
      (performCustody terms.workerId process custody (.claim id claimId) response).1 =
        { custody with won, client := { custody.client with server } } := by
    unfold performCustody
    dsimp only
    rw [isServer]
    unfold Custody.note
    cases (perform custody.client (.claim id claimId)
        (response.choiceFor terms.workerId (.claim id claimId))).2 with
    | ok leaseExpiresAt => exact ⟨_, List.subset_cons_self _ _, rfl⟩
    | error failure => exact ⟨_, List.Subset.refl _, rfl⟩
  obtain ⟨won, isMore, isAfter⟩ := isAfter
  rw [isAfter]
  exact .of_same rfl rfl rfl rfl rfl rfl settles.issued (List.Subset.refl _) isMore
    (List.Subset.refl _) (List.Subset.refl _) fun _ _ => .inl

theorem frame_ack (id : Nat) (claimId : String) :
    Frame terms custody
      (performCustody terms.workerId process custody (.ack id claimId) response).1 := by
  obtain ⟨server, acknowledged, isServer, settles, isMore⟩ :=
    @perform_ack custody.client id claimId (response.choiceFor terms.workerId (.ack id claimId))
  have isAfter : (performCustody terms.workerId process custody (.ack id claimId) response).1 =
      { custody with client := { custody.client with server, acknowledged } } := by
    unfold performCustody
    dsimp only
    rw [isServer]
    rfl
  rw [isAfter]
  exact .of_client rfl rfl rfl settles.issued isMore

theorem frame_listRoomEvent (delivery : Delivery) :
    Frame terms custody
      (performCustody terms.workerId process custody (.listRoomEvent delivery) response).1 := by
  have isAfter : ∃ skipped, custody.skipped ⊆ skipped ∧
      (performCustody terms.workerId process custody (.listRoomEvent delivery) response).1 =
        { custody with skipped } := by
    unfold performCustody
    dsimp only
    unfold Custody.note
    cases (perform custody.client (.listRoomEvent delivery)
        (response.choiceFor terms.workerId (.listRoomEvent delivery))).2 with
    | ok event => exact ⟨_, List.Subset.refl _, rfl⟩
    | error failure =>
        dsimp only
        split
        · exact ⟨_, List.subset_cons_self _ _, rfl⟩
        · exact ⟨_, List.Subset.refl _, rfl⟩
  obtain ⟨skipped, isMore, isAfter⟩ := isAfter
  rw [isAfter]
  exact .of_same rfl rfl rfl rfl rfl rfl rfl (List.Subset.refl _) (List.Subset.refl _) isMore
    (List.Subset.refl _) fun _ _ => .inl

/-- One more event was shown. -/
theorem frame_seen (seen : Seen)
    (isKnown : terms.honest → IsKnown terms custody seen) :
    Frame terms custody { custody with seen := seen :: custody.seen } := by
  refine .of_same rfl rfl rfl rfl rfl rfl rfl (List.Subset.refl _) (List.Subset.refl _)
    (List.Subset.refl _) (List.subset_cons_self _ _) ?_
  intro isHonest other member
  rcases List.mem_cons.mp member with rfl | old
  · exact .inr (isKnown isHonest)
  · exact .inl old

theorem Frame.refl (custody : Custody) : Frame terms custody custody :=
  .of_same rfl rfl rfl rfl rfl rfl rfl (List.Subset.refl _) (List.Subset.refl _)
    (List.Subset.refl _) (List.Subset.refl _) fun _ _ => .inl

section

variable (holds : Holds terms custody)
include holds

theorem frame_findExistingReply (needs : Needs terms process command custody
      (.findExistingReply roomId replyMessageId startSequence))
    (keeps : terms.honest → ServerKeeps terms process custody response
      (.findExistingReply roomId replyMessageId startSequence)) :
    Frame terms custody (performCustody terms.workerId process custody
      (.findExistingReply roomId replyMessageId startSequence) response).1 := by
  unfold performCustody Custody.note
  dsimp only
  split
  next reply deliveryId isFound isExecuting =>
    apply frame_seen { deliveryId, roomId, event := reply.event }
    intro isHonest
    obtain ⟨ref, message, isMessage, isOwn, rfl, rfl, rfl⟩ := needs
    obtain ⟨isIssued, told⟩ := holds.message isMessage
    have serves := keeps isHonest
    refine ⟨message.metadata.delivery, isIssued, ?_, told.contextId, ?_, ?_⟩
    · exact Option.mem_unique isOwn isExecuting
    · rw [← told.replyMessageId isHonest]
      exact scanned_shows isFound
    · refine scanned_after (fun toGo afterSequence page isPage => ?_) isFound
      obtain ⟨history, isOf, -⟩ := serves toGo afterSequence page isPage
      exact ⟨history, isOf⟩
  next => exact .refl custody

theorem frame_appendReply {given : Message}
    (needs : Needs terms process command custody (.appendReply given text replyMessageId))
    (keeps : terms.honest → ServerKeeps terms process custody response
      (.appendReply given text replyMessageId)) :
    Frame terms custody (performCustody terms.workerId process custody
      (.appendReply given text replyMessageId) response).1 := by
  unfold performCustody Custody.note
  dsimp only
  split
  next reply sequence isReplied =>
    apply frame_seen { deliveryId := given.id, roomId := given.contextId, event := reply.event }
    intro isHonest
    obtain ⟨ref, message, isMessage, evolves, rfl, -⟩ := needs
    obtain ⟨isIssued, told⟩ := holds.message isMessage
    obtain ⟨shows, isSequence⟩ := appendReply_shows isReplied
    refine ⟨message.metadata.delivery, isIssued, evolves.id, ?_, ?_, ?_⟩
    · exact evolves.contextId.symm.trans told.contextId
    · rw [← told.replyMessageId isHonest, evolves.replyMessageId terms]
      exact shows
    · rw [isSequence, evolves.delivery]
      exact keeps isHonest reply sequence isReplied
  next => exact .refl custody

/-- A call that is no work leaves the messages unworked. -/
theorem perform_frame {request : Call} (idle : isWork request = false)
    (needs : Needs terms process command custody request)
    (meets : Meets terms process command custody request response) :
    Frame terms custody (performCustody terms.workerId process custody request response).1 := by
  cases request with
  | claim id claimId => exact frame_claim id claimId
  | ack id claimId => exact frame_ack id claimId
  | listRoomEvent delivery => exact frame_listRoomEvent delivery
  | findExistingReply roomId replyMessageId startSequence =>
      exact frame_findExistingReply holds needs meets.honest
  | appendReply given text replyMessageId => exact frame_appendReply holds needs meets.honest
  | createMessage recipientId delivery event => exact frame_createMessage needs
  | changeMetadata place change => exact frame_changeMetadata idle needs
  | others action => exact frame_others action
  | advanceListCursor id =>
      refine .of_client ?_ ?_ ?_ rfl (List.Subset.refl _)
      · exact Memory.advanceListCursor_messages _ _
      · exact Memory.advanceListCursor_quarantinedDeliveries _ _
      · change (Memory.advanceListCursor _ id).activeDeliveries = _
        unfold Memory.advanceListCursor
        split <;> rfl
  | beginDelivery | endDelivery | quarantineDelivery => cases idle
  | _ => exact .of_client rfl rfl rfl rfl (List.Subset.refl _)

end

end

end Triangle.MailboxClient
