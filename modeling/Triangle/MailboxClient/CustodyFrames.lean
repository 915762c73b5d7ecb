import Triangle.MailboxClient.CustodyRules

/-!
# What each call leaves

A call that is no work on a message leaves the invariant and all that any process relies
on (`Frame`). The calls that are work, and the begin and the end of an execution, leave
them to every process but the one that makes them.
-/

namespace Triangle.MailboxClient

open Triangle.Std Triangle.Semantics

/-! ## What a process may call -/

section

variable (terms : Terms)

/-- What a call needs to be so when it is issued. -/
def Permits (process : Nat) (command : Command) (custody : Custody) : Call → Prop
  | .ack id claimId => (id, claimId) ∈ custody.won ∧
      match command with
      | .completeAndAcknowledge ref => ∃ message, custody.messages[ref]? = some message ∧
          message.id = id ∧ message.metadata.claimId = claimId ∧
          message.metadata.ownershipLost = false ∧
          (message.replyRequired = true → IsShown terms custody message)
      | .listUnread => id ∈ custody.skipped
      | _ => False
  | .appendReply given _ replyMessageId => ∃ (ref : Nat) (message : Message),
      command = .completeAndAcknowledge ref ∧ custody.messages[ref]? = some message ∧
        Evolves given message ∧ message.metadata.ownershipLost = false ∧
        replyMessageId = terms.replyMessageId given ∧ custody.executing process = some given.id
  | .generate given => ∃ (ref : Nat) (message : Message),
      command = .completeAndAcknowledge ref ∧ custody.messages[ref]? = some message ∧
        Evolves given message ∧ message.metadata.replyPersisted = false ∧
        custody.executing process = some given.id ∧
        (terms.honest → ∀ seen ∈ custody.seen, seen.deliveryId ≠ given.id) ∧
        (terms.bounded → custody.isQuarantined given.id = false ∧
          custody.generated.count ref < terms.options.maxDeliveryAttempts)
  | .findExistingReply roomId replyMessageId startSequence => ∃ (ref : Nat) (message : Message),
      command = .completeAndAcknowledge ref ∧ custody.messages[ref]? = some message ∧
        custody.executing process = some message.id ∧ roomId = message.contextId ∧
        replyMessageId = terms.replyMessageId message ∧
        startSequence = message.metadata.delivery.roomSequence
  | .changeMetadata place (.owned _) => command = .completeAndAcknowledge place ∧
      ∃ message, custody.messages[place]? = some message ∧
        (message.id, message.metadata.claimId) ∈ custody.won ∧
        custody.executing process = some message.id ∧
        (terms.bounded → custody.isQuarantined message.id = false)
  | .changeMetadata place .replyPersisted => ∃ message, custody.messages[place]? = some message ∧
      IsShown terms custody message ∧ custody.executing process = some message.id
  | .changeMetadata place .processingAttempt => ∃ message,
      custody.messages[place]? = some message ∧ custody.executing process = some message.id
  | .createMessage recipientId delivery event => recipientId = terms.workerId ∧
      delivery ∈ custody.issued ∧ event.id = delivery.eventId ∧ event.roomId = delivery.roomId ∧
      (terms.honest → event.senderId = terms.sender event.id)
  | .quarantineDelivery id _ _ => command = .listUnread ∨ custody.executing process = some id
  | .endDelivery id => custody.executing process = some id ∧
      (terms.bounded → Settled terms custody id)
  | _ => True

/-- An execution calls for its own delivery, once it has begun. -/
def Within (process : Nat) (command : Command) (custody : Custody) (request : Call) : Prop :=
  ∀ ref, command = .completeAndAcknowledge ref →
    (∃ id, request = .beginDelivery id) ∨
      ∃ message, custody.messages[ref]? = some message ∧
        custody.executing process = some message.id

/-- A call that is allowed. -/
structure Allows (process : Nat) (command : Command) (custody : Custody) (request : Call) :
    Prop where
  permits : Permits terms process command custody request
  within : Within process command custody request

/-! ## What is assumed of the answers -/

/-- The server keeps the sender of an event and the replies that it has shown, and
appends after what it has. -/
def ServerKeeps (process : Nat) (custody : Custody) (response : Response) : Call → Prop
  | .listRoomEvent delivery => ∀ event, response.told terms.workerId delivery = .ok event →
      event.senderId = terms.sender event.id
  | .findExistingReply roomId replyMessageId _ => ∀ toGo afterSequence page,
      response.pages toGo afterSequence = .ok page →
        ∃ history : RoomHistory, history.IsPage roomId afterSequence page ∧
          ∀ seen ∈ custody.seen, custody.executing process = some seen.deliveryId →
            seen.roomId = roomId → ShowsReply terms.workerId replyMessageId seen.event →
            ∃ event ∈ history.events, isReply terms.workerId replyMessageId event = true ∧
              sequenceOf event = sequenceOf seen.event
  | .appendReply message text replyMessageId => ∀ reply sequence,
      response.replied terms.workerId message text replyMessageId = .ok (reply, sequence) →
        message.metadata.delivery.roomSequence < sequence
  | _ => True

/-- The failure of a request that an execution makes under its claim. -/
def failureOf : (request : Call) → Answer request → Option Failure
  | .findExistingReply _ _ _, .error failure => some failure
  | .generate _, .error failure => some failure
  | .appendReply _ _ _, .error failure => some failure
  | .ack _ _, .error failure => some failure
  | _, _ => none

/-- The failures on which a message is dropped and its attempt is not counted. -/
def isUncounted (failure : Failure) : Bool :=
  isDefinitiveClaimDenial failure || failure.isOwnershipError

/-- Under its claim an execution meets no failure that drops its message, before its
reply is durable, and no listing quarantines a delivery that is executed. -/
def CountsAttempts (process : Nat) (command : Command) (custody : Custody) (request : Call)
    (response : Response) : Prop :=
  match command with
  | .completeAndAcknowledge ref => ∀ failure,
      failureOf request
          (performCustody terms.workerId process custody request response).2 = some failure →
        isUncounted failure = false ∨
          ∃ message, custody.messages[ref]? = some message ∧
            message.metadata.replyPersisted = true
  | .listUnread => ∀ id reason message, request = .quarantineDelivery id reason message →
      custody.isActive id = false
  | _ => True

/-- What the answers are assumed to be. -/
structure Meets (process : Nat) (command : Command) (custody : Custody) (request : Call)
    (response : Response) : Prop where
  honest : terms.honest → ServerKeeps terms process custody response request
  bounded : terms.bounded → CountsAttempts terms process command custody request response

end

/-! ## Frames -/

/-- A message that was created for a delivery and not worked on. -/
structure Created (terms : Terms) (custody : Custody) (message : Message) : Prop where
  delivery : message.metadata.delivery ∈ custody.issued
  told : Told terms message
  owned : message.metadata.owned = false
  persisted : message.metadata.replyPersisted = false
  attempts : message.metadata.processingAttempts = 0

/-- A call that is no work on a message. -/
structure Frame (terms : Terms) (custody after : Custody) : Prop where
  executing : after.executing = custody.executing
  generated : after.generated = custody.generated
  custodies : after.custodies = custody.custodies
  quarantined : after.isQuarantined = custody.isQuarantined
  active : after.isActive = custody.isActive
  acknowledged : custody.acknowledged ⊆ after.acknowledged
  won : custody.won ⊆ after.won
  skipped : custody.skipped ⊆ after.skipped
  seen : custody.seen ⊆ after.seen
  known : terms.honest → ∀ seen ∈ after.seen, seen ∈ custody.seen ∨ IsKnown terms after seen
  issued : after.issued = custody.issued ∨
    ∃ delivery, delivery.id = custody.issued.length + 1 ∧
      after.issued = custody.issued ++ [delivery]
  kept : ∀ (ref : Nat) (message : Message), custody.messages[ref]? = some message →
    ∃ later, after.messages[ref]? = some later ∧ Steady message later
  origin : ∀ (ref : Nat) (message : Message), after.messages[ref]? = some message →
    (∃ before, custody.messages[ref]? = some before ∧ Steady before message ∧
      (message.metadata.owned = true → before.metadata.owned = true ∨
        (message.id, message.metadata.claimId) ∈ after.won)) ∨
    (custody.messages[ref]? = none ∧ Created terms after message)

section

variable {terms : Terms} {process id : Nat} {custody after : Custody}

theorem Frame.issued_subset (frame : Frame terms custody after) : custody.issued ⊆ after.issued := by
  rcases frame.issued with same | ⟨delivery, -, isMore⟩
  · rw [same]
    exact List.Subset.refl _
  · rw [isMore]
    exact List.subset_append_left _ _

theorem IsKnown.later {seen : Seen} (isKnown : IsKnown terms custody seen)
    (issued : custody.issued ⊆ after.issued) : IsKnown terms after seen := by
  obtain ⟨delivery, isIssued, shows⟩ := isKnown
  exact ⟨delivery, issued isIssued, shows⟩

/-- A message that was not there has no calls. -/
theorem Holds.uncounted (holds : Holds terms custody) {ref : Nat}
    (isNone : custody.messages[ref]? = none) :
    custody.generated.count ref = 0 ∧ custody.custodies.count ref = 0 := by
  have beyond := List.getElem?_eq_none_iff.mp isNone
  have absent : ¬ (ref ∈ custody.generated ∨ ref ∈ custody.custodies) := by
    intro isCounted
    have within := holds.counted ref isCounted
    omega
  exact ⟨List.count_eq_zero.mpr fun member => absent (.inl member),
    List.count_eq_zero.mpr fun member => absent (.inr member)⟩

section

variable (frame : Frame terms custody after) (holds : Holds terms custody)
include frame holds

theorem Frame.spared (id : Nat) :
    Spared terms id custody after where
  quarantined _ := by rw [frame.quarantined]
  messages ref message isMessage _ := by
    rcases frame.origin ref message isMessage with ⟨before, isBefore, steady, -⟩ | ⟨isNew, created⟩
    · exact .inl ⟨by rw [frame.generated], by rw [frame.custodies], before, isBefore, steady⟩
    · obtain ⟨noCalls, noClaims⟩ := holds.uncounted isNew
      refine .inr ⟨isNew, created.persisted, created.attempts, ?_, ?_⟩
      · rw [frame.generated]
        exact noCalls
      · rw [frame.custodies]
        exact noClaims

/-- A frame leaves every process what it relies on. -/
theorem Frame.later (process : Nat) : Later terms process custody after where
  messages ref message isMessage := by
    obtain ⟨later, isLater, steady⟩ := frame.kept ref message isMessage
    exact ⟨later, isLater, steady.evolves⟩
  issued := frame.issued_subset
  acknowledged := frame.acknowledged
  won := frame.won
  skipped := frame.skipped
  seen := frame.seen
  executing := by rw [frame.executing]
  spared id _ := frame.spared holds id

end

theorem Holds.message (holds : Holds terms custody) {ref : Nat} {message : Message}
    (isMessage : custody.messages[ref]? = some message) :
    message.metadata.delivery ∈ custody.issued ∧ Told terms message :=
  holds.told message (List.mem_of_getElem? isMessage)

theorem distinct_append (holds : Holds terms custody) {delivery : Delivery}
    (isNew : delivery.id = custody.issued.length + 1) :
    ∀ first ∈ custody.issued ++ [delivery], ∀ second ∈ custody.issued ++ [delivery],
      first.id = second.id → first = second := by
  intro first isFirst second isSecond same
  rcases List.mem_append.mp isFirst with old | new <;>
    rcases List.mem_append.mp isSecond with otherOld | otherNew
  · exact holds.distinct first old second otherOld same
  · have bound := holds.numbered first old
    rw [List.mem_singleton.mp otherNew, isNew] at same
    omega
  · have bound := holds.numbered second otherOld
    rw [List.mem_singleton.mp new, isNew] at same
    omega
  · rw [List.mem_singleton.mp new, List.mem_singleton.mp otherNew]

/-- A frame keeps the invariant. -/
theorem Frame.holds (frame : Frame terms custody after) (holds : Holds terms custody) :
    Holds terms after where
  distinct := by
    rcases frame.issued with same | ⟨delivery, isNew, isMore⟩
    · rw [same]
      exact holds.distinct
    · rw [isMore]
      exact distinct_append holds isNew
  numbered := by
    rcases frame.issued with same | ⟨delivery, isNew, isMore⟩
    · rw [same]
      exact holds.numbered
    · rw [isMore]
      intro other member
      rw [List.length_append, List.length_singleton]
      rcases List.mem_append.mp member with old | new
      · have bound := holds.numbered other old
        omega
      · rw [List.mem_singleton.mp new]
        omega
  told message member := by
    obtain ⟨ref, isMessage⟩ := List.getElem?_of_mem member
    rcases frame.origin ref message isMessage with ⟨before, isBefore, steady, -⟩ | ⟨-, created⟩
    · obtain ⟨isIssued, told⟩ := holds.message isBefore
      refine ⟨?_, steady.evolves.told told⟩
      rw [steady.evolves.delivery]
      exact frame.issued_subset isIssued
    · exact ⟨created.delivery, created.told⟩
  owned message member isOwned := by
    obtain ⟨ref, isMessage⟩ := List.getElem?_of_mem member
    rcases frame.origin ref message isMessage with
      ⟨before, isBefore, steady, wasOwned⟩ | ⟨-, created⟩
    · rcases wasOwned isOwned with still | isWon
      · rw [steady.evolves.id, steady.evolves.claimId]
        exact frame.won (holds.owned before (List.mem_of_getElem? isBefore) still)
      · exact isWon
    · rw [created.owned] at isOwned
      cases isOwned
  persisted message member isPersisted := by
    obtain ⟨ref, isMessage⟩ := List.getElem?_of_mem member
    rcases frame.origin ref message isMessage with ⟨before, isBefore, steady, -⟩ | ⟨-, created⟩
    · rw [steady.replied] at isPersisted
      exact (holds.persisted before (List.mem_of_getElem? isBefore) isPersisted).later
        steady.evolves frame.seen
    · rw [created.persisted] at isPersisted
      cases isPersisted
  known isHonest seen member := by
    rcases frame.known isHonest seen member with old | isKnown
    · exact (holds.known isHonest seen old).later frame.issued_subset
    · exact isKnown
  active process id isExecuting := by
    rw [frame.executing] at isExecuting
    rw [frame.active]
    exact holds.active process id isExecuting
  alone process other id isExecuting isOther := by
    rw [frame.executing] at isExecuting isOther
    exact holds.alone process other id isExecuting isOther
  counted ref isCounted := by
    rw [frame.generated, frame.custodies] at isCounted
    have isOld := holds.counted ref isCounted
    obtain ⟨later, isLater, -⟩ := frame.kept ref _ (List.getElem?_eq_getElem isOld)
    exact (List.getElem?_eq_some_iff.mp isLater).1
  generated isBounded ref := by
    rw [frame.generated]
    exact holds.generated isBounded ref
  settled isBounded id isIdle := by
    rw [frame.active] at isIdle
    intro ref message isMessage isAbout
    exact (frame.spared holds id).clear isBounded frame.acknowledged isMessage isAbout
      fun before isBefore isAboutToo =>
        holds.settled isBounded id isIdle ref before isBefore isAboutToo

/-! ## Calls that are no work -/

/-- What a call needs to be so when it is carried out. -/
def Needs (terms : Terms) (process : Nat) (command : Command) (custody : Custody) : Call → Prop
  | .appendReply given _ replyMessageId => ∃ (ref : Nat) (message : Message),
      custody.messages[ref]? = some message ∧ Evolves given message ∧
        replyMessageId = terms.replyMessageId given ∧ custody.executing process = some given.id
  | .findExistingReply roomId replyMessageId startSequence => ∃ (ref : Nat) (message : Message),
      custody.messages[ref]? = some message ∧ custody.executing process = some message.id ∧
        roomId = message.contextId ∧ replyMessageId = terms.replyMessageId message ∧
        startSequence = message.metadata.delivery.roomSequence
  | .changeMetadata place (.owned _) => ∃ message, custody.messages[place]? = some message ∧
      (message.id, message.metadata.claimId) ∈ custody.won
  | .changeMetadata place .replyPersisted => ∃ message, custody.messages[place]? = some message ∧
      IsShown terms custody message ∧ custody.executing process = some message.id
  | .changeMetadata place .processingAttempt => ∃ message,
      custody.messages[place]? = some message ∧ custody.executing process = some message.id
  | .createMessage recipientId delivery event => recipientId = terms.workerId ∧
      delivery ∈ custody.issued ∧ event.id = delivery.eventId ∧ event.roomId = delivery.roomId ∧
      (terms.honest → event.senderId = terms.sender event.id)
  | .quarantineDelivery id _ _ => command = .listUnread ∨ custody.executing process = some id
  | .endDelivery id => custody.executing process = some id ∧
      (terms.bounded → Settled terms custody id)
  | _ => True

/-- What is noted changes nothing but the counts. -/
theorem issueCustody_eq (process : Nat) (command : Command) (custody : Custody) (request : Call) :
    ∃ generated custodies,
      issueCustody process command custody request = { custody with generated, custodies } := by
  unfold issueCustody
  split
  · exact ⟨_, _, rfl⟩
  · exact ⟨_, _, rfl⟩
  · exact ⟨_, _, rfl⟩

theorem issueCustody_end (process : Nat) (command : Command) (custody : Custody) (id : Nat) :
    issueCustody process command custody (.endDelivery id) = custody := by
  cases command <;> rfl

/-- What a call needed when it was issued, it still has. -/
theorem Permits.needs {command : Command} {request : Call}
    (permits : Permits terms process command custody request)
    (isLater : Later terms process (issueCustody process command custody request) after) :
    Needs terms process command after request := by
  cases request with
  | endDelivery id =>
      rw [issueCustody_end] at isLater
      obtain ⟨isExecuting, settled⟩ := permits
      refine ⟨isLater.executing.trans isExecuting, fun isBounded => ?_⟩
      exact isLater.settled isBounded isExecuting (settled isBounded)
  | appendReply given text replyMessageId =>
      obtain ⟨ref, message, -, isMessage, evolves, -, isKey, isExecuting⟩ := permits
      obtain ⟨generated, custodies, isNoted⟩ := issueCustody_eq process command custody
        (.appendReply given text replyMessageId)
      rw [isNoted] at isLater
      obtain ⟨later, isThen, more⟩ := isLater.messages ref message isMessage
      exact ⟨ref, later, isThen, evolves.trans more, isKey, isLater.executing.trans isExecuting⟩
  | findExistingReply roomId replyMessageId startSequence =>
      obtain ⟨ref, message, -, isMessage, isExecuting, isRoom, isKey, isStart⟩ := permits
      obtain ⟨generated, custodies, isNoted⟩ := issueCustody_eq process command custody
        (.findExistingReply roomId replyMessageId startSequence)
      rw [isNoted] at isLater
      obtain ⟨later, isThen, evolves⟩ := isLater.messages ref message isMessage
      refine ⟨ref, later, isThen, ?_, ?_, ?_, ?_⟩
      · rw [isLater.executing, evolves.id]
        exact isExecuting
      · rw [evolves.contextId]
        exact isRoom
      · rw [evolves.replyMessageId]
        exact isKey
      · rw [evolves.delivery]
        exact isStart
  | createMessage recipientId delivery event =>
      obtain ⟨isWorker, isIssued, told⟩ := permits
      obtain ⟨generated, custodies, isNoted⟩ := issueCustody_eq process command custody
        (.createMessage recipientId delivery event)
      rw [isNoted] at isLater
      exact ⟨isWorker, isLater.issued isIssued, told⟩
  | quarantineDelivery id reason message =>
      obtain ⟨generated, custodies, isNoted⟩ := issueCustody_eq process command custody
        (.quarantineDelivery id reason message)
      rw [isNoted] at isLater
      exact permits.imp_right isLater.executing.trans
  | changeMetadata place change =>
      obtain ⟨generated, custodies, isNoted⟩ := issueCustody_eq process command custody
        (.changeMetadata place change)
      rw [isNoted] at isLater
      cases change with
      | owned leaseExpiresAt =>
          obtain ⟨-, message, isMessage, isWon, -, -⟩ := permits
          obtain ⟨later, isThen, evolves⟩ := isLater.messages place message isMessage
          refine ⟨later, isThen, ?_⟩
          rw [evolves.id, evolves.claimId]
          exact isLater.won isWon
      | replyPersisted =>
          obtain ⟨message, isMessage, isShown, isExecuting⟩ := permits
          obtain ⟨later, isThen, evolves⟩ := isLater.messages place message isMessage
          refine ⟨later, isThen, isShown.later evolves isLater.seen, ?_⟩
          rw [isLater.executing, evolves.id]
          exact isExecuting
      | processingAttempt =>
          obtain ⟨message, isMessage, isExecuting⟩ := permits
          obtain ⟨later, isThen, evolves⟩ := isLater.messages place message isMessage
          refine ⟨later, isThen, ?_⟩
          rw [isLater.executing, evolves.id]
          exact isExecuting
      | _ => trivial
  | _ => trivial

/-- The calls that are work on a message or change who executes it. -/
def isWork : Call → Bool
  | .changeMetadata _ change => change.works
  | .quarantineDelivery _ _ _ => true
  | .beginDelivery _ => true
  | .endDelivery _ => true
  | _ => false

end

end Triangle.MailboxClient
