import Triangle.MailboxClient.Cursor
import Triangle.MailboxClient.Custody

/-!
# What an execution relies on

The invariant of a client with its history, and what the turns of the others leave to
the execution of a delivery. Nobody else executes the delivery, gives its messages to the
model or counts their attempts; a claim that was lost stays lost.

Two things are assumed where `Terms` says so: that the server keeps the events of a room
(`honest`), and that no exit drops a message without counting its attempt (`bounded`).
-/

namespace Triangle.MailboxClient

open Triangle.Std Triangle.Semantics

/-- A client, the sender of each event, and what is assumed. -/
structure Terms where
  options : Options
  digest : String → String
  sender : String → String
  honest : Prop
  bounded : Prop
  positive : bounded → 0 < options.maxDeliveryAttempts

/-- The event is of the worker, as the client reads its sender, and has the key. -/
def ShowsReply (workerId replyMessageId : String) (event : Json) : Prop :=
  (∃ sender, field event "senderAgentId" = some (.str sender) ∧
    (sender = workerId ∨ trim sender = workerId)) ∧
  isText (pickEventIdempotencyKey event) replyMessageId = true

namespace Terms

variable (terms : Terms)

def workerId : String :=
  terms.options.recipientId

def replyMessageId (message : Message) : String :=
  deterministicMailboxReplyMessageId terms.digest message

/-- The reply key of every message of a delivery, if events keep their senders. -/
def deliveryKey (delivery : Delivery) : String :=
  terms.replyMessageId
    { messageId := delivery.eventId, taskId := delivery.eventId, contextId := delivery.roomId,
      senderId := terms.sender delivery.eventId, recipientId := terms.workerId, text := "",
      replyRequired := true, metadata := { delivery, claimId := "" } }

end Terms

namespace Custody

variable (custody : Custody)

def issued : List Delivery :=
  custody.client.server.issued

def acknowledged : List Nat :=
  custody.client.acknowledged

def isQuarantined (id : Nat) : Bool :=
  custody.client.memory.isQuarantined id

def isActive (id : Nat) : Bool :=
  custody.client.memory.activeDeliveries id

end Custody

/-- A reply to the message was shown. -/
def IsShown (terms : Terms) (custody : Custody) (message : Message) : Prop :=
  ∃ seen ∈ custody.seen, seen.deliveryId = message.id ∧ seen.roomId = message.contextId ∧
    ShowsReply terms.workerId (terms.replyMessageId message) seen.event

/-- What was shown replies to a delivery, and comes after it in the room. -/
def IsKnown (terms : Terms) (custody : Custody) (seen : Seen) : Prop :=
  ∃ delivery ∈ custody.issued, delivery.id = seen.deliveryId ∧ seen.roomId = delivery.roomId ∧
    ShowsReply terms.workerId (terms.deliveryKey delivery) seen.event ∧
    delivery.roomSequence < sequenceOf seen.event

/-- A message as it was created for its delivery. -/
structure Told (terms : Terms) (message : Message) : Prop where
  recipientId : message.recipientId = terms.workerId
  messageId : message.messageId = message.metadata.delivery.eventId
  taskId : message.taskId = message.metadata.delivery.eventId
  contextId : message.contextId = message.metadata.delivery.roomId
  senderId : terms.honest → message.senderId = terms.sender message.metadata.delivery.eventId

theorem Told.replyMessageId {terms : Terms} {message : Message} (told : Told terms message)
    (isHonest : terms.honest) :
    terms.replyMessageId message = terms.deliveryKey message.metadata.delivery := by
  unfold Terms.deliveryKey Terms.replyMessageId deterministicMailboxReplyMessageId
  rw [told.recipientId, told.messageId, told.taskId, told.contextId, told.senderId isHonest]

/-! ## Messages over time -/

/-- A message later on: the same one, with what was lost and what was replied. -/
structure Evolves (before after : Message) : Prop where
  same : { after with metadata := before.metadata } = before
  delivery : after.metadata.delivery = before.metadata.delivery
  claimId : after.metadata.claimId = before.metadata.claimId
  owned : before.metadata.owned = true →
    after.metadata.owned = true ∨ after.metadata.ownershipLost = true
  lost : before.metadata.ownershipLost = true → after.metadata.ownershipLost = true
  persisted : before.metadata.replyPersisted = true → after.metadata.replyPersisted = true

/-- A message on which no work was done. -/
structure Steady (before after : Message) : Prop where
  evolves : Evolves before after
  attempts : after.metadata.processingAttempts = before.metadata.processingAttempts
  replied : after.metadata.replyPersisted = before.metadata.replyPersisted

section

variable {before middle after : Message}

theorem Evolves.refl (message : Message) : Evolves message message :=
  ⟨rfl, rfl, rfl, .inl, id, id⟩

theorem Evolves.trans (first : Evolves before middle) (second : Evolves middle after) :
    Evolves before after where
  same := by
    have early := first.same
    have late := second.same
    rw [← late] at early
    exact early
  delivery := second.delivery.trans first.delivery
  claimId := second.claimId.trans first.claimId
  owned isOwned := by
    rcases first.owned isOwned with still | lost
    · exact second.owned still
    · exact .inr (second.lost lost)
  lost isLost := second.lost (first.lost isLost)
  persisted isPersisted := second.persisted (first.persisted isPersisted)

section

variable (evolves : Evolves before after)
include evolves

theorem Evolves.id : after.id = before.id :=
  congrArg Delivery.id evolves.delivery

theorem Evolves.replyMessageId (terms : Terms) :
    terms.replyMessageId after = terms.replyMessageId before := by
  rw [← evolves.same]
  rfl

theorem Evolves.contextId : after.contextId = before.contextId := by
  rw [← evolves.same]

theorem Evolves.replyRequired : after.replyRequired = before.replyRequired := by
  rw [← evolves.same]

theorem Evolves.told {terms : Terms} (told : Told terms before) : Told terms after := by
  obtain ⟨recipientId, messageId, taskId, contextId, senderId⟩ := told
  have same := evolves.same
  have isDelivery := evolves.delivery
  rw [← same] at recipientId messageId taskId contextId senderId
  refine ⟨recipientId, ?_, ?_, ?_, ?_⟩
  · rw [isDelivery]
    exact messageId
  · rw [isDelivery]
    exact taskId
  · rw [isDelivery]
    exact contextId
  · rw [isDelivery]
    exact senderId

end

theorem Steady.refl (message : Message) : Steady message message :=
  ⟨.refl message, rfl, rfl⟩

theorem Steady.trans (first : Steady before middle) (second : Steady middle after) :
    Steady before after :=
  ⟨first.evolves.trans second.evolves, second.attempts.trans first.attempts,
    second.replied.trans first.replied⟩

end

/-- What a change of metadata does to a message. -/
def Message.changed (message : Message) (change : MetadataChange) : Message :=
  { message with metadata := change.apply message.metadata }

theorem evolves_changed (message : Message) (change : MetadataChange) :
    Evolves message (message.changed change) := by
  cases change with
  | owned leaseExpiresAt => exact ⟨rfl, rfl, rfl, fun _ => .inl rfl, id, id⟩
  | lost => exact ⟨rfl, rfl, rfl, fun _ => .inr rfl, fun _ => rfl, id⟩
  | replyPersisted => exact ⟨rfl, rfl, rfl, .inl, id, fun _ => rfl⟩
  | _ => exact ⟨rfl, rfl, rfl, .inl, id, id⟩

/-- The changes that are work on a message. -/
def MetadataChange.works : MetadataChange → Bool
  | .replyPersisted => true
  | .processingAttempt => true
  | _ => false

theorem steady_changed (message : Message) {change : MetadataChange} (idle : change.works = false) :
    Steady message (message.changed change) := by
  refine ⟨evolves_changed message change, ?_, ?_⟩
  · cases change with
    | processingAttempt => cases idle
    | _ => rfl
  · cases change with
    | replyPersisted => cases idle
    | _ => rfl

/-! ## Attempts -/

section

variable (terms : Terms) (custody : Custody)

/-- More calls were made for a message than its attempts account for. -/
def Owes (calls : List Nat) (ref : Nat) (message : Message) (open_ : Nat) : Prop :=
  message.metadata.replyPersisted = false ∧ message.metadata.ownershipLost = false ∧
    message.metadata.processingAttempts + open_ < calls.count ref

/-- The model calls and the won claims of a message are counted, but for the open ones. -/
structure Accounted (ref : Nat) (message : Message) (openCalls openClaims : Nat) : Prop where
  generated : ¬ Owes custody.generated ref message openCalls
  custodies : message.id ∈ custody.acknowledged ∨ custody.isQuarantined message.id = true ∨
    ¬ Owes custody.custodies ref message openClaims

/-- A message of which every attempt is counted and none is left over. -/
structure Clear (ref : Nat) (message : Message) : Prop where
  accounted : Accounted custody ref message 0 0
  attempts : message.metadata.processingAttempts < terms.options.maxDeliveryAttempts ∨
    custody.isQuarantined message.id = true

/-- Every message of a delivery is clear. -/
def Settled (id : Nat) : Prop :=
  ∀ (ref : Nat) (message : Message), custody.messages[ref]? = some message → message.id = id →
    Clear terms custody ref message

/-! ## The invariant -/

/-- The invariant of a client with its history. -/
structure Holds : Prop where
  distinct : ∀ delivery ∈ custody.issued, ∀ other ∈ custody.issued, delivery.id = other.id →
    delivery = other
  numbered : ∀ delivery ∈ custody.issued, delivery.id ≤ custody.issued.length
  told : ∀ message ∈ custody.messages,
    message.metadata.delivery ∈ custody.issued ∧ Told terms message
  owned : ∀ message ∈ custody.messages, message.metadata.owned = true →
    (message.id, message.metadata.claimId) ∈ custody.won
  persisted : ∀ message ∈ custody.messages, message.metadata.replyPersisted = true →
    IsShown terms custody message
  known : terms.honest → ∀ seen ∈ custody.seen, IsKnown terms custody seen
  active : ∀ process id, custody.executing process = some id → custody.isActive id = true
  alone : ∀ process other id, custody.executing process = some id →
    custody.executing other = some id → process = other
  counted : ∀ ref, ref ∈ custody.generated ∨ ref ∈ custody.custodies →
    ref < custody.messages.length
  generated : terms.bounded → ∀ ref,
    custody.generated.count ref ≤ terms.options.maxDeliveryAttempts
  settled : terms.bounded → ∀ id, custody.isActive id = false → Settled terms custody id

end

/-- A message without any work. -/
structure Fresh (custody : Custody) (ref : Nat) (message : Message) : Prop where
  persisted : message.metadata.replyPersisted = false
  attempts : message.metadata.processingAttempts = 0
  generated : custody.generated.count ref = 0
  custodies : custody.custodies.count ref = 0

/-- What the others leave to an execution: no work on the messages of its delivery. -/
structure Spared (terms : Terms) (id : Nat) (custody after : Custody) : Prop where
  quarantined : terms.bounded → after.isQuarantined id = custody.isQuarantined id
  messages : ∀ (ref : Nat) (message : Message), after.messages[ref]? = some message → message.id = id →
    (after.generated.count ref = custody.generated.count ref ∧
      after.custodies.count ref = custody.custodies.count ref ∧
      ∃ before, custody.messages[ref]? = some before ∧ Steady before message) ∨
    (custody.messages[ref]? = none ∧ Fresh after ref message)

/-- What a process may rely on while the others take their turns. -/
structure Later (terms : Terms) (process : Nat) (custody after : Custody) : Prop where
  messages : ∀ (ref : Nat) (message : Message), custody.messages[ref]? = some message →
    ∃ later, after.messages[ref]? = some later ∧ Evolves message later
  issued : custody.issued ⊆ after.issued
  acknowledged : custody.acknowledged ⊆ after.acknowledged
  won : custody.won ⊆ after.won
  skipped : custody.skipped ⊆ after.skipped
  seen : custody.seen ⊆ after.seen
  executing : after.executing process = custody.executing process
  spared : ∀ id, custody.executing process = some id → Spared terms id custody after

section

variable {terms : Terms} {process id : Nat} {custody middle after : Custody}

theorem Later.refl (process : Nat) (custody : Custody) : Later terms process custody custody where
  messages _ message isMessage := ⟨message, isMessage, .refl message⟩
  issued := List.Subset.refl _
  acknowledged := List.Subset.refl _
  won := List.Subset.refl _
  skipped := List.Subset.refl _
  seen := List.Subset.refl _
  executing := rfl
  spared _ _ :=
    ⟨fun _ => rfl,
      fun _ message isMessage _ => .inl ⟨rfl, rfl, message, isMessage, .refl message⟩⟩

theorem Spared.trans (first : Spared terms id custody middle) (second : Spared terms id middle after)
    (kept : ∀ (ref : Nat) (message : Message), custody.messages[ref]? = some message →
      ∃ later, middle.messages[ref]? = some later ∧ Evolves message later) :
    Spared terms id custody after where
  quarantined isBounded := (second.quarantined isBounded).trans (first.quarantined isBounded)
  messages ref message isMessage isAbout := by
    rcases second.messages ref message isMessage isAbout with
      ⟨sameCalls, sameClaims, between, isBetween, steady⟩ | ⟨isNew, fresh⟩
    · have isAboutToo : between.id = id := by rw [← isAbout, steady.evolves.id]
      rcases first.messages ref between isBetween isAboutToo with
        ⟨firstCalls, firstClaims, before, isBefore, firstSteady⟩ | ⟨isNew, fresh⟩
      · exact .inl ⟨sameCalls.trans firstCalls, sameClaims.trans firstClaims, before, isBefore,
          firstSteady.trans steady⟩
      · exact .inr ⟨isNew, steady.replied.trans fresh.persisted,
          steady.attempts.trans fresh.attempts, sameCalls.trans fresh.generated,
          sameClaims.trans fresh.custodies⟩
    · right
      refine ⟨?_, fresh⟩
      cases isOld : custody.messages[ref]? with
      | none => rfl
      | some before =>
          obtain ⟨later, isLater, -⟩ := kept ref before isOld
          rw [isNew] at isLater
          cases isLater

theorem Later.trans (first : Later terms process custody middle)
    (second : Later terms process middle after) : Later terms process custody after where
  messages ref message isMessage := by
    obtain ⟨between, isBetween, early⟩ := first.messages ref message isMessage
    obtain ⟨later, isLater, late⟩ := second.messages ref between isBetween
    exact ⟨later, isLater, early.trans late⟩
  issued := List.Subset.trans first.issued second.issued
  acknowledged := List.Subset.trans first.acknowledged second.acknowledged
  won := List.Subset.trans first.won second.won
  skipped := List.Subset.trans first.skipped second.skipped
  seen := List.Subset.trans first.seen second.seen
  executing := second.executing.trans first.executing
  spared id isExecuting :=
    (first.spared id isExecuting).trans
      (second.spared id (by rw [first.executing, isExecuting])) first.messages

theorem Fresh.clear (isBounded : terms.bounded) {ref : Nat} {message : Message}
    (fresh : Fresh custody ref message) : Clear terms custody ref message where
  accounted :=
    { generated := by
        rintro ⟨-, -, owes⟩
        rw [fresh.generated] at owes
        omega
      custodies := by
        refine .inr (.inr ?_)
        rintro ⟨-, -, owes⟩
        rw [fresh.custodies] at owes
        omega }
  attempts := by
    left
    rw [fresh.attempts]
    exact terms.positive isBounded

/-- What is owed is owed before, when no work was done. -/
theorem Owes.before {calls later : List Nat} {ref openCalls : Nat} {before message : Message}
    (steady : Steady before message) (same : later.count ref = calls.count ref)
    (owes : Owes later ref message openCalls) : Owes calls ref before openCalls := by
  obtain ⟨unreplied, held, more⟩ := owes
  refine ⟨steady.replied.symm.trans unreplied, ?_, ?_⟩
  · cases isLost : before.metadata.ownershipLost with
    | false => rfl
    | true => rw [steady.evolves.lost isLost] at held; cases held
  · rw [same, steady.attempts] at more
    exact more

theorem Accounted.steady {ref openCalls openClaims : Nat} {before message : Message}
    (accounted : Accounted custody ref before openCalls openClaims)
    (acknowledged : custody.acknowledged ⊆ after.acknowledged)
    (quarantined : after.isQuarantined before.id = custody.isQuarantined before.id)
    (generated : after.generated.count ref = custody.generated.count ref)
    (custodies : after.custodies.count ref = custody.custodies.count ref)
    (steady : Steady before message) : Accounted after ref message openCalls openClaims where
  generated owes := accounted.generated (owes.before steady generated)
  custodies := by
    rw [steady.evolves.id, quarantined]
    rcases accounted.custodies with isDone | isHeld | notOwed
    · exact .inl (acknowledged isDone)
    · exact .inr (.inl isHeld)
    · exact .inr (.inr fun owes => notOwed (owes.before steady custodies))

/-- A clear message stays clear while the others take their turns. -/
theorem Spared.clear (isBounded : terms.bounded) (spared : Spared terms id custody after)
    (acknowledged : custody.acknowledged ⊆ after.acknowledged) {ref : Nat} {message : Message}
    (isMessage : after.messages[ref]? = some message) (isAbout : message.id = id)
    (wasClear : ∀ before, custody.messages[ref]? = some before → before.id = id →
      Clear terms custody ref before) : Clear terms after ref message := by
  rcases spared.messages ref message isMessage isAbout with
    ⟨sameCalls, sameClaims, before, isBefore, steady⟩ | ⟨-, fresh⟩
  · have isAboutToo : before.id = id := by rw [← isAbout, steady.evolves.id]
    have clear := wasClear before isBefore isAboutToo
    have quarantined := spared.quarantined isBounded
    rw [← isAboutToo] at quarantined
    refine ⟨clear.accounted.steady acknowledged quarantined sameCalls sameClaims steady, ?_⟩
    rw [steady.attempts, steady.evolves.id, quarantined]
    exact clear.attempts
  · exact fresh.clear isBounded

/-- A settled delivery stays settled while the others take their turns. -/
theorem Later.settled (isBounded : terms.bounded) (isLater : Later terms process custody after)
    (isExecuting : custody.executing process = some id) (settled : Settled terms custody id) :
    Settled terms after id := by
  intro ref message isMessage isAbout
  exact (isLater.spared id isExecuting).clear isBounded isLater.acknowledged isMessage isAbout
    fun before isBefore isAboutToo => settled ref before isBefore isAboutToo

theorem IsShown.later {before message : Message} (isShown : IsShown terms custody before)
    (evolves : Evolves before message) (seen : custody.seen ⊆ after.seen) :
    IsShown terms after message := by
  obtain ⟨shown, member, isDelivery, isRoom, shows⟩ := isShown
  refine ⟨shown, seen member, isDelivery.trans evolves.id.symm, ?_, ?_⟩
  · rw [evolves.contextId]
    exact isRoom
  · rw [evolves.replyMessageId]
    exact shows

end

end Triangle.MailboxClient
