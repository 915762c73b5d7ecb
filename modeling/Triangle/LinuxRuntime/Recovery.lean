import Mathlib.Data.List.Pairwise
import Triangle.LinuxRuntime.Search

/-!
# The way out of every journal

What a cycle does from each journal when the network and the runner work. A
cycle ends in one of three ways: the delivery is acknowledged and the journal
cleared, the record is quarantined, or, where the delivered event cannot be
handed, it throws and leaves the record claimed.
-/

namespace Triangle.LinuxRuntime

open Triangle.Std Triangle.Semantics

/-- The lease of the cycle is held. -/
def Owned (works : Works) (world : World) : Prop :=
  ∃ lease, world.lease = some lease ∧ works.now < lease.expiresAt ∧
    lease.controllerAborted = false ∧ lease.signalAborted = false

/-- The world after an acknowledgement and the clearing of the journal. -/
def acknowledged (world : World) (record : Record) : World :=
  { world.note [.acked record world.journal] with
    acked := record.deliveryId :: world.acked, journal := none }

section

variable {custodian : Custodian} {works : Works} {world later : World} {record : Record}
  {ε α : Type}

/-! ## Steps of the guarded block -/

theorem Owned.of_lease (owned : Owned works world) (same : later.lease = world.lease) :
    Owned works later := by
  obtain ⟨lease, isLease, alive⟩ := owned
  exact ⟨lease, same.trans isLease, alive⟩

theorem Owned.not_aborted (owned : Owned works world) : world.isAborted = false := by
  obtain ⟨lease, isLease, -, notController, notSignal⟩ := owned
  simp [World.isAborted, isLease, notController, notSignal]

variable {program : Program Call Answer ε α} {result : Except ε α} {task : Task α} {phase : Phase}
  {events : List Event} {roomId senderAgentId key : String} {delivery : Delivery}

section

variable (ends : works.exec custodian world program = (later, result))
include ends

theorem exec_mapError {δ : Type} {change : ε → δ} :
    works.exec custodian world (program.mapError change) = (later, result.mapError change) := by
  rw [Works.exec, Program.exec_mapError]
  rw [Works.exec] at ends
  rw [ends]

theorem exec_outcome : works.exec custodian world program.outcome = (later, .ok result) := by
  rw [Works.exec, Program.exec_outcome]
  rw [Works.exec] at ends
  rw [ends]

end

theorem exec_within {value : α} (returns : works.exec custodian world task = (later, .ok value)) :
    works.exec custodian world (within record task) = (later, .ok value) :=
  exec_mapError returns

theorem exec_within_error {problem : CustodianError}
    (throws : works.exec custodian world task = (later, .error problem)) :
    works.exec custodian world (within record task) = (later, .error (problem, record)) :=
  exec_mapError throws

theorem exec_health (state : Health) :
    works.exec custodian world (health state) = (world, .ok ()) :=
  exec_ask! rfl

theorem exec_assertOwner (owned : Owned works world) :
    works.exec custodian world (assertOwner record) = (world, .ok ()) := by
  obtain ⟨lease, isLease, alive, notController, notSignal⟩ := owned
  have answer : works.handle custodian world .assertOwner = (world, true) := by
    have notExpired : ¬ lease.expiresAt ≤ works.now := by omega
    simp [Works.handle, Works.choice, perform, isLease, notExpired, World.isAborted, notController,
      notSignal]
  have asked : works.exec custodian world (ask .assertOwner : Try Bool) = (world, .ok true) := by
    rw [exec_ask, answer]
  rw [assertOwner, exec_then asked, Program.ensure, if_pos rfl]
  rfl

theorem exec_storeSave (checked : record.Checked custodian) :
    works.exec custodian world (storeSave custodian record) = (world.saved record, .ok ()) := by
  rw [storeSave, exec_guard checked]
  exact exec_ask! rfl

theorem exec_save (checked : (record.enter phase works.now).Checked custodian) :
    works.exec custodian world (save custodian record phase) =
      (world.saved (record.enter phase works.now), .ok (record.enter phase works.now)) := by
  have asked : works.exec custodian world (ask .now : Try Int) = (world, .ok works.now) := exec_ask _
  rw [save, exec_then asked, exec_then (exec_within (exec_storeSave checked))]
  rfl

theorem exec_quarantine (reason : Reason)
    (checked : (({ record with reason := some reason } : Record).enter .quarantined
      works.now).Checked custodian) :
    works.exec custodian world (quarantine custodian record reason) =
      (world.saved (({ record with reason := some reason } : Record).enter .quarantined works.now),
        .ok .quarantined) := by
  rw [quarantine, exec_then (exec_save checked), exec_then (exec_within (exec_health _))]
  rfl

theorem exec_ack (transmits : record.Transmits) (mayAck : record.MayAck) :
    works.exec custodian world (ack record) =
      ({ world.note [.acked record world.journal] with acked := record.deliveryId :: world.acked },
        .ok ()) := by
  have asked : works.exec custodian world (ask! (.ackDelivery record) id) =
      ({ world.note [.acked record world.journal] with acked := record.deliveryId :: world.acked },
        .ok (if record.deliveryId ∈ world.acked then 0 else 1)) :=
    exec_ask! rfl
  rw [ack, exec_guard transmits, exec_guard mayAck, exec_then asked]
  have count : 0 ≤ (if record.deliveryId ∈ world.acked then (0 : Int) else 1) ∧
      (if record.deliveryId ∈ world.acked then (0 : Int) else 1) ≤ 1 := by
    split <;> omega
  rw [Program.ensure, if_pos count]
  rfl

theorem exec_acknowledge (owned : Owned works world) (transmits : record.Transmits)
    (mayAck : record.MayAck) :
    works.exec custodian world (acknowledge record) =
      (acknowledged world record, .ok .completed) := by
  rw [acknowledge, exec_then (exec_assertOwner owned),
    exec_then (exec_within (exec_ack transmits mayAck)), exec_then (exec_assertOwner ?_)]
  · have cleared : works.exec custodian
        { world.note [.acked record world.journal] with acked := record.deliveryId :: world.acked }
        (ask! .removeJournal id) = (acknowledged world record, .ok ()) :=
      exec_ask! rfl
    rw [exec_then (exec_within cleared), exec_then (exec_within (exec_health _))]
    rfl
  · exact owned.of_lease rfl

/-! ## Records -/

/-- The digests are 64 hexadecimal digits. -/
def HexDigests (custodian : Custodian) : Prop :=
  ∀ text, Text.isHex64 (custodian.sha256Hex text) = true

/-- An identifier out of a digest is one. -/
theorem ident_of_digest {lead : String} {digest : String} (hex : Text.isHex64 digest = true) :
    ident lead (lead ++ "_" ++ String.ofList (digest.toList.take 32)) = true := by
  simp only [Text.isHex64, Text.matchesClass, Text.matchesLedClass, Bool.and_eq_true,
    decide_eq_true_eq] at hex
  obtain ⟨⟨⟨-, longEnough⟩, -⟩, hexDigits⟩ := hex
  have whole : digest.toList.drop "".toList.length = digest.toList := rfl
  rw [whole] at longEnough hexDigits
  simp only [ident, Text.matchesLedClass, Bool.and_eq_true, decide_eq_true_eq,
    String.toList_append, String.toList_ofList, List.drop_left, List.length_take]
  refine ⟨⟨⟨?_, by omega⟩, by omega⟩, ?_⟩
  · exact List.isPrefixOf_iff_prefix.mpr (List.prefix_append _ _)
  · rw [List.all_eq_true] at hexDigits ⊢
    exact fun c member => hexDigits c (List.mem_of_mem_take member)

/-- A bound record can be sent. -/
theorem Record.IsBound.transmits (bound : record.IsBound custodian) (hex : HexDigests custodian) :
    record.Transmits := by
  refine ⟨bound.delivery, bound.room, bound.event, bound.sequence, ?_, ?_⟩
  · rw [bound.claim]
    exact ident_of_digest (hex _)
  · rw [bound.reply]
    exact ident_of_digest (hex _)

/-- A record that is saved in another phase can be saved. -/
theorem Record.Checked.enter (checked : record.Checked custodian) (phase : Phase) (now : Int) :
    (record.enter phase now).Checked custodian :=
  ⟨checked.bound.same (record.enter_same phase now), checked.failures, checked.digest,
    checked.replyEvent⟩

/-- The record of the same delivery is in the journal in this phase, and the events are the same. -/
structure Leaves (custodian : Custodian) (world : World) (record : Record) (phase : Phase)
    (after : World) : Prop where
  journal : ∃ left, after.journal = some left ∧ record.SameDelivery left ∧ left.phase = phase ∧
    left.Checked custodian
  events : after.events = world.events

/-- The delivery is acknowledged and the journal is cleared. -/
structure Clears (record : Record) (after : World) : Prop where
  journal : after.journal = none
  acked : record.deliveryId ∈ after.acked

/-- An error of the guarded block that its handler looks at. -/
structure Throws (custodian : Custodian) (world : World) (record : Record) (after : World)
    (thrown : CustodianError × Record) : Prop where
  problem : thrown.1 = .invalidAuthorityResponse
  journal : after.journal = some thrown.2
  same : record.SameDelivery thrown.2
  checked : thrown.2.Checked custodian
  events : after.events = world.events
  lease : after.lease = world.lease
  phase : thrown.2.phase.isRecovery = true ∨
    thrown.2.phase = .claimed ∧ ¬ Handed custodian world.events record

theorem Record.same_refl (record : Record) : record.SameDelivery record :=
  ⟨rfl, rfl, rfl, rfl, rfl, rfl, rfl, rfl, rfl⟩

theorem Record.SameDelivery.trans {second third : Record} (first : record.SameDelivery second)
    (same : second.SameDelivery third) : record.SameDelivery third := by
  obtain ⟨a, b, c, d, e, f, g, h, i⟩ := first
  obtain ⟨a', b', c', d', e', f', g', h', i'⟩ := same
  exact ⟨a'.trans a, b'.trans b, c'.trans c, d'.trans d, e'.trans e, f'.trans f, g'.trans g,
    h'.trans h, i'.trans i⟩

theorem Leaves.saved {next : Record} (same : record.SameDelivery next)
    (checked : next.Checked custodian) :
    Leaves custodian world record next.phase (world.saved next) :=
  ⟨⟨next, rfl, same, rfl, checked⟩, rfl⟩

variable {other : Record} {clears : Prop} {event : Event} {after : World}

theorem Leaves.of_same {first : World} (leaves : Leaves custodian first other phase later)
    (same : record.SameDelivery other) (events : first.events = world.events) :
    Leaves custodian world record phase later := by
  obtain ⟨⟨left, isJournal, sameLeft, isPhase, checked⟩, sameEvents⟩ := leaves
  exact ⟨⟨left, isJournal, same.trans sameLeft, isPhase, checked⟩, sameEvents.trans events⟩

/-! ## Where the guarded block ends -/

/-- A reply in the room is confirmed and acknowledged. -/
theorem exec_confirm (owned : Owned works world) (checked : record.Checked custodian)
    (transmits : record.Transmits) {eventId : String} (isEvent : ident "event" eventId = true)
    (isDigest : record.replyDigest.isSome = true) :
    ∃ after, works.exec custodian world (confirm custodian record eventId) =
      (after, .ok .completed) ∧ Clears record after := by
  have named : (({ record with replyEventId := some eventId } : Record).enter .replied
      works.now).Checked custodian :=
    ⟨checked.bound.same ⟨rfl, rfl, rfl, rfl, rfl, rfl, rfl, rfl, rfl⟩, checked.failures,
      checked.digest, fun _ member => Option.some.inj member ▸ isEvent⟩
  rw [confirm, exec_then (exec_save named)]
  refine ⟨_, exec_acknowledge (owned.of_lease rfl) transmits
    ⟨rfl, .inr ⟨⟨eventId, rfl, isEvent⟩, isDigest⟩⟩, ⟨rfl, List.mem_cons_self⟩⟩

/-- A quarantine leaves the record behind. -/
theorem exec_quarantine_leaves (checked : record.Checked custodian) (reason : Reason) :
    ∃ after, works.exec custodian world (quarantine custodian record reason) =
      (after, .ok .quarantined) ∧ Leaves custodian world record .quarantined after := by
  have sameDelivery : record.SameDelivery
      (({ record with reason := some reason } : Record).enter .quarantined works.now) :=
    ⟨rfl, rfl, rfl, rfl, rfl, rfl, rfl, rfl, rfl⟩
  have stopped : (({ record with reason := some reason } : Record).enter .quarantined
      works.now).Checked custodian :=
    ⟨checked.bound.same sameDelivery, checked.failures, checked.digest, checked.replyEvent⟩
  exact ⟨_, exec_quarantine reason stopped, Leaves.saved sameDelivery stopped⟩

/-- How the guarded block ends, depending on whether it clears the record. -/
inductive Ends (custodian : Custodian) (world : World) (record : Record) (clears : Prop)
    (after : World) : Except (CustodianError × Record) CycleState → Prop
  | cleared {state : CycleState} (does : clears) (isClear : Clears record after) :
      Ends custodian world record clears after (.ok state)
  | left {state : CycleState} (doesNot : ¬ clears)
      (leaves : Leaves custodian world record .quarantined after) :
      Ends custodian world record clears after (.ok state)
  | thrown {thrown : CustodianError × Record} (doesNot : ¬ clears)
      (throws : Throws custodian world record after thrown) :
      Ends custodian world record clears after (.error thrown)

theorem Clears.of_same (clears : Clears other later) (same : record.SameDelivery other) :
    Clears record later := by
  obtain ⟨-, -, -, delivery, -⟩ := same
  exact ⟨clears.journal, delivery ▸ clears.acked⟩

/-- The end of a part of the block, seen from an earlier record and world. -/
theorem Ends.of_same {first after : World} {result : Except (CustodianError × Record) CycleState}
    (ends : Ends custodian first other clears after result) (same : record.SameDelivery other)
    (events : first.events = world.events) (lease : first.lease = world.lease) :
    Ends custodian world record clears after result := by
  cases ends with
  | cleared does isClear => exact .cleared does (isClear.of_same same)
  | left doesNot leaves => exact .left doesNot (leaves.of_same same events)
  | thrown doesNot throws =>
      refine .thrown doesNot ⟨throws.problem, throws.journal, same.trans throws.same, throws.checked,
        throws.events.trans events, throws.lease.trans lease, ?_⟩
      refine throws.phase.imp_right fun ⟨isClaimed, notHanded⟩ => ⟨isClaimed, ?_⟩
      rintro ⟨event, member, isInbound⟩
      exact notHanded ⟨event, events ▸ member, isInbound.same same⟩

/-- Recovery ends with the acknowledgement: the record asks for no reply, or its
reply is found. -/
def Confirms (custodian : Custodian) (events : List Event) (record : Record) : Prop :=
  if record.receiptOnly = some true then record.phase = .replied else IsFound custodian events record

/-- A recovery clears the record exactly when it is confirmed. -/
theorem exec_recover (owned : Owned works world) (checked : record.Checked custodian)
    (transmits : record.Transmits) (ordered : Ordered world.events)
    (isJournal : world.journal = some record) (isRecovery : record.phase.isRecovery = true) :
    ∃ after result, works.exec custodian world (recover custodian record) = (after, result) ∧
      Ends custodian world record (Confirms custodian world.events record) after result := by
  by_cases receipt : record.receiptOnly = some true
  · have looked : works.exec custodian world (lookUp custodian record) = (world, .ok none) := by
      rw [lookUp, if_pos receipt]
      rfl
    rw [recover, exec_then looked, exec_then (exec_assertOwner owned)]
    by_cases isReplied : record.phase = .replied
    · have confirms : Confirms custodian world.events record := by
        rw [Confirms, if_pos receipt]
        exact isReplied
      have acks := @exec_acknowledge custodian works world record owned transmits
        ⟨isReplied, .inl receipt⟩
      refine ⟨acknowledged world record, .ok .completed, ?_,
        .cleared confirms ⟨rfl, List.mem_cons_self⟩⟩
      dsimp only
      rw [if_neg (by simp [isReplied, receipt]), acks]
    · have doesNot : ¬ Confirms custodian world.events record := by
        rw [Confirms, if_pos receipt]
        exact isReplied
      obtain ⟨after, isQuarantine, leaves⟩ :=
        @exec_quarantine_leaves custodian works world record checked .unknownExecution
      refine ⟨after, .ok .quarantined, ?_, .left doesNot leaves⟩
      dsimp only
      rw [if_pos (.inl isReplied), isQuarantine]
  · have confirms : Confirms custodian world.events record ↔ IsFound custodian world.events record := by
      rw [Confirms, if_neg receipt]
    have lookUpIs : lookUp custodian record = within record (findReply custodian record) := by
      rw [lookUp, if_neg receipt]
    obtain ⟨result, searched, ⟨eventId, rfl, isFound, event, -, isReply, rfl⟩ |
      ⟨notFound, rfl | rfl⟩⟩ := @exec_findReply custodian record works world ordered transmits
    · obtain ⟨text, -, -, isDigest⟩ := isReply.text
      obtain ⟨after, confirmed, clears⟩ := @exec_confirm custodian works world record owned checked
        transmits _ isReply.id (by rw [isDigest]; rfl)
      refine ⟨after, .ok .completed, ?_, .cleared (confirms.mpr isFound) clears⟩
      rw [recover, lookUpIs, exec_then (exec_within searched), exec_then (exec_assertOwner owned),
        isDigest]
      exact confirmed
    · obtain ⟨after, isQuarantine, leaves⟩ :=
        @exec_quarantine_leaves custodian works world record checked .unknownExecution
      refine ⟨after, .ok .quarantined, ?_, .left (notFound ∘ confirms.mp) leaves⟩
      rw [recover, lookUpIs, exec_then (exec_within searched), exec_then (exec_assertOwner owned)]
      dsimp only
      rw [if_pos (.inr receipt), isQuarantine]
    · refine ⟨world, .error (.invalidAuthorityResponse, record), ?_,
        .thrown (notFound ∘ confirms.mp)
          ⟨rfl, isJournal, record.same_refl, checked, rfl, rfl, .inl isRecovery⟩⟩
      rw [recover, lookUpIs, exec_throw (exec_within_error searched)]

/-! ## Replying -/

/-- Two events with one key are one event. -/
theorem Ordered.sameKey (ordered : Ordered events) {first second : Event} (isFirst : first ∈ events)
    (isSecond : second ∈ events) (same : World.SameKey first second) : first = second := by
  by_contra different
  have symmetric : Std.Symm fun one other : Event => ¬ World.SameKey one other := by
    constructor
    rintro one other notSame ⟨room, sender, isKey, key⟩
    exact notSame ⟨room.symm, sender.symm, key ▸ isKey, key.symm⟩
  exact ordered.unique.forall isFirst isSecond different same

theorem IsReply.key? (isReply : IsReply custodian record event) :
    event.key? = some record.replyKey := by
  rw [Event.key?, isReply.key]

theorem IsReply.same {other : Record} {event : Event} (isReply : IsReply custodian record event)
    (same : record.SameDelivery other) (digest : other.replyDigest = record.replyDigest) :
    IsReply custodian other event := by
  obtain ⟨-, -, -, -, room, eventId, sequence, -, replyKey⟩ := same
  constructor
  · exact isReply.id
  · rw [room, isReply.room]
  · exact isReply.sequence
  · rw [sequence]
    exact isReply.later
  · exact isReply.type
  · exact isReply.sender
  · rw [replyKey, isReply.key]
  · exact isReply.replyRequired
  · rw [eventId, isReply.inReplyTo]
  · rw [digest]
    exact isReply.text

theorem matchReply_pos (isReply : IsReply custodian record event) :
    matchReply custodian record (some event) = .ok event.id := by
  rw [matchReply, if_pos isReply]

theorem matchReply_neg (isNot : ¬ IsReply custodian record event) :
    matchReply custodian record (some event) = .error .invalidAuthorityResponse := by
  rw [matchReply, if_neg isNot]

theorem mem_of_findKey (known : world.findKey roomId senderAgentId key = some event) :
    event ∈ world.events ∧ event.roomId = roomId ∧ event.senderAgentId = senderAgentId ∧
      event.key? = some key :=
  ⟨List.mem_of_find?_eq_some known, by simpa using List.find?_some known⟩

/-- The events of a room that has no event with the key. -/
theorem not_of_findKey (unknown : world.findKey roomId senderAgentId key = none)
    (member : event ∈ world.events) (room : event.roomId = roomId)
    (sender : event.senderAgentId = senderAgentId) : event.key? ≠ some key := by
  intro isKey
  have none := List.find?_eq_none.mp unknown event member
  exact none (by simp [room, sender, isKey])

/-- The event that a reply posts is the reply. -/
theorem replyEvent_isReply (follows : world.Follows record.roomId works.sequence)
    (named : Named world.events record.eventId record.roomId record.roomSequence) :
    IsReply custodian { record with replyDigest := some (custodian.digest works.text) }
      (replyEvent custodian record works.text works.eventId works.sequence) := by
  obtain ⟨event, member, -, room, sequence⟩ := named
  constructor
  · exact works.isEvent
  · rfl
  · exact follows.1
  · exact sequence ▸ follows.2 event member room
  · rfl
  · rfl
  · rfl
  · rfl
  · rfl
  · exact ⟨works.text, rfl, works.bounded, rfl⟩

/-- The server answers the reply with the reply: it takes a new one, or the one it has is
of the same text. -/
def Accepts (custodian : Custodian) (works : Works) (world : World) (record : Record) : Prop :=
  ∀ known, world.findKey record.roomId custodian.agentId record.replyKey = some known →
    IsReply custodian { record with replyDigest := some (custodian.digest works.text) } known

/-- The server gets a reply and answers with its event. -/
theorem exec_post {event : Option Event}
    (posted : postReply custodian (world.note [.replied record.deliveryId record.replyKey]) record
      works.text works.choice = (later, event)) :
    works.exec custodian world (ask! (.postEvent record works.text) id) = (later, .ok event) := by
  have handled : works.handle custodian world (.postEvent record works.text) =
      ((postReply custodian (world.note [.replied record.deliveryId record.replyKey]) record
          works.text works.choice).1,
        .ok (postReply custodian (world.note [.replied record.deliveryId record.replyKey]) record
          works.text works.choice).2) :=
    rfl
  rw [posted] at handled
  exact Program.exec_attempt handled rfl

/-- What the server answers to the reply. -/
theorem exec_reply (ordered : Ordered world.events) (transmits : record.Transmits)
    (digest : record.replyDigest = some (custodian.digest works.text))
    (named : Named world.events record.eventId record.roomId record.roomSequence)
    (follows : world.Follows record.roomId works.sequence) :
    ∃ after result, works.exec custodian world (reply custodian record works.text) = (after, result) ∧
      after.journal = world.journal ∧ after.lease = world.lease ∧
      ((∃ eventId, result = .ok eventId ∧ ident "event" eventId = true ∧
          Accepts custodian works world record) ∨
        result = .error .invalidAuthorityResponse ∧ after.events = world.events ∧
          ¬ Accepts custodian works world record ∧
          ∀ event ∈ world.events, ¬ IsReply custodian record event) := by
  have sameRecord : ({ record with replyDigest := some (custodian.digest works.text) } : Record) =
      record := by
    rw [← digest]
  have guards : works.exec custodian world (reply custodian record works.text) =
      works.exec custodian world (do
        let event ← ask! (.postEvent record works.text) id
        Program.ofExcept (matchReply custodian record event)) := by
    rw [reply, exec_guard transmits, exec_guard ⟨works.bounded, digest⟩]
  rw [guards, Accepts, sameRecord]
  cases isKnown : world.findKey record.roomId custodian.agentId record.replyKey with
  | some known =>
      obtain ⟨member, room, sender, key⟩ := mem_of_findKey isKnown
      have again : (world.note [.replied record.deliveryId record.replyKey]).findKey record.roomId
          custodian.agentId record.replyKey = some known := isKnown
      have posted : postReply custodian (world.note [.replied record.deliveryId record.replyKey])
          record works.text works.choice =
            (world.note [.replied record.deliveryId record.replyKey], some known) := by
        rw [postReply, again]
      rw [exec_then (exec_post posted)]
      by_cases isReply : IsReply custodian record known
      · rw [matchReply_pos isReply]
        refine ⟨_, _, rfl, rfl, rfl, .inl ⟨known.id, rfl, isReply.id, ?_⟩⟩
        rintro _ ⟨⟩
        exact isReply
      · rw [matchReply_neg isReply]
        refine ⟨_, _, rfl, rfl, rfl, .inr ⟨rfl, rfl, fun accepts => isReply (accepts known rfl), ?_⟩⟩
        -- the room has one event with the key of the reply
        intro event isEvent isOther
        have same : known = event := ordered.sameKey member isEvent
          ⟨room.trans isOther.room.symm, sender.trans isOther.sender.symm, by rw [key]; rfl,
            key.trans isOther.key?.symm⟩
        exact isReply (same ▸ isOther)
  | none =>
      have again : (world.note [.replied record.deliveryId record.replyKey]).findKey record.roomId
          custodian.agentId record.replyKey = none := isKnown
      have isNew : (world.note [.replied record.deliveryId record.replyKey]).Fits
          (replyEvent custodian record works.text works.eventId works.sequence) := by
        refine ⟨follows, ?_⟩
        rintro other member ⟨room, sender, -, key⟩
        exact not_of_findKey isKnown member room sender key
      have posted : postReply custodian (world.note [.replied record.deliveryId record.replyKey])
          record works.text works.choice =
            ({ world.note [.replied record.deliveryId record.replyKey] with
                events := world.events ++
                  [replyEvent custodian record works.text works.eventId works.sequence] },
              some (replyEvent custodian record works.text works.eventId works.sequence)) := by
        rw [postReply, again]
        exact if_pos isNew
      have isReply := @replyEvent_isReply custodian works world record follows named
      rw [sameRecord] at isReply
      rw [exec_then (exec_post posted), matchReply_pos isReply]
      refine ⟨_, _, rfl, rfl, rfl, .inl ⟨works.eventId, rfl, works.isEvent, ?_⟩⟩
      rintro _ ⟨⟩

/-- What a cycle needs of the record in hand: it can be saved and sent, names an event of
its room, and the next event of the room follows all others. -/
structure Served (custodian : Custodian) (works : Works) (world : World) (record : Record) : Prop where
  checked : record.Checked custodian
  transmits : record.Transmits
  ordered : Ordered world.events
  named : Named world.events record.eventId record.roomId record.roomSequence
  follows : world.Follows record.roomId works.sequence

theorem Record.Transmits.same {other : Record} (transmits : record.Transmits)
    (same : record.SameDelivery other) : other.Transmits := by
  obtain ⟨-, -, -, delivery, room, event, sequence, claim, reply⟩ := same
  rw [Record.Transmits, delivery, room, event, sequence, claim, reply]
  exact transmits

theorem Served.of_same (served : Served custodian works world record)
    (same : record.SameDelivery other) (checked : other.Checked custodian)
    (events : after.events = world.events) : Served custodian works after other where
  checked := checked
  transmits := served.transmits.same same
  ordered := events ▸ served.ordered
  named := events ▸ Named.same same served.named
  follows := by
    obtain ⟨-, -, -, -, room, -⟩ := same
    rw [World.Follows, events, room]
    exact served.follows

/-- A reply that the server does not accept is not found either. -/
theorem exec_resolveReply (owned : Owned works world) (served : Served custodian works world record)
    (isJournal : world.journal = some record) (isRecovery : record.phase.isRecovery = true)
    (doesNot : ¬ clears) (noReply : ∀ event ∈ world.events, ¬ IsReply custodian record event) :
    ∃ after result, works.exec custodian world (resolveReply custodian record) = (after, result) ∧
      Ends custodian world record clears after result := by
  rw [resolveReply, exec_then (exec_assertOwner owned)]
  obtain ⟨result, searched, ⟨eventId, -, -, event, member, isReply, -⟩ | ⟨-, rfl | rfl⟩⟩ :=
    @exec_findReply custodian record works world served.ordered served.transmits
  · exact absurd isReply (noReply event member)
  · obtain ⟨after, isQuarantine, leaves⟩ :=
      @exec_quarantine_leaves custodian works world record served.checked .replyUnresolved
    refine ⟨after, .ok .quarantined, ?_, .left doesNot leaves⟩
    rw [exec_then (exec_within searched)]
    exact isQuarantine
  · refine ⟨world, .error (.invalidAuthorityResponse, record), ?_,
      .thrown doesNot
        ⟨rfl, isJournal, record.same_refl, served.checked, rfl, rfl, .inl isRecovery⟩⟩
    rw [exec_throw (exec_within_error searched)]

/-- A reply is delivered exactly when the server accepts it. -/
theorem exec_deliver (owned : Owned works world) (served : Served custodian works world record)
    (hex : HexDigests custodian) :
    ∃ after result, works.exec custodian world (deliver custodian record works.text) =
        (after, result) ∧
      Ends custodian world record (Accepts custodian works world record) after result := by
  let replying : Record :=
    ({ record with replyDigest := some (custodian.digest works.text) } : Record).enter .replying
      works.now
  have same : record.SameDelivery replying := ⟨rfl, rfl, rfl, rfl, rfl, rfl, rfl, rfl, rfl⟩
  have checked : replying.Checked custodian :=
    ⟨served.checked.bound.same same, served.checked.failures,
      fun _ member => Option.some.inj member ▸ hex works.text, served.checked.replyEvent⟩
  have servedNow : Served custodian works (world.saved replying) replying :=
    served.of_same same checked rfl
  have ownedNow : Owned works (world.saved replying) := owned.of_lease rfl
  have accepts : Accepts custodian works (world.saved replying) replying ↔
      Accepts custodian works world record :=
    forall₂_congr fun known _ =>
      ⟨fun isReply => isReply.same ⟨rfl, rfl, rfl, rfl, rfl, rfl, rfl, rfl, rfl⟩ rfl,
        fun isReply => isReply.same ⟨rfl, rfl, rfl, rfl, rfl, rfl, rfl, rfl, rfl⟩ rfl⟩
  rw [deliver, exec_then (exec_save checked), exec_then (exec_assertOwner ownedNow)]
  obtain ⟨after, result, replied, isJournal, isLease, ⟨eventId, rfl, isEvent, accepted⟩ |
    ⟨rfl, events, notAccepted, noReply⟩⟩ :=
    @exec_reply custodian works (world.saved replying) replying servedNow.ordered
      servedNow.transmits rfl servedNow.named servedNow.follows
  · rw [exec_then (exec_outcome (exec_within replied))]
    have ownedThen : Owned works after := ownedNow.of_lease isLease
    obtain ⟨last, confirmed, clears⟩ := @exec_confirm custodian works after replying ownedThen checked
      servedNow.transmits eventId isEvent rfl
    refine ⟨last, .ok .completed, ?_, .cleared (accepts.mp accepted) (clears.of_same same)⟩
    exact (exec_then (exec_assertOwner ownedThen) _).trans confirmed
  · rw [exec_then (exec_outcome (exec_within_error replied))]
    have ownedThen : Owned works after := ownedNow.of_lease isLease
    obtain ⟨last, result, resolved, ends⟩ := exec_resolveReply ownedThen
      (servedNow.of_same replying.same_refl checked events) isJournal rfl
      (notAccepted ∘ accepts.mpr) (events ▸ noReply)
    exact ⟨last, result, resolved, ends.of_same same events isLease⟩

/-! ## One cycle -/

/-- An execution ends with the acknowledgement: the delivered event can be handed, and it
asks for no reply or its reply is accepted. -/
def Delivers (custodian : Custodian) (works : Works) (world : World) (record : Record) : Prop :=
  ∃ event ∈ world.events, IsInbound custodian record event ∧
    (event.replyRequired = .flag false ∨ Accepts custodian works world record)

/-- The acceptance of a reply depends on the events and the delivery only. -/
theorem Accepts.of_same (accepts : Accepts custodian works world record)
    (same : record.SameDelivery other) (events : after.events = world.events) :
    Accepts custodian works after other := by
  intro known isKnown
  have sameReply : ({ record with replyDigest := some (custodian.digest works.text) } :
      Record).SameDelivery { other with replyDigest := some (custodian.digest works.text) } := same
  obtain ⟨-, -, -, -, room, -, -, -, replyKey⟩ := same
  rw [room, replyKey, World.findKey, events] at isKnown
  exact (accepts known isKnown).same sameReply rfl

theorem Delivers.of_same (delivers : Delivers custodian works world record)
    (same : record.SameDelivery other) (events : after.events = world.events) :
    Delivers custodian works after other := by
  obtain ⟨event, member, isInbound, ends⟩ := delivers
  exact ⟨event, events ▸ member, isInbound.same same,
    ends.imp_right fun accepts => accepts.of_same same events⟩

/-- The event that a delivery hands over is one. -/
theorem IsInbound.unique (ordered : Ordered events) {first second : Event}
    (isFirst : first ∈ events) (isSecond : second ∈ events)
    (firstInbound : IsInbound custodian record first)
    (secondInbound : IsInbound custodian record second) : first = second :=
  ordered.same isFirst isSecond (firstInbound.room.trans secondInbound.room.symm)
    (firstInbound.sequence.trans secondInbound.sequence.symm)

section

variable (owned : Owned works world) (served : Served custodian works world record)
  (hex : HexDigests custodian)
include owned served hex

/-- An admitted execution clears the record exactly when its reply is accepted. -/
theorem exec_admitRun (request : Inbound) :
    ∃ after result, works.exec custodian world (admitRun custodian record request) =
        (after, result) ∧
      Ends custodian world record (Accepts custodian works world record) after result := by
  let executing := record.enter .executing works.now
  have same : record.SameDelivery executing := record.enter_same _ _
  have checked : executing.Checked custodian := served.checked.enter _ _
  let before := world.saved executing
  have ownedBefore : Owned works before := owned.of_lease rfl
  let running := before.note [.started executing.deliveryId before.begun]
  have ownedNow : Owned works running := ownedBefore.of_lease rfl
  have ran : works.exec custodian before (ask (.run executing request) : Try RunAnswer) =
      (running, .ok (.result "completed" (some works.text))) := exec_ask _
  have accepted : acceptedText "completed" (some works.text) = some works.text := by
    simp [acceptedText, works.bounded]
  obtain ⟨after, result, delivered, ends⟩ := @exec_deliver custodian works running executing
    ownedNow (served.of_same same checked rfl) hex
  refine ⟨after, result, ?_, ?_⟩
  · rw [admitRun, exec_then (exec_save checked), exec_then (exec_assertOwner ownedBefore),
      exec_then ran, settleRun, exec_then (exec_assertOwner ownedNow), accepted]
    exact delivered
  · have accepts : Accepts custodian works running executing ↔
        Accepts custodian works world record :=
      ⟨fun isAccepted => isAccepted.of_same ⟨rfl, rfl, rfl, rfl, rfl, rfl, rfl, rfl, rfl⟩ rfl,
        fun isAccepted => isAccepted.of_same same rfl⟩
    rw [← accepts]
    exact ends.of_same same rfl rfl

/-- An execution clears the record exactly when it delivers. -/
theorem exec_execute :
    ∃ after result, works.exec custodian world (execute custodian record) = (after, result) ∧
      Ends custodian world record (Delivers custodian works world record) after result := by
  let claimed := record.enter .claimed works.now
  have same : record.SameDelivery claimed := record.enter_same _ _
  have checked : claimed.Checked custodian := served.checked.enter _ _
  have servedNow : Served custodian works (world.saved claimed) claimed :=
    served.of_same same checked rfl
  have ownedNow : Owned works (world.saved claimed) := owned.of_lease rfl
  rw [execute, exec_then (exec_save checked)]
  by_cases handed : Handed custodian world.events record
  · obtain ⟨event, member, isInbound⟩ := handed
    have given := @exec_inbound custodian claimed works (world.saved claimed) servedNow.ordered
      servedNow.transmits event member (isInbound.same same)
    rw [exec_then (exec_within given), exec_then (exec_assertOwner ownedNow)]
    have only : ∀ other ∈ world.events, IsInbound custodian record other → other = event :=
      fun other isOther otherInbound => otherInbound.unique served.ordered isOther member isInbound
    by_cases receipt : event.replyRequired = .flag false
    · have required : (inboundOf custodian claimed event).replyRequired = false := by
        simp [inboundOf, receipt]
      rw [if_pos required]
      let replied : Record := ({ claimed with receiptOnly := some true } : Record).enter .replied works.now
      have sameReplied : claimed.SameDelivery replied := ⟨rfl, rfl, rfl, rfl, rfl, rfl, rfl, rfl, rfl⟩
      have checkedReplied : replied.Checked custodian :=
        ⟨checked.bound.same sameReplied, checked.failures, checked.digest, checked.replyEvent⟩
      have ownedThen : Owned works ((world.saved claimed).saved replied) := ownedNow.of_lease rfl
      refine ⟨acknowledged ((world.saved claimed).saved replied) replied, .ok .completed, ?_,
        .cleared ⟨event, member, isInbound, .inl receipt⟩ ⟨rfl, List.mem_cons_self⟩⟩
      exact (exec_then (exec_save checkedReplied) _).trans
        (exec_acknowledge ownedThen servedNow.transmits ⟨rfl, .inl rfl⟩)
    · have required : (inboundOf custodian claimed event).replyRequired ≠ false := by
        simp [inboundOf, receipt]
      rw [if_neg required]
      obtain ⟨after, result, admitted, ends⟩ :=
        exec_admitRun ownedNow servedNow hex (inboundOf custodian claimed event)
      refine ⟨after, result, admitted, ?_⟩
      have delivers : Accepts custodian works (world.saved claimed) claimed ↔
          Delivers custodian works world record := by
        constructor
        · exact fun accepts => ⟨event, member, isInbound, .inr
            (accepts.of_same ⟨rfl, rfl, rfl, rfl, rfl, rfl, rfl, rfl, rfl⟩ rfl)⟩
        · rintro ⟨other, isOther, otherInbound, isReceipt | accepts⟩
          · exact absurd (only other isOther otherInbound ▸ isReceipt) receipt
          · exact accepts.of_same same rfl
      rw [← delivers]
      exact ends.of_same same rfl rfl
  · have notDelivers : ¬ Delivers custodian works world record := by
      rintro ⟨event, member, isInbound, -⟩
      exact handed ⟨event, member, isInbound⟩
    have notHanded : ¬ Handed custodian (world.saved claimed).events claimed := by
      rintro ⟨event, member, isInbound⟩
      exact handed ⟨event, member, @IsInbound.same custodian claimed record event
        ⟨rfl, rfl, rfl, rfl, rfl, rfl, rfl, rfl, rfl⟩ isInbound⟩
    refine ⟨world.saved claimed, .error (.invalidAuthorityResponse, claimed), ?_,
      .thrown notDelivers ⟨rfl, rfl, same, checked, rfl, rfl, .inr ⟨rfl, handed⟩⟩⟩
    rw [exec_throw (exec_within_error
      (exec_inbound_not servedNow.ordered servedNow.transmits servedNow.named notHanded))]

end

/-- A cycle that takes up the record clears it. -/
def Completes (custodian : Custodian) (works : Works) (world : World) (record : Record) : Prop :=
  if record.phase.isRecovery = true then Confirms custodian world.events record
  else Delivers custodian works world record

theorem exec_guarded (owned : Owned works world) (served : Served custodian works world record)
    (hex : HexDigests custodian) (isJournal : world.journal = some record) :
    ∃ after result, works.exec custodian world (guarded custodian record) = (after, result) ∧
      Ends custodian world record (Completes custodian works world record) after result := by
  rw [guarded, exec_then (exec_assertOwner owned), exec_then (exec_within (exec_health _))]
  by_cases isRecovery : record.phase.isRecovery = true
  · rw [if_pos isRecovery, Completes, if_pos isRecovery]
    exact exec_recover owned served.checked served.transmits served.ordered isJournal isRecovery
  · rw [if_neg isRecovery, Completes, if_neg isRecovery]
    exact exec_execute owned served hex

/-- How a cycle ends: the record is cleared, or quarantined, or it stays claimed because the
delivered event cannot be handed. -/
inductive CycleEnds (custodian : Custodian) (world : World) (record : Record) (clears : Prop)
    (after : World) : Prop
  | cleared (does : clears) (isClear : Clears record after)
  | stopped (doesNot : ¬ clears) (leaves : Leaves custodian world record .quarantined after)
  | blocked (doesNot : ¬ clears) (notHanded : ¬ Handed custodian world.events record)
      (leaves : Leaves custodian world record .claimed after)

/-- The end of a part of the cycle, with the parts around it. -/
theorem CycleEnds.around {first after last : World}
    (ends : CycleEnds custodian first record clears after) (before : first.events = world.events)
    (journal : last.journal = after.journal) (events : last.events = after.events)
    (acked : last.acked = after.acked) : CycleEnds custodian world record clears last := by
  cases ends with
  | cleared does isClear => exact .cleared does ⟨journal ▸ isClear.journal, acked ▸ isClear.acked⟩
  | stopped doesNot leaves =>
      exact .stopped doesNot ⟨journal ▸ leaves.journal, events.trans (leaves.events.trans before)⟩
  | blocked doesNot notHanded leaves =>
      exact .blocked doesNot (before ▸ notHanded)
        ⟨journal ▸ leaves.journal, events.trans (leaves.events.trans before)⟩

/-- The handler quarantines a record after the start, and lets another one be. -/
theorem exec_handleError (owned : Owned works world) {thrown : CustodianError × Record}
    (doesNot : ¬ clears) (throws : Throws custodian world record after thrown) :
    ∃ last result, works.exec custodian after (handleError custodian thrown) = (last, result) ∧
      CycleEnds custodian world record clears last := by
  have ownedAfter : Owned works after := owned.of_lease throws.lease
  have signalled : works.exec custodian after (ask .signals : Task (Bool × Bool)) =
      (after, .ok (false, (after.lease.map Lease.controllerAborted).getD true)) := by
    rw [exec_ask]
    simp only [Works.handle, perform, ownedAfter.not_aborted]
  rw [handleError, exec_then signalled]
  dsimp only
  by_cases isRecovery : thrown.2.phase.isRecovery = true
  · rw [if_pos ⟨rfl, throws.problem, isRecovery⟩]
    obtain ⟨last, isQuarantine, leaves⟩ :=
      @exec_quarantine_leaves custodian works after thrown.2 throws.checked .replyUnresolved
    exact ⟨last, _, exec_mapError isQuarantine,
      .stopped doesNot (leaves.of_same throws.same throws.events)⟩
  · rw [if_neg fun both => isRecovery both.2.2, exec_then (exec_health _)]
    obtain ⟨isClaimed, notHanded⟩ := throws.phase.resolve_left isRecovery
    exact ⟨after, _, rfl, .blocked doesNot notHanded
      ⟨⟨thrown.2, throws.journal, throws.same, isClaimed, throws.checked⟩, throws.events⟩⟩

/-- What `owned` makes of the end of its guarded part. -/
def settle (custodian : Custodian) : Except (CustodianError × Record) CycleState → Task CycleState
  | .ok state => pure state
  | .error problem => handleError custodian problem

/-- A cycle goes on with the record in hand, under a lease that it gets. -/
theorem exec_proceed (served : Served custodian works world record) (hex : HexDigests custodian)
    (isJournal : world.journal = some record) :
    ∃ after result, works.exec custodian world (proceed custodian record) = (after, result) ∧
      CycleEnds custodian world record (Completes custodian works world record) after := by
  let claimed := world.note [.claimed record.deliveryId record.claimId]
  have isClaimed : works.exec custodian world (claim record) = (claimed, .ok works.leaseExpiresAt) := by
    rw [claim, exec_guard served.transmits]
    exact exec_ask! rfl
  let leased := claimed.scheduled record works.leaseExpiresAt works.now
  have isLeased : works.exec custodian claimed
      (ask (.schedule record works.leaseExpiresAt) : Task Unit) = (leased, .ok ()) := exec_ask _
  have notExpired : ¬ works.leaseExpiresAt ≤ works.now := Int.not_le.mpr works.held
  have isOwned : Owned works leased :=
    ⟨_, rfl, by simp [notExpired, works.held], by simp [notExpired], rfl⟩
  obtain ⟨after, result, isGuarded, ends⟩ :=
    exec_guarded isOwned (served.of_same record.same_refl served.checked rfl) hex isJournal
  rw [proceed, exec_then (exec_outcome isClaimed)]
  dsimp only
  rw [LinuxRuntime.owned, exec_then isLeased, exec_then (exec_mapError (exec_outcome isGuarded))]
  have handled : ∃ last final, works.exec custodian after (settle custodian result) =
        (last, final) ∧
      CycleEnds custodian leased record (Completes custodian works leased record) last := by
    cases ends with
    | cleared does isClear => exact ⟨after, _, rfl, .cleared does isClear⟩
    | left doesNot leaves => exact ⟨after, _, rfl, .stopped doesNot leaves⟩
    | thrown doesNot throws => exact exec_handleError isOwned doesNot throws
  obtain ⟨last, final, isHandled, ends⟩ := handled
  refine ⟨{ last with lease := none }, final, ?_, ends.around rfl rfl rfl rfl⟩
  exact exec_then (exec_outcome isHandled) _

/-! ## Cycles and retries -/

/-- The wait after a failure is over. -/
def Rested (works : Works) (record : Record) : Prop :=
  record.phase = .failed → ∀ next ∈ record.nextAttemptAt, next ≤ works.now

/-- A record in hand is proceeded with, unless it is quarantined. -/
theorem exec_resume (served : Served custodian works world record) (hex : HexDigests custodian)
    (isJournal : world.journal = some record) (rested : Rested works record)
    (running : record.phase ≠ .quarantined) :
    ∃ after result, works.exec custodian world (resume custodian record) = (after, result) ∧
      CycleEnds custodian world record (Completes custodian works world record) after := by
  rw [resume, if_neg running]
  by_cases isFailed : record.phase = .failed
  · have asked : works.exec custodian world (ask .now : Task Int) = (world, .ok works.now) :=
      exec_ask _
    have notWaiting : ¬ ∃ next ∈ record.nextAttemptAt, works.now < next := by
      rintro ⟨next, member, waits⟩
      have elapsed := rested isFailed next member
      omega
    rw [if_pos isFailed, exec_then asked, if_neg notWaiting]
    exact exec_proceed served hex isJournal
  · rw [if_neg isFailed]
    exact exec_proceed served hex isJournal

/-- A quarantined record stays. -/
theorem exec_resume_quarantined (isQuarantined : record.phase = .quarantined) :
    works.exec custodian world (resume custodian record) = (world, .ok .quarantined) := by
  rw [resume, if_pos isQuarantined, exec_then (exec_health _)]
  rfl

/-- The world after one cycle. -/
def cycled (custodian : Custodian) (works : Works) (world : World) : World :=
  (works.exec custodian world (cycle custodian)).1

/-- The world after a retry of a delivery. -/
def retriedBy (custodian : Custodian) (works : Works) (deliveryId : Int) (world : World) : World :=
  (works.exec custodian world (retry custodian deliveryId)).1

/-- The lock is taken around a body. -/
theorem exec_withLock {result : Except CustodianError α} {before : World}
    (free : world.holder = none)
    (isBody : works.exec custodian { world with holder := some 0, lease := none } task =
      (before, result)) :
    works.exec custodian world (withLock task) = (before.released, result) := by
  have locked : works.exec custodian world (ask .lock : Task Bool) =
      ({ world with holder := some 0, lease := none }, .ok true) := by
    rw [exec_ask]
    simp [Works.handle, perform, free, Works.choice]
  rw [withLock, exec_then locked, exec_guard rfl, exec_then (exec_outcome isBody)]
  rfl

/-- The journal is read. -/
theorem exec_get (checked : ∀ record, world.journal = some record → record.Checked custodian) :
    works.exec custodian world (get custodian) =
      ({ world with begun := world.journal.map Record.phase }, .ok world.journal) := by
  have isRead : works.exec custodian world (ask! .readJournal id) =
      ({ world with begun := world.journal.map Record.phase }, .ok world.journal) :=
    exec_ask! rfl
  rw [get, exec_then isRead]
  cases isJournal : world.journal with
  | none => rfl
  | some record => exact exec_guard (checked record isJournal) _ _

/-- A cycle goes on with the record in the journal. -/
theorem exec_cycleBody (checked : record.Checked custodian) (isJournal : world.journal = some record) :
    works.exec custodian world (cycleBody custodian) =
      works.exec custodian { world with begun := some record.phase } (resume custodian record) := by
  have asked : works.exec custodian world (ask .throwIfAborted : Task Bool) = (world, .ok false) :=
    exec_ask _
  have verified : works.exec custodian world verify = (world, .ok ()) := exec_ask! rfl
  have got : works.exec custodian world (get custodian) =
      ({ world with begun := some record.phase }, .ok (some record)) := by
    rw [exec_get fun other isOther => Option.mem_unique isJournal isOther ▸ checked,
      isJournal]
    rfl
  rw [cycleBody, exec_then asked, exec_guard rfl, exec_then (exec_outcome verified), exec_then got]

/-- A cycle with an empty journal goes on with the first delivery of the mailbox. -/
theorem exec_cycleBody_take (valid : delivery.IsValid) (isJournal : world.journal = none)
    (listed : world.listed = [delivery]) :
    works.exec custodian world (cycleBody custodian) =
      works.exec custodian
        (({ world with begun := none } : World).saved
          (custodian.prepared delivery works.now works.now))
        (resume custodian (custodian.prepared delivery works.now works.now)) := by
  let before : World := { world with begun := none }
  have asked : works.exec custodian world (ask .throwIfAborted : Task Bool) = (world, .ok false) :=
    exec_ask _
  have verified : works.exec custodian world verify = (world, .ok ()) := exec_ask! rfl
  have got : works.exec custodian world (get custodian) = (before, .ok none) := by
    rw [exec_get fun other isOther => nomatch isJournal.symm.trans isOther, isJournal]
    simp only [before, isJournal]
    rfl
  have offered : works.exec custodian before (ask! .listMailbox id) = (before, .ok [delivery]) := by
    rw [exec_ask!]
    · rfl
    · exact congrArg Except.ok listed
  have listedIs : works.exec custodian before list = (before, .ok [delivery]) := by
    have one : [delivery].length ≤ 1 ∧ ∀ item ∈ [delivery], item.IsValid :=
      ⟨Nat.le_refl 1, fun item member => List.mem_singleton.mp member ▸ valid⟩
    rw [list, exec_then offered]
    exact exec_guard one _ _
  have clock : works.exec custodian before (ask .now : Task Int) = (before, .ok works.now) :=
    exec_ask _
  rw [cycleBody, exec_then asked, exec_guard rfl, exec_then (exec_outcome verified), exec_then got]
  dsimp only
  rw [take, exec_then listedIs]
  dsimp only
  rw [exec_then clock, exec_then clock,
    exec_then (exec_storeSave (prepared_checked valid works.now works.now))]

/-- A cycle takes up the record in the journal. -/
theorem cycled_ends (free : world.holder = none) (served : Served custodian works world record)
    (hex : HexDigests custodian) (isJournal : world.journal = some record)
    (rested : Rested works record) (running : record.phase ≠ .quarantined) :
    CycleEnds custodian world record (Completes custodian works world record)
        (cycled custodian works world) ∧
      (cycled custodian works world).holder = none := by
  let locked : World := { world with holder := some 0, lease := none }
  let begun : World := { locked with begun := some record.phase }
  have sameBody : works.exec custodian locked (cycleBody custodian) =
      works.exec custodian begun (resume custodian record) :=
    exec_cycleBody served.checked isJournal
  obtain ⟨after, result, resumed, ends⟩ := @exec_resume custodian works begun record
    (served.of_same record.same_refl served.checked rfl) hex isJournal rested running
  rw [cycled, cycle, exec_withLock free (sameBody.trans resumed)]
  exact ⟨ends.around rfl rfl rfl rfl, rfl⟩

/-- A cycle leaves a quarantined record. -/
theorem cycled_quarantined (free : world.holder = none) (checked : record.Checked custodian)
    (isJournal : world.journal = some record) (isQuarantined : record.phase = .quarantined) :
    (cycled custodian works world).journal = some record ∧
      (cycled custodian works world).events = world.events ∧
      (cycled custodian works world).holder = none := by
  let locked : World := { world with holder := some 0, lease := none }
  have sameBody : works.exec custodian locked (cycleBody custodian) = _ :=
    exec_cycleBody checked isJournal
  rw [exec_resume_quarantined isQuarantined] at sameBody
  rw [cycled, cycle, exec_withLock free sameBody]
  exact ⟨isJournal, rfl, rfl⟩

/-- A cycle with an empty journal takes up the first delivery of the mailbox. -/
theorem cycled_take (free : world.holder = none) (valid : delivery.IsValid)
    (isJournal : world.journal = none) (listed : world.listed = [delivery])
    (served : Served custodian works world (custodian.prepared delivery works.now works.now))
    (hex : HexDigests custodian) :
    CycleEnds custodian world (custodian.prepared delivery works.now works.now)
        (Completes custodian works world (custodian.prepared delivery works.now works.now))
        (cycled custodian works world) ∧
      (cycled custodian works world).holder = none := by
  let record := custodian.prepared delivery works.now works.now
  let locked : World := { world with holder := some 0, lease := none }
  let taken : World := ({ locked with begun := none } : World).saved record
  have sameBody : works.exec custodian locked (cycleBody custodian) =
      works.exec custodian taken (resume custodian record) :=
    exec_cycleBody_take valid isJournal listed
  obtain ⟨after, result, resumed, ends⟩ := @exec_resume custodian works taken record
    (served.of_same record.same_refl served.checked rfl) hex rfl (fun isFailed => nomatch isFailed)
    (fun isQuarantined => nomatch isQuarantined)
  rw [cycled, cycle, exec_withLock free (sameBody.trans resumed)]
  exact ⟨ends.around rfl rfl rfl rfl, rfl⟩

/-- What a retry leaves. -/
theorem retriedBy_journal (free : world.holder = none) (checked : record.Checked custodian)
    (isJournal : world.journal = some record) (deliveryId : Int) :
    (retriedBy custodian works deliveryId world).journal =
        some (if record.IsEligible deliveryId then record.retried works.now else record) ∧
      (retriedBy custodian works deliveryId world).events = world.events ∧
      (retriedBy custodian works deliveryId world).holder = none := by
  let locked : World := { world with holder := some 0, lease := none }
  let begun : World := { locked with begun := some record.phase }
  have onlyRecord : ∀ other, locked.journal = some other → other.Checked custodian :=
    fun other isOther => Option.mem_unique isJournal isOther ▸ checked
  have got : works.exec custodian locked (get custodian) = (begun, .ok (some record)) := by
    rw [exec_get onlyRecord]
    simp [begun, locked, isJournal]
  by_cases eligible : record.IsEligible deliveryId
  · have asked : works.exec custodian begun (ask .now : Task Int) = (begun, .ok works.now) :=
      exec_ask _
    let saved := begun.saved (record.retried works.now)
    have isSaved : works.exec custodian begun (storeSave custodian (record.retried works.now)) =
        (saved, .ok ()) := exec_storeSave (checked.retried _)
    have gotAgain : works.exec custodian saved (get custodian) =
        ({ saved with begun := some .prepared }, .ok (some (record.retried works.now))) :=
      exec_get fun other isOther => Option.some.inj isOther ▸ checked.retried _
    have body : works.exec custodian locked (retryBody custodian deliveryId) =
        ({ saved with begun := some .prepared }, .ok ()) := by
      rw [retryBody, exec_then got]
      dsimp only
      rw [exec_guard eligible, exec_then asked, exec_then isSaved, exec_then gotAgain]
      exact exec_ask! rfl
    rw [retriedBy, retry, exec_withLock free body, if_pos eligible]
    exact ⟨rfl, rfl, rfl⟩
  · have body : works.exec custodian locked (retryBody custodian deliveryId) =
        (begun, .error .retryIneligible) := by
      rw [retryBody, exec_then got]
      exact exec_guard_not eligible _ _
    rw [retriedBy, retry, exec_withLock free body, if_neg eligible]
    exact ⟨isJournal, rfl, rfl⟩

end

end Triangle.LinuxRuntime
