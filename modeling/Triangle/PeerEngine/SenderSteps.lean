import Triangle.PeerEngine.SenderSide

/-!
# The steps of the sending engine

Sending, the retry loop, the end of an attempt and a restart keep the sender
sound, and none of them moves a closed message to another state.
-/

namespace Triangle.PeerEngine

open Triangle.Std

section

variable {Addr : Type} {delivery : Delivery Addr} {replies : List WireEnvelope}
  {attempts : List (Attempt Addr)} {pending : Option (JournalEntry Addr)}
  {journal : Journal Addr} {io : Io}

/-- Settling a message is sound when its record, if it is for the receiver, has
its receipt. -/
theorem SenderSound.recordSettled {messageId : String}
    (sound : SenderSound delivery replies attempts io.compactedAt pending journal)
    (acked : ∀ record, journal.index.outbound.find? messageId = some record →
      record.peerEndpointId = delivery.receiver.endpointIdHex →
      Acked replies messageId record.payloadHash)
    (stamped : ∀ attempt ∈ attempts, attempt.since ≤ io.stampedAt) :
    ∃ kept, SenderSound delivery replies attempts io.compactedAt kept
      (journal.recordSettled delivery.sender.runtime io messageId).1 := by
  unfold Journal.recordSettled Journal.finishOutbound
  split
  · exact ⟨pending, sound⟩
  next record found =>
    split_ifs with isQueued
    · exact ⟨pending, sound⟩
    · rw [not_not] at isQueued
      have numbered : SenderSound delivery replies attempts io.compactedAt pending
          { journal with nextSeq := journal.nextSeq + 1 } :=
        { sound with tracks := { sound.tracks with } }
      have appends : Appends delivery.sender.runtime io
          { journal with nextSeq := journal.nextSeq + 1 } (.recordSettled messageId) _ :=
        .closed (.recordSettled messageId) messageId .settled none journal.nextSeq record .settled
          found isQueued rfl
      refine numbered.append appends.anchored appends.readable ⟨fun _ other otherFound => ?_,
        nofun, nofun⟩ stamped
      exact acked other otherFound

/-- The calls that neither send nor settle keep the sender sound. -/
theorem SenderSound.performOther [DecidableEq Addr] (operation : Operation Addr)
    (noSend : ∀ messageId payload peer addr lease,
      operation ≠ .enqueueOutbound messageId payload peer addr lease)
    (noSettle : ∀ messageId, operation ≠ .recordSettled messageId)
    (stamped : ∀ attempt ∈ attempts, attempt.since ≤ io.stampedAt)
    (sound : SenderSound delivery replies attempts io.compactedAt pending journal) :
    ∃ kept, SenderSound delivery replies attempts io.compactedAt kept
      (operation.perform delivery.sender.runtime io journal) :=
  sound.perform operation
    (fun _ _ _ _ appends => appends.justified_of_other noSend noSettle) stamped

/-- A verified receipt names the message, the payload and the peer. -/
theorem verifyReceipt_ok {receipt : PeerReceipt} {message : PeerMessage} {peer : String}
    (verified : verifyReceipt receipt message peer = .ok ()) :
    receipt.messageId = message.messageId ∧ receipt.payloadHash = message.payloadHash ∧
      receipt.receiverEndpointId = peer := by
  unfold verifyReceipt at verified
  split_ifs at verified with otherMessage otherStatus otherHash otherPeer
  rw [not_not] at otherMessage otherHash otherPeer
  exact ⟨otherMessage, otherHash, otherPeer⟩

/-- The end of an attempt keeps the sender sound, when a reply that counts came
in time, and from the receiver if that is the peer. -/
theorem SenderSound.finishAttempt [DecidableEq Addr] {clock : Nat} {attempt : Attempt Addr}
    {reply : Option WireEnvelope}
    (sound : SenderSound delivery replies attempts clock pending journal)
    (started : clock ≤ io.now) (ordered : io.now ≤ io.compactedAt)
    (member : attempt ∈ attempts)
    (stamped : ∀ attempt ∈ attempts, attempt.since ≤ io.stampedAt)
    (genuine : ∀ envelope, reply = some envelope →
      attempt.inTime delivery.sender io.now = true ∧
      (delivery.sender.addrId attempt.peer = delivery.receiver.endpointIdHex →
        envelope ∈ replies)) :
    ∃ kept, SenderSound delivery replies attempts io.compactedAt kept
      (finishAttempt delivery.sender journal io attempt reply).1 := by
  have later : SenderSound delivery replies attempts io.compactedAt pending journal :=
    sound.mono (Nat.le_trans started ordered)
  have refuse : ∀ messageId reason, ∃ kept,
      SenderSound delivery replies attempts io.compactedAt kept
        (journal.recordRefused delivery.sender.runtime io messageId reason).1 := by
    intro messageId reason
    exact later.performOther (.recordRefused messageId reason) nofun nofun stamped
  have retry : ∀ messageId, ∃ kept,
      SenderSound delivery replies attempts io.compactedAt kept
        (scheduleRetry delivery.sender journal io.now messageId) := by
    intro messageId
    exact later.performOther (.noteAttemptFailed messageId _) nofun nofun stamped
  cases reply with
  | none => exact retry attempt.message.messageId
  | some envelope =>
      obtain ⟨inTime, fromReceiver⟩ := genuine envelope rfl
      cases envelope with
      | message _ => exact retry attempt.message.messageId
      | reject reject =>
          simp only [PeerEngine.finishAttempt]
          split_ifs
          · exact retry attempt.message.messageId
          · exact retry attempt.message.messageId
          · split
            · exact refuse attempt.message.messageId _
            · exact refuse attempt.message.messageId _
      | receipt receipt =>
          simp only [PeerEngine.finishAttempt]
          cases isVerified : verifyReceipt receipt attempt.message
              (delivery.sender.addrId attempt.peer) with
          | error reason =>
              dsimp only
              split
              · exact refuse attempt.message.messageId _
              · exact refuse attempt.message.messageId _
          | ok =>
              dsimp only
              split
              · exact ⟨pending, later⟩
              next record found =>
                split
                · refine later.recordSettled ?_ stamped
                  intro other otherFound toReceiver
                  obtain ⟨sameMessage, sameHash, -⟩ := verifyReceipt_ok isVerified
                  have linked : clock < attempt.since + delivery.sender.limits.retentionMs := by
                    have exceeds := delivery.retention_exceeds_timeout
                    simp only [Attempt.inTime, decide_eq_true_iff] at inTime
                    omega
                  obtain ⟨own, isOwn, ownHash, ownPeer, -⟩ := sound.linked attempt member linked
                  rw [isOwn, Option.some.injEq] at otherFound
                  subst otherFound
                  exact ⟨receipt, fromReceiver (ownPeer.symm.trans toReceiver), sameMessage,
                    sameHash.trans ownHash.symm⟩
                · exact ⟨pending, later⟩
                · exact ⟨pending, later⟩
                · exact ⟨pending, later⟩

/-- Sending keeps the sender sound, and the attempt it starts is linked. -/
theorem SenderSound.sendMessage [DecidableEq Addr]
    (sound : SenderSound delivery replies attempts io.compactedAt pending journal)
    (stamped : ∀ attempt ∈ attempts, attempt.since ≤ io.stampedAt)
    (peer : Addr) (messageId payload : String) :
    (∃ kept, SenderSound delivery replies attempts io.compactedAt kept
        (sendMessage delivery.sender journal io peer messageId payload).1) ∧
      ∀ message since,
        (sendMessage delivery.sender journal io peer messageId payload).2 = .attempt message →
        Attempt.Linked delivery ⟨peer, message, since⟩ io.compactedAt
          (sendMessage delivery.sender journal io peer messageId payload).1.index := by
  unfold PeerEngine.sendMessage
  split_ifs with badId
  · exact ⟨⟨pending, sound⟩, by intros; contradiction⟩
  · cases isNew : PeerMessage.new delivery.sender messageId payload
        delivery.sender.endpointIdHex io.now with
    | error reason => exact ⟨⟨pending, sound⟩, by intros; contradiction⟩
    | ok message =>
        have isMessage : message.messageId = messageId ∧
            message.payloadHash = delivery.sender.runtime.payloadHashHex payload := by
          unfold PeerMessage.new at isNew
          split_ifs at isNew
          cases isNew
          exact ⟨rfl, rfl⟩
        cases isFit : message.checkFrameSize delivery.sender with
        | error reason =>
            dsimp only
            rw [isFit]
            exact ⟨⟨pending, sound⟩, by intros; contradiction⟩
        | ok =>
            dsimp only
            rw [isFit]
            dsimp only
            generalize isLease : io.now + delivery.sender.retry.attemptTimeout * 2 = lease
            have kept : ∃ kept, SenderSound delivery replies attempts io.compactedAt kept
                (journal.enqueueOutbound delivery.sender.runtime io messageId payload
                  (delivery.sender.addrId peer) peer lease).1 :=
              sound.perform (.enqueueOutbound messageId payload (delivery.sender.addrId peer) peer
                lease) (fun _ _ _ _ appends => appends.justified_of_enqueue) stamped
            have queuedFor : ∀ outcome, (journal.enqueueOutbound delivery.sender.runtime io
                messageId payload (delivery.sender.addrId peer) peer lease).2 =
                  .ok (.ok outcome) → outcome ≠ .existing .settled →
                (journal.enqueueOutbound delivery.sender.runtime io messageId payload
                  (delivery.sender.addrId peer) peer lease).1.index.QueuedFor messageId
                    (delivery.sender.runtime.payloadHashHex payload)
                    (delivery.sender.addrId peer) :=
              fun _ enqueued unsettled => enqueueOutbound_queuedFor sound.tracks enqueued unsettled
            generalize journal.enqueueOutbound delivery.sender.runtime io messageId payload
              (delivery.sender.addrId peer) peer lease = enqueued at kept queuedFor ⊢
            split
            · exact ⟨kept, by intros; contradiction⟩
            · exact ⟨kept, by intros; contradiction⟩
            · exact ⟨kept, by intros; contradiction⟩
            next outcome unsettled isOk =>
              have isQueued := queuedFor outcome isOk unsettled
              split
              · refine ⟨kept, fun sent since isSent => ?_⟩
                cases isSent
                apply Index.QueuedFor.linked
                rw [isMessage.1, isMessage.2]
                exact isQueued
              · refine ⟨kept, fun sent since isSent => ?_⟩
                cases isSent
                apply Index.QueuedFor.linked
                dsimp only
                rw [isMessage.1, isMessage.2]
                exact isQueued

/-- What the retry loop takes is due for the peer it dials. -/
def DueSound (delivery : Delivery Addr) (index : Index Addr) (item : DueOutbound Addr) : Prop :=
  index.QueuedFor item.messageId (delivery.sender.runtime.payloadHashHex item.payload)
    (delivery.sender.addrId item.peerAddr)

/-- What holds while the retry loop visits the messages. -/
structure TakenSound (delivery : Delivery Addr) (replies : List WireEnvelope)
    (attempts : List (Attempt Addr)) (now : Nat) (pending : Option (JournalEntry Addr))
    (taken : Journal.Taken Addr) : Prop where
  sender : SenderSound delivery replies attempts now pending taken.journal
  due : ∀ item ∈ taken.due, DueSound delivery taken.journal.index item

theorem TakenSound.takeOne {now : Nat} {taken : Journal.Taken Addr}
    (sound : TakenSound delivery replies attempts now pending taken)
    (time expiryMs lease maxDue : Nat) (messageId : String) :
    TakenSound delivery replies attempts now pending
      (Journal.takeOne time expiryMs lease maxDue taken messageId) := by
  unfold Journal.takeOne
  cases found : taken.journal.index.outbound.find? messageId with
  | none => exact sound
  | some record =>
      dsimp only
      split_ifs with isQueued
      · exact sound
      · exact { sound with }
      · exact sound
      · rw [not_not] at isQueued
        cases isPayload : record.payload with
        | none => exact sound
        | some payload =>
            cases isAddr : record.peerAddr with
            | none => exact sound
            | some addr =>
                dsimp only
                have recordSound := sound.sender.outbound messageId record found
                have sameHash := recordSound.hashed isQueued payload isPayload
                obtain ⟨dialed, isDialed, samePeer⟩ := recordSound.dialable isQueued
                rw [isAddr, Option.some.injEq] at isDialed
                subst isDialed
                have leasing : ∀ other, taken.journal.index.outbound.find? messageId = some other →
                    MemoryOnly other (other.leased lease) :=
                  fun other _ => .bookkeeping other _ _
                refine ⟨?_, fun item member => Index.QueuedFor.modifyOutbound leasing ?_⟩
                · refine modifyOutbound_induct ?_ leasing sound.sender
                  intro journal named old changed oldFound memoryOnly held
                  exact held.touch oldFound memoryOnly
                · rw [List.mem_append, List.mem_singleton] at member
                  rcases member with before | rfl
                  · exact sound.due item before
                  · exact ⟨record, found, sameHash, samePeer.symm, isQueued⟩

/-- Taking due messages keeps the sender sound, and every message taken is
queued for the peer that its address dials. -/
theorem SenderSound.takeDue {now : Nat}
    (sound : SenderSound delivery replies attempts now pending journal)
    (order : List String) (time expiryMs lease maxDue : Nat) :
    TakenSound delivery replies attempts now pending
      (journal.takeDue order time expiryMs lease maxDue) := by
  have visits : ∀ taken, TakenSound delivery replies attempts now pending taken →
      TakenSound delivery replies attempts now pending
        (order.foldl (Journal.takeOne time expiryMs lease maxDue) taken) := by
    induction order with
    | nil => exact fun _ held => held
    | cons messageId rest ih =>
        intro taken held
        exact ih _ (held.takeOne time expiryMs lease maxDue messageId)
  exact visits ⟨journal, [], []⟩ ⟨sound, nofun⟩

/-- A restart keeps the sender sound, and ends its attempts. -/
theorem SenderSound.restart {now : Nat}
    (sound : SenderSound delivery replies attempts now pending journal) :
    ∃ reopened, Journal.openWith delivery.sender.runtime delivery.sender.limits
        (some journal.file) now .replaced = .ok reopened ∧
      SenderSound delivery replies [] now none reopened := by
  obtain ⟨opened, isOpened, tracks, -, base, isBase, covers⟩ := sound.tracks.reopen .replaced
  obtain ⟨kept, isKept, compacted⟩ := tracks.compact .replaced
  obtain rfl : kept = none := isKept.elim id id
  have baseSound : base.OutboundSound delivery replies := by
    rcases isBase with same | ⟨entry, isPending, applied⟩
    · rw [same]
      exact sound.outbound
    · rw [applied]
      exact sound.outbound.apply (sound.tracks.anchored entry isPending)
        (sound.justified entry isPending)
  refine ⟨_, by rw [isOpened, compact_replaced tracks.isOpen]; rfl, compacted, ?_,
    nofun, nofun⟩
  rw [compact_index tracks.isOpen, tracks.limitsAre]
  exact baseSound.of_covers covers

/-- The message was closed in this state at this time. -/
def Index.ClosedAs (index : Index Addr) (messageId : String) (state : OutboundState)
    (closedAt : Nat) : Prop :=
  ∃ record, index.outbound.find? messageId = some record ∧ record.state = state ∧
    record.lastTsUnixMs = closedAt

/-- The message is still closed so, or forgotten at a time past its retention. -/
def Index.Absorbs (limits : JournalLimits) (now : Nat) (index : Index Addr) (messageId : String)
    (state : OutboundState) (closedAt : Nat) : Prop :=
  index.ClosedAs messageId state closedAt ∨
    index.outbound.find? messageId = none ∧ limits.fresh now closedAt = false

section

variable {index base disk : Index Addr} {messageId : String} {state : OutboundState}
  {closedAt : Nat} {entry : JournalEntry Addr} {limits : JournalLimits} {now : Nat}
  {runtime : JournalRuntime Addr}

theorem Index.ClosedAs.retain (isClosed : index.ClosedAs messageId state closedAt) :
    Index.Absorbs limits now (index.retain limits now) messageId state closedAt := by
  obtain ⟨record, found, isState, isTime⟩ := isClosed
  unfold Index.Absorbs Index.ClosedAs
  rw [Index.find?_retain_outbound, found, Option.filter_some]
  split
  · exact .inl ⟨record, rfl, isState, isTime⟩
  next dropped =>
    unfold Index.keepsOutbound at dropped
    rw [Bool.not_eq_true, Bool.or_eq_false_iff, isTime] at dropped
    exact .inr ⟨rfl, dropped.2⟩

theorem Index.ClosedAs.touch {named : String} {record changed : OutboundRecord Addr}
    (found : index.outbound.find? named = some record) (memoryOnly : MemoryOnly record changed)
    (isClosed : index.ClosedAs messageId state closedAt) :
    (index.setOutbound changed).ClosedAs messageId state closedAt := by
  obtain ⟨old, isOld, isState, isTime⟩ := isClosed
  unfold Index.ClosedAs
  rw [Index.find?_setOutbound found memoryOnly]
  split
  next isNamed =>
    rw [isNamed, found, Option.some.injEq] at isOld
    have sameTime : changed.lastTsUnixMs = record.lastTsUnixMs := by rw [memoryOnly.durable]
    exact ⟨changed, rfl, by rw [memoryOnly.state, isOld, isState], by rw [sameTime, isOld, isTime]⟩
  · exact ⟨old, isOld, isState, isTime⟩

/-- An anchored record is never about a closed message. -/
theorem Index.ClosedAs.apply (closed : state ≠ .queued) (anchored : index.Anchored entry)
    (isClosed : index.ClosedAs messageId state closedAt) :
    (index.apply runtime entry).ClosedAs messageId state closedAt := by
  obtain ⟨record, found, isState, isTime⟩ := isClosed
  unfold Index.ClosedAs
  rw [Index.find?_apply_outbound]
  split
  next named =>
    rw [named] at found
    have notAnchored : entry.state ∉ [.settled, .refused, .expired, .addressUpdated] := by
      intro needs
      obtain ⟨kept, isKept, isQueued⟩ := anchored.outbound needs
      rw [found, Option.some.injEq] at isKept
      exact closed (isState.symm.trans (isKept ▸ isQueued))
    have notStarted : entry.state ≠ .queuedLocal := by
      intro isQueued
      have free := anchored.outboundFree isQueued
      rw [found] at free
      cases free
    have untouched : Index.isOutbound entry.state = false := by
      unfold Index.isOutbound
      rw [decide_eq_false_iff_not, List.mem_cons, not_or]
      exact ⟨notStarted, notAnchored⟩
    rw [named, Index.outboundAfter_of_not_isOutbound untouched]
    exact ⟨record, found, isState, isTime⟩
  · exact ⟨record, found, isState, isTime⟩

end

end

end Triangle.PeerEngine
