import Triangle.PeerEngine.Engine
import Triangle.PeerEngine.Replay

/-!
# What the sending engine knows

A settled record for the receiver has its receipt among the replies, a queued
record dials the peer it is for, and an attempt that a reply can still reach
belongs to the record its message id names now. The last one needs time: a
record that an attempt was made for is forgotten no earlier than the retention
after it was closed, and the attempt is over by then.
-/

namespace Triangle.PeerEngine

open Triangle.Std

section

variable {Addr : Type} (delivery : Delivery Addr) (replies : List WireEnvelope)

/-- A receipt for the message and the payload hash was written. -/
def Acked (messageId payloadHash : String) : Prop :=
  ∃ receipt, WireEnvelope.receipt receipt ∈ replies ∧ receipt.messageId = messageId ∧
    receipt.payloadHash = payloadHash

/-- What holds of every outbound record of the sender. -/
structure OutboundRecord.Sound (record : OutboundRecord Addr) : Prop where
  settled : record.state = .settled → record.peerEndpointId = delivery.receiver.endpointIdHex →
    Acked replies record.messageId record.payloadHash
  dialable : record.state = .queued → ∃ addr, record.peerAddr = some addr ∧
    delivery.sender.addrId addr = record.peerEndpointId
  hashed : record.state = .queued → ∀ payload, record.payload = some payload →
    record.payloadHash = delivery.sender.runtime.payloadHashHex payload

/-- Every outbound record is sound. -/
def Index.OutboundSound (index : Index Addr) : Prop :=
  ∀ messageId record, index.outbound.find? messageId = some record →
    record.Sound delivery replies

/-- What a record that is appended, or left pending, must bring. -/
structure Justified (index : Index Addr) (entry : JournalEntry Addr) : Prop where
  settled : entry.state = .settled → ∀ record,
    index.outbound.find? entry.messageId = some record →
    record.peerEndpointId = delivery.receiver.endpointIdHex →
    Acked replies entry.messageId record.payloadHash
  queued : entry.state = .queuedLocal → ∀ peer, entry.peerEndpointId = some peer →
    (Index.queuedRecord delivery.sender.runtime entry peer).Sound delivery replies
  address : entry.state = .addressUpdated → ∀ record,
    index.outbound.find? entry.messageId = some record →
    ∀ addr, entry.peerAddr = some addr → delivery.sender.addrId addr = record.peerEndpointId

/-- An attempt that can still be answered belongs to the record of its message. -/
def Attempt.Linked (attempt : Attempt Addr) (now : Nat) (index : Index Addr) : Prop :=
  now < attempt.since + delivery.sender.limits.retentionMs → ∃ record,
    index.outbound.find? attempt.message.messageId = some record ∧
    record.payloadHash = attempt.message.payloadHash ∧
    record.peerEndpointId = delivery.sender.addrId attempt.peer ∧
    (record.state = .queued ∨ attempt.since ≤ record.lastTsUnixMs)

variable {delivery replies}

/-- Soundness is about the durable part of a record. -/
theorem OutboundRecord.Sound.of_durable {first second : OutboundRecord Addr}
    (same : first.durable = second.durable) (sound : second.Sound delivery replies) :
    first.Sound delivery replies := by
  simp only [OutboundRecord.durable, OutboundRecord.mk.injEq] at same
  obtain ⟨sameId, -, sameState, sameHash, samePayload, samePeer, sameAddr, -⟩ := same
  constructor
  · rw [sameState, samePeer, sameId, sameHash]
    exact sound.settled
  · intro isQueued
    rw [sameState] at isQueued sameAddr
    rw [if_pos isQueued, if_pos isQueued] at sameAddr
    rw [sameAddr, samePeer]
    exact sound.dialable isQueued
  · rw [sameState, samePayload, sameHash]
    exact sound.hashed

section

variable {limits : JournalLimits} {earlier now : Nat} {index disk base : Index Addr}
  {entry : JournalEntry Addr} {attempt : Attempt Addr}

theorem Index.OutboundSound.retain (sound : index.OutboundSound delivery replies) :
    (index.retain limits now).OutboundSound delivery replies := by
  intro messageId record found
  rw [Index.find?_retain_outbound, Option.filter_eq_some_iff] at found
  exact sound messageId record found.1

/-- What an open retains is sound when the index it covers is. -/
theorem Index.OutboundSound.of_covers (sound : base.OutboundSound delivery replies)
    (covers : Index.Covers limits now disk base) :
    (disk.retain limits now).OutboundSound delivery replies := by
  intro messageId record found
  rw [Index.find?_retain_outbound, Option.filter_eq_some_iff] at found
  obtain ⟨onDisk, kept⟩ := found
  rcases covers.outbound messageId with same | ⟨-, stale, isStale, dropped⟩
  · rw [onDisk, Option.map_some, eq_comm, Option.map_eq_some_iff] at same
    obtain ⟨inMemory, isBase, sameDurable⟩ := same
    exact .of_durable sameDurable.symm (sound messageId inMemory isBase)
  · rw [onDisk, Option.some.injEq] at isStale
    rw [isStale, dropped] at kept
    cases kept

/-- A justified record keeps the index sound. -/
theorem Index.OutboundSound.apply (sound : index.OutboundSound delivery replies)
    (anchored : index.Anchored entry) (justified : Justified delivery replies index entry) :
    (index.apply delivery.sender.runtime entry).OutboundSound delivery replies := by
  intro messageId record found
  rw [Index.find?_apply_outbound] at found
  split at found
  next named =>
    subst named
    unfold Index.outboundAfter at found
    cases isState : entry.state with
    | queuedLocal =>
        cases isPeer : entry.peerEndpointId with
        | none =>
            rw [isState, isPeer] at found
            exact sound _ record found
        | some peer =>
            rw [isState, isPeer] at found
            cases found
            exact justified.queued isState peer isPeer
    | settled =>
        obtain ⟨old, isOld, -⟩ := anchored.outbound (by simp [isState])
        rw [isState, isOld] at found
        cases found
        have sameId := (Table.find?_some isOld).2
        refine ⟨fun _ toReceiver => ?_, by intros; contradiction,
          by intros; contradiction⟩
        have acked := justified.settled isState old isOld toReceiver
        rwa [← sameId] at acked
    | refused | expired =>
        obtain ⟨old, isOld, -⟩ := anchored.outbound (by simp [isState])
        rw [isState, isOld] at found
        cases found
        exact ⟨by intros; contradiction, by intros; contradiction,
          by intros; contradiction⟩
    | addressUpdated =>
        obtain ⟨old, isOld, isQueued⟩ := anchored.outbound (by simp [isState])
        rw [isState, isOld] at found
        cases found
        have oldSound := sound _ old isOld
        unfold Index.readdressed
        split
        next renewed =>
          obtain ⟨addr, isAddr⟩ := Option.isSome_iff_exists.mp renewed.2
          exact ⟨oldSound.settled,
            fun _ => ⟨addr, isAddr, justified.address isState old isOld addr isAddr⟩,
            oldSound.hashed⟩
        · exact oldSound
    | receivedPeer | consumed | duplicateSuppressed | checkpoint =>
        rw [isState] at found
        exact sound _ record found
  · exact sound messageId record found

theorem Attempt.Linked.mono (notLater : earlier ≤ now)
    (linked : attempt.Linked delivery earlier index) : attempt.Linked delivery now index :=
  fun inTime => linked (Nat.lt_of_le_of_lt notLater inTime)

/-- A compaction forgets the record of an attempt only when the attempt is over. -/
theorem Attempt.Linked.retain (linked : attempt.Linked delivery now index) :
    attempt.Linked delivery now (index.retain delivery.sender.limits now) := by
  intro inTime
  obtain ⟨record, found, sameHash, samePeer, held⟩ := linked inTime
  refine ⟨record, ?_, sameHash, samePeer, held⟩
  have kept : Index.keepsOutbound delivery.sender.limits now record = true := by
    unfold Index.keepsOutbound JournalLimits.fresh
    rcases held with isQueued | closedAfter
    · simp [isQueued]
    · have positive := delivery.retention_exceeds_timeout
      rw [Bool.or_eq_true, decide_eq_true_iff, decide_eq_true_iff]
      exact .inr (by omega)
  rw [Index.find?_retain_outbound, found, Option.filter_some, kept]
  rfl

/-- A record that is stamped after the attempt began keeps it linked. -/
theorem Attempt.Linked.apply (linked : attempt.Linked delivery now index)
    (anchored : index.Anchored entry) (stamped : attempt.since ≤ entry.tsUnixMs)
    (runtime : JournalRuntime Addr) : attempt.Linked delivery now (index.apply runtime entry) := by
  intro inTime
  obtain ⟨record, found, sameHash, samePeer, held⟩ := linked inTime
  rw [Index.find?_apply_outbound]
  split
  next named =>
    rw [named] at found
    rw [named, found]
    have closes : ∀ state, ∃ closed,
        some (Index.closedRecord state entry (some record)) = some closed ∧
        closed.payloadHash = attempt.message.payloadHash ∧
        closed.peerEndpointId = delivery.sender.addrId attempt.peer ∧
        (closed.state = .queued ∨ attempt.since ≤ closed.lastTsUnixMs) :=
      fun state => ⟨_, rfl, sameHash, samePeer, .inr stamped⟩
    unfold Index.outboundAfter
    cases isState : entry.state with
    | queuedLocal =>
        have free := anchored.outboundFree isState
        rw [found] at free
        cases free
    | settled => exact closes .settled
    | refused => exact closes .refused
    | expired => exact closes .expired
    | addressUpdated =>
        refine ⟨_, rfl, ?_⟩
        unfold Index.readdressed
        split
        · exact ⟨sameHash, samePeer, held⟩
        · exact ⟨sameHash, samePeer, held⟩
    | receivedPeer | consumed | duplicateSuppressed | checkpoint =>
        exact ⟨record, rfl, sameHash, samePeer, held⟩
  · exact ⟨record, found, sameHash, samePeer, held⟩

/-- A pending record stays justified when a compaction forgets records. -/
theorem Justified.retain (justified : Justified delivery replies index entry) :
    Justified delivery replies (index.retain limits now) entry := by
  have earlierFound : ∀ record,
      (index.retain limits now).outbound.find? entry.messageId = some record →
      index.outbound.find? entry.messageId = some record := by
    intro record found
    rw [Index.find?_retain_outbound, Option.filter_eq_some_iff] at found
    exact found.1
  exact ⟨fun isSettled record found => justified.settled isSettled record (earlierFound record found),
    justified.queued,
    fun isAddress record found => justified.address isAddress record (earlierFound record found)⟩

end

variable (delivery replies)

/-- The sending engine: its file covers its index, its records are sound, and
its attempts are linked. -/
structure SenderSound (attempts : List (Attempt Addr)) (now : Nat)
    (pending : Option (JournalEntry Addr)) (journal : Journal Addr) : Prop where
  tracks : Tracks delivery.sender.runtime delivery.sender.limits now pending journal
  outbound : journal.index.OutboundSound delivery replies
  justified : ∀ entry ∈ pending, Justified delivery replies journal.index entry
  linked : ∀ attempt ∈ attempts, attempt.Linked delivery now journal.index

variable {delivery replies}

namespace SenderSound

variable {attempts : List (Attempt Addr)} {earlier now : Nat}
  {pending : Option (JournalEntry Addr)} {journal : Journal Addr}

theorem mono (sound : SenderSound delivery replies attempts earlier pending journal)
    (notLater : earlier ≤ now) : SenderSound delivery replies attempts now pending journal :=
  { sound with
    tracks := sound.tracks.mono notLater
    linked := fun attempt member => (sound.linked attempt member).mono notLater }

section

variable (sound : SenderSound delivery replies attempts now pending journal)
include sound

/-- Bookkeeping in memory changes nothing that the sender's facts are about. -/
theorem touch {messageId : String} {record changed : OutboundRecord Addr}
    (found : journal.index.outbound.find? messageId = some record)
    (memoryOnly : MemoryOnly record changed) :
    SenderSound delivery replies attempts now pending
      { journal with index := journal.index.setOutbound changed } := by
  have wasFormed := sound.tracks.wellFormed.outbound messageId record found
  have sameDurable := memoryOnly.durable_eq wasFormed
  have reads := Index.find?_setOutbound found memoryOnly
  have samePeer : changed.peerEndpointId = record.peerEndpointId := by rw [memoryOnly.durable]
  have sameHash : changed.payloadHash = record.payloadHash := by rw [memoryOnly.durable]
  have sameTime : changed.lastTsUnixMs = record.lastTsUnixMs := by rw [memoryOnly.durable]
  refine ⟨sound.tracks.touch found memoryOnly, ?_, ?_, ?_⟩
  · intro other otherRecord otherFound
    rw [reads] at otherFound
    split at otherFound
    · cases otherFound
      exact .of_durable sameDurable (sound.outbound messageId record found)
    · exact sound.outbound other otherRecord otherFound
  · intro entry isPending
    have justified := sound.justified entry isPending
    refine ⟨fun isSettled otherRecord otherFound => ?_, justified.queued,
      fun isAddress otherRecord otherFound => ?_⟩
    · rw [reads] at otherFound
      split at otherFound
      next isMessage =>
        cases otherFound
        rw [samePeer, sameHash]
        exact justified.settled isSettled record (isMessage ▸ found)
      · exact justified.settled isSettled otherRecord otherFound
    · rw [reads] at otherFound
      split at otherFound
      next isMessage =>
        cases otherFound
        rw [samePeer]
        exact justified.address isAddress record (isMessage ▸ found)
      · exact justified.address isAddress otherRecord otherFound
  · intro attempt member inTime
    obtain ⟨old, isOld, oldHash, oldPeer, held⟩ := sound.linked attempt member inTime
    dsimp only
    rw [reads]
    split
    next isMessage =>
      rw [isMessage, found, Option.some.injEq] at isOld
      subst isOld
      refine ⟨changed, rfl, sameHash.trans oldHash, samePeer.trans oldPeer, ?_⟩
      rw [memoryOnly.state, sameTime]
      exact held
    · exact ⟨old, isOld, oldHash, oldPeer, held⟩

theorem compact (rewrite : RewriteIo) :
    ∃ kept, SenderSound delivery replies attempts now kept
      (journal.compact delivery.sender.runtime now rewrite).1 := by
  obtain ⟨kept, isKept, tracks⟩ := sound.tracks.compact rewrite
  have isIndex : (journal.compact delivery.sender.runtime now rewrite).1.index =
      journal.index.retain delivery.sender.limits now := by
    rw [compact_index sound.tracks.isOpen, sound.tracks.limitsAre]
  refine ⟨kept, tracks, ?_, ?_, ?_⟩
  · rw [isIndex]
    exact sound.outbound.retain
  · intro entry isPending
    rw [isIndex]
    rcases isKept with isNone | same
    · rw [isNone] at isPending
      cases isPending
    · exact (sound.justified entry (same ▸ isPending)).retain
  · intro attempt member
    rw [isIndex]
    exact (sound.linked attempt member).retain

end

/-- A justified append keeps the sender sound. -/
theorem append {io : Io} {entry : JournalEntry Addr}
    (sound : SenderSound delivery replies attempts io.compactedAt pending journal)
    (anchored : journal.index.Anchored entry)
    (readable : Readable delivery.sender.runtime entry)
    (justified : Justified delivery replies journal.index entry)
    (stamped : ∀ attempt ∈ attempts, attempt.since ≤ entry.tsUnixMs) :
    ∃ kept, SenderSound delivery replies attempts io.compactedAt kept
      (journal.appendDurable delivery.sender.runtime entry io).1 := by
  obtain ⟨kept, tracks, unwritten | written⟩ := sound.tracks.append anchored readable
  · obtain ⟨isKept, -, sameIndex⟩ := unwritten
    refine ⟨kept, tracks, ?_, ?_, ?_⟩
    · rw [sameIndex]
      exact sound.outbound
    · intro other isPending
      rw [sameIndex]
      rcases isKept with same | isEntry
      · exact sound.justified other (same ▸ isPending)
      · rw [isEntry] at isPending
        cases isPending
        exact justified
    · intro attempt member
      rw [sameIndex]
      exact sound.linked attempt member
  · obtain ⟨isNone, -, isIndex⟩ := written
    subst isNone
    have appliedOutbound := sound.outbound.apply anchored justified
    have appliedLinked : ∀ attempt ∈ attempts, attempt.Linked delivery io.compactedAt
        (journal.index.apply delivery.sender.runtime entry) :=
      fun attempt member => (sound.linked attempt member).apply anchored (stamped attempt member) _
    refine ⟨none, tracks, ?_, nofun, ?_⟩
    · rcases isIndex with applied | retained
      · rw [applied]
        exact appliedOutbound
      · rw [retained]
        exact appliedOutbound.retain
    · intro attempt member
      rcases isIndex with applied | retained
      · rw [applied]
        exact appliedLinked attempt member
      · rw [retained]
        exact (appliedLinked attempt member).retain

/-- An operation whose records are justified keeps the sender sound. -/
theorem perform [DecidableEq Addr] {io : Io} (operation : Operation Addr)
    (justifies : ∀ pending journal entry,
      SenderSound delivery replies attempts io.compactedAt pending journal →
      Appends delivery.sender.runtime io journal operation entry →
      Justified delivery replies journal.index entry)
    (stamped : ∀ attempt ∈ attempts, attempt.since ≤ io.stampedAt)
    (sound : SenderSound delivery replies attempts io.compactedAt pending journal) :
    ∃ kept, SenderSound delivery replies attempts io.compactedAt kept
      (operation.perform delivery.sender.runtime io journal) := by
  apply Operation.perform_induct fun journal =>
    ∃ kept, SenderSound delivery replies attempts io.compactedAt kept journal
  · rintro journal messageId record changed found memoryOnly ⟨kept, held⟩
    exact ⟨kept, held.touch found memoryOnly⟩
  · rintro journal ⟨kept, held⟩
    exact ⟨kept, { held with tracks := { held.tracks with } }⟩
  · rintro journal entry appends ⟨kept, held⟩
    have isStamped : entry.tsUnixMs = io.stampedAt := by cases appends <;> rfl
    refine held.append appends.anchored appends.readable (justifies kept journal entry held appends) ?_
    rw [isStamped]
    exact stamped
  · rintro journal ⟨kept, held⟩
    exact held.compact io.rewrite
  · exact ⟨pending, sound⟩

end SenderSound

variable {entry : JournalEntry Addr}

variable {index : Index Addr} {journal : Journal Addr}

/-- A record about an inbound message needs no justification. -/
theorem Justified.of_not_isOutbound (other : Index.isOutbound entry.state = false) :
    Justified delivery replies index entry := by
  constructor
  · intro isSettled
    rw [isSettled] at other
    cases other
  · intro isQueued
    rw [isQueued] at other
    cases other
  · intro isAddress
    rw [isAddress] at other
    cases other

/-- A refused or expired record needs no justification. -/
theorem Justified.of_closed (closed : entry.state = .refused ∨ entry.state = .expired) :
    Justified delivery replies index entry := by
  constructor
  · intro isSettled
    rw [isSettled] at closed
    cases closed <;> contradiction
  · intro isQueued
    rw [isQueued] at closed
    cases closed <;> contradiction
  · intro isAddress
    rw [isAddress] at closed
    cases closed <;> contradiction

/-- The operations that neither send nor settle bring justified records. -/
theorem Appends.justified_of_other {io : Io} {operation : Operation Addr}
    (noSend : ∀ messageId payload peer addr lease,
      operation ≠ .enqueueOutbound messageId payload peer addr lease)
    (noSettle : ∀ messageId, operation ≠ .recordSettled messageId)
    (appends : Appends delivery.sender.runtime io journal operation entry) :
    Justified delivery replies journal.index entry := by
  cases appends with
  | queued | readdressed => exact absurd rfl (noSend _ _ _ _ _)
  | closed _ messageId _ _ _ _ closes =>
      cases closes with
      | settled => exact absurd rfl (noSettle messageId)
      | refused => exact .of_closed (.inl rfl)
      | expired => exact .of_closed (.inr rfl)
  | received | duplicate | consumed => exact .of_not_isOutbound rfl

/-- The records of an enqueue for the peer it dials are justified. -/
theorem Appends.justified_of_enqueue {io : Io} {messageId payload : String} {peer : Addr}
    {lease : Nat} (appends : Appends delivery.sender.runtime io journal
      (.enqueueOutbound messageId payload (delivery.sender.addrId peer) peer lease) entry) :
    Justified delivery replies journal.index entry := by
  generalize isOperation : Operation.enqueueOutbound messageId payload
    (delivery.sender.addrId peer) peer lease = operation at appends
  cases appends with
  | queued =>
      cases isOperation
      refine ⟨by intros; contradiction, fun _ target isTarget => ?_,
        by intros; contradiction⟩
      cases isTarget
      refine ⟨by intros; contradiction, fun _ => ⟨peer, rfl, rfl⟩,
        fun _ sent isSent => ?_⟩
      simp only [Index.queuedRecord, Option.bind_some, delivery.sender.runtime.hexDecode_hexEncode,
        Option.some.injEq] at isSent
      rw [← isSent]
      rfl
  | readdressed _ _ _ _ _ _ record found _ _ samePeer =>
      cases isOperation
      refine ⟨by intros; contradiction, by intros; contradiction,
        fun _ other otherFound addr isAddr => ?_⟩
      cases isAddr
      dsimp only at otherFound
      rw [found, Option.some.injEq] at otherFound
      rw [← otherFound, samePeer]
  | closed _ _ _ _ _ _ closes =>
      subst isOperation
      cases closes
  | received | duplicate | consumed => cases isOperation

/-- The message is queued, with this payload hash and for this peer. -/
def Index.QueuedFor (index : Index Addr) (messageId payloadHash peer : String) : Prop :=
  ∃ record, index.outbound.find? messageId = some record ∧ record.payloadHash = payloadHash ∧
    record.peerEndpointId = peer ∧ record.state = .queued

section

variable {messageId payloadHash peer : String} {index : Index Addr} {journal : Journal Addr}

theorem Index.QueuedFor.retain {limits : JournalLimits} {now : Nat}
    (isQueued : index.QueuedFor messageId payloadHash peer) :
    (index.retain limits now).QueuedFor messageId payloadHash peer := by
  obtain ⟨record, found, sameHash, samePeer, queued⟩ := isQueued
  refine ⟨record, ?_, sameHash, samePeer, queued⟩
  rw [Index.find?_retain_outbound, found, Option.filter_some, Index.keepsOutbound, queued]
  rfl

variable {named : String}

theorem Index.QueuedFor.touch {record changed : OutboundRecord Addr}
    (found : index.outbound.find? named = some record) (memoryOnly : MemoryOnly record changed)
    (isQueued : index.QueuedFor messageId payloadHash peer) :
    (index.setOutbound changed).QueuedFor messageId payloadHash peer := by
  obtain ⟨old, isOld, sameHash, samePeer, queued⟩ := isQueued
  unfold Index.QueuedFor
  rw [Index.find?_setOutbound found memoryOnly]
  split
  next isNamed =>
    rw [isNamed, found, Option.some.injEq] at isOld
    subst isOld
    refine ⟨changed, rfl, ?_, ?_, memoryOnly.state.trans queued⟩
    · rw [memoryOnly.durable, sameHash]
    · rw [memoryOnly.durable, samePeer]
  · exact ⟨old, isOld, sameHash, samePeer, queued⟩

/-- A message is linked to an attempt that begins while it is queued for the
attempt's peer. -/
theorem Index.QueuedFor.linked {attempt : Attempt Addr} {now : Nat}
    (isQueued : index.QueuedFor attempt.message.messageId attempt.message.payloadHash
      (delivery.sender.addrId attempt.peer)) : attempt.Linked delivery now index := by
  obtain ⟨record, found, sameHash, samePeer, queued⟩ := isQueued
  exact fun _ => ⟨record, found, sameHash, samePeer, .inl queued⟩

variable {runtime : JournalRuntime Addr} {limits : JournalLimits}
  {pending : Option (JournalEntry Addr)} {io : Io} {payload : String} {addr : Addr}

theorem Index.QueuedFor.modifyOutbound {change : OutboundRecord Addr → OutboundRecord Addr}
    (memoryOnly : ∀ record, journal.index.outbound.find? named = some record →
      MemoryOnly record (change record))
    (isQueued : journal.index.QueuedFor messageId payloadHash peer) :
    (journal.modifyOutbound named change).index.QueuedFor messageId payloadHash peer := by
  unfold Journal.modifyOutbound
  split
  · exact isQueued
  next record found => exact isQueued.touch found (memoryOnly record found)

section

variable (tracks : Tracks runtime limits io.compactedAt pending journal)
include tracks

/-- A message whose queueing was written is queued for its peer. -/
theorem appendQueued_queuedFor (free : journal.index.outbound.find? messageId = none)
    (written : (journal.appendQueued runtime io messageId payload peer addr).2 = .ok ()) :
    (journal.appendQueued runtime io messageId payload peer addr).1.index.QueuedFor messageId
      (runtime.payloadHashHex payload) peer := by
  unfold Journal.appendQueued at written ⊢
  dsimp only [Journal.makeEntry] at written ⊢
  generalize isEntry : JournalEntry.mk journal.nextSeq _ _ _ _ _ _ _ _ _ = entry at written ⊢
  have anchored : journal.index.Anchored entry := by
    subst isEntry
    constructor <;> simp [free]
  have readable : Readable runtime entry := by
    subst isEntry
    intro _
    simp [runtime.hexDecode_hexEncode]
  have applied : (journal.index.apply runtime entry).QueuedFor messageId
      (runtime.payloadHashHex payload) peer := by
    subst isEntry
    unfold Index.QueuedFor
    rw [Index.find?_apply_outbound, if_pos rfl]
    exact ⟨_, rfl, rfl, rfl, rfl⟩
  obtain ⟨kept, -, unwritten | ⟨-, -, isIndex⟩⟩ := tracks.numbered.append anchored readable
  · exact absurd written unwritten.2.1
  · rcases isIndex with isApplied | isRetained
    · rw [isApplied]
      exact applied
    · rw [isRetained]
      exact applied.retain

/-- A message whose address was renewed is still queued for its peer. -/
theorem appendAddress_queuedFor (isQueued : journal.index.QueuedFor messageId payloadHash peer)
    (written : (journal.appendAddress runtime io messageId payload peer addr).2 = .ok ()) :
    (journal.appendAddress runtime io messageId payload peer addr).1.index.QueuedFor messageId
      payloadHash peer := by
  obtain ⟨record, found, sameHash, samePeer, queued⟩ := isQueued
  unfold Journal.appendAddress at written ⊢
  dsimp only [Journal.makeEntry] at written ⊢
  generalize isEntry : JournalEntry.mk journal.nextSeq _ _ _ _ _ _ _ _ _ = entry at written ⊢
  have anchored : journal.index.Anchored entry := by
    subst isEntry
    constructor <;> simp [found, queued]
  have readable : Readable runtime entry := by
    subst isEntry
    rintro ⟨⟩
  have applied : (journal.index.apply runtime entry).QueuedFor messageId payloadHash peer := by
    subst isEntry
    unfold Index.QueuedFor
    rw [Index.find?_apply_outbound, if_pos rfl, found]
    refine ⟨_, rfl, ?_⟩
    unfold Index.readdressed
    split
    · exact ⟨sameHash, samePeer, queued⟩
    · exact ⟨sameHash, samePeer, queued⟩
  obtain ⟨kept, -, unwritten | ⟨-, -, isIndex⟩⟩ := tracks.numbered.append anchored readable
  · exact absurd written unwritten.2.1
  · rcases isIndex with isApplied | isRetained
    · rw [isApplied]
      exact applied
    · rw [isRetained]
      exact applied.retain

/-- A successful enqueue of an unsettled message leaves it queued for its peer. -/
theorem enqueueOutbound_queuedFor [DecidableEq Addr] {lease : Nat} {outcome : EnqueueOutcome}
    (enqueued : (journal.enqueueOutbound runtime io messageId payload peer addr lease).2 =
      .ok (.ok outcome)) (unsettled : outcome ≠ .existing .settled) :
    (journal.enqueueOutbound runtime io messageId payload peer addr lease).1.index.QueuedFor
      messageId (runtime.payloadHashHex payload) peer := by
  unfold Journal.enqueueOutbound at enqueued ⊢
  dsimp only at enqueued ⊢
  cases found : journal.index.outbound.find? messageId with
  | some record =>
      simp only [found] at enqueued ⊢
      by_cases conflict : record.payloadHash ≠ runtime.payloadHashHex payload ∨
          record.peerEndpointId ≠ peer
      · rw [if_pos conflict] at enqueued
        cases enqueued
      · rw [if_neg conflict] at enqueued ⊢
        rw [not_or, not_not, not_not] at conflict
        cases isState : record.state with
        | refused | expired => simp [isState] at enqueued
        | settled =>
            simp only [isState, Except.ok.injEq] at enqueued
            exact absurd enqueued.symm unsettled
        | queued =>
            simp only [isState] at enqueued ⊢
            have resending : ∀ other, journal.index.outbound.find? messageId = some other →
                MemoryOnly other (other.resent payload lease) := by
              intro other otherFound
              rw [found, Option.some.injEq] at otherFound
              exact .resent payload lease (otherFound ▸ isState)
            have leasedTracks : Tracks runtime limits io.compactedAt pending
                (journal.modifyOutbound messageId (.resent payload lease)) := by
              refine modifyOutbound_induct ?_ resending tracks
              intro journal named old changed oldFound memoryOnly held
              exact held.touch oldFound memoryOnly
            have leased : (journal.modifyOutbound messageId
                (.resent payload lease)).index.QueuedFor messageId
                  (runtime.payloadHashHex payload) peer :=
              Index.QueuedFor.modifyOutbound resending
                ⟨record, found, conflict.1, conflict.2, isState⟩
            by_cases sameAddr : record.peerAddr = some addr
            · rw [if_pos sameAddr]
              exact leased
            · rw [if_neg sameAddr] at enqueued ⊢
              refine appendAddress_queuedFor leasedTracks leased ?_
              cases isResult : ((journal.modifyOutbound messageId
                  (.resent payload lease)).appendAddress runtime io messageId payload peer addr).2 with
              | ok => rfl
              | error error =>
                  rw [isResult] at enqueued
                  cases enqueued
  | none =>
      simp only [found] at enqueued ⊢
      by_cases full : journal.limits.maxOutbox ≤ journal.index.queuedTotals.1
      · rw [if_pos full] at enqueued
        cases enqueued
      · rw [if_neg full] at enqueued ⊢
        by_cases large : journal.limits.maxOutboxBytes <
            journal.index.queuedTotals.2 + payload.utf8ByteSize
        · rw [if_pos large] at enqueued
          cases enqueued
        · rw [if_neg large] at enqueued ⊢
          cases isResult : (journal.appendQueued runtime io messageId payload peer addr).2 with
          | error error =>
              rw [isResult] at enqueued
              cases enqueued
          | ok =>
              exact Index.QueuedFor.modifyOutbound (fun record _ => .bookkeeping record _ _)
                (appendQueued_queuedFor tracks found isResult)

end

end

end

end Triangle.PeerEngine
