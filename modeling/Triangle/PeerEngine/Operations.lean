import Triangle.PeerEngine.Journal

/-!
# What a journal operation can do

Every public operation is made of four primitive changes: bookkeeping of an
outbound record in memory, taking the next `seq`, appending one record that the
index allows, and compacting. `Operation.perform_induct` says so once; each
invariant of the journal is proved for the four primitives and holds for the
operations by this rule.
-/

namespace Triangle.PeerEngine

open Triangle.Std

section

variable {Addr : Type}

/-- A call of the journal's interface. `takeDue` carries the order in which the
hash map is visited. -/
inductive Operation (Addr : Type) where
  | enqueueOutbound (messageId payload peerEndpointId : String) (peerAddr : Addr)
      (leaseUntilUnixMs : Nat)
  | recordSettled (messageId : String)
  | recordRefused (messageId reason : String)
  | recordExpired (messageId : String)
  | noteAttemptFailed (messageId : String) (nextAttemptUnixMs : Nat)
  | takeDue (order : List String) (now expiryMs leaseUntilUnixMs maxDue : Nat)
  | acceptInbound (sender messageId payload : String)
  | consume (sender messageId : String)
  | compact

variable (runtime : JournalRuntime Addr)

/-- The journal after a call. -/
def Operation.perform [DecidableEq Addr] (operation : Operation Addr) (io : Io)
    (journal : Journal Addr) : Journal Addr :=
  match operation with
  | .enqueueOutbound messageId payload peerEndpointId peerAddr leaseUntilUnixMs =>
      (journal.enqueueOutbound runtime io messageId payload peerEndpointId peerAddr
        leaseUntilUnixMs).1
  | .recordSettled messageId => (journal.recordSettled runtime io messageId).1
  | .recordRefused messageId reason => (journal.recordRefused runtime io messageId reason).1
  | .recordExpired messageId => (journal.recordExpired runtime io messageId).1
  | .noteAttemptFailed messageId nextAttemptUnixMs =>
      journal.noteAttemptFailed messageId nextAttemptUnixMs
  | .takeDue order now expiryMs leaseUntilUnixMs maxDue =>
      (journal.takeDue order now expiryMs leaseUntilUnixMs maxDue).journal
  | .acceptInbound sender messageId payload =>
      (journal.acceptInbound runtime io sender messageId payload).1
  | .consume sender messageId => (journal.consume runtime io sender messageId).1
  | .compact => (journal.compact runtime io.compactedAt io.rewrite).1

/-- A change of a record that the file does not show: retry bookkeeping, and
the payload of a queued record that has none. -/
structure MemoryOnly (before after : OutboundRecord Addr) : Prop where
  durable : after =
    { before with
      attempts := after.attempts
      nextAttemptUnixMs := after.nextAttemptUnixMs
      payload := after.payload }
  payload : after.payload = before.payload ∨ before.payload = none ∧ before.state = .queued

/-- The record that closes a message in state `terminal`. -/
inductive Closes (messageId : String) : Operation Addr → DeliveryState → Prop where
  | settled : Closes messageId (.recordSettled messageId) .settled
  | refused (reason : String) : Closes messageId (.recordRefused messageId reason) .refused
  | expired : Closes messageId (.recordExpired messageId) .expired

/-- The records that an operation appends, with what it checked before. -/
inductive Appends (io : Io) (journal : Journal Addr) :
    Operation Addr → JournalEntry Addr → Prop where
  | queued (messageId payload peerEndpointId : String) (peerAddr : Addr) (lease seq : Nat)
      (free : journal.index.outbound.find? messageId = none)
      (roomLeft : journal.index.queuedTotals.1 < journal.limits.maxOutbox)
      (bytesLeft : journal.index.queuedTotals.2 + payload.utf8ByteSize ≤
        journal.limits.maxOutboxBytes)
      (numbered : seq + 1 = journal.nextSeq) :
      Appends io journal (.enqueueOutbound messageId payload peerEndpointId peerAddr lease)
        { seq := seq
          state := .queuedLocal
          messageId := messageId
          payloadHash := runtime.payloadHashHex payload
          payloadHex := some (runtime.hexEncode payload)
          peerEndpointId := some peerEndpointId
          peerAddr := some peerAddr
          queuedAtUnixMs := some io.now
          reason := none
          tsUnixMs := io.stampedAt }
  | readdressed (messageId payload peerEndpointId : String) (peerAddr : Addr) (lease seq : Nat)
      (record : OutboundRecord Addr)
      (found : journal.index.outbound.find? messageId = some record)
      (isQueued : record.state = .queued)
      (samePayload : record.payloadHash = runtime.payloadHashHex payload)
      (samePeer : record.peerEndpointId = peerEndpointId)
      (numbered : seq + 1 = journal.nextSeq) :
      Appends io journal (.enqueueOutbound messageId payload peerEndpointId peerAddr lease)
        { seq := seq
          state := .addressUpdated
          messageId := messageId
          payloadHash := runtime.payloadHashHex payload
          payloadHex := none
          peerEndpointId := some peerEndpointId
          peerAddr := some peerAddr
          queuedAtUnixMs := none
          reason := none
          tsUnixMs := io.stampedAt }
  | closed (operation : Operation Addr) (messageId : String) (state : DeliveryState)
      (reason : Option String) (seq : Nat) (record : OutboundRecord Addr)
      (closes : Closes messageId operation state)
      (found : journal.index.outbound.find? messageId = some record)
      (isQueued : record.state = .queued)
      (numbered : seq + 1 = journal.nextSeq) :
      Appends io journal operation
        { seq := seq
          state := state
          messageId := messageId
          payloadHash := record.payloadHash
          payloadHex := none
          peerEndpointId := some record.peerEndpointId
          peerAddr := none
          queuedAtUnixMs := some record.queuedAtUnixMs
          reason := reason
          tsUnixMs := io.stampedAt }
  | received (sender messageId payload : String) (seq : Nat)
      (free : journal.index.inbound.find? (sender, messageId) = none)
      (roomLeft : ((journal.index.liveInbound.find? sender).getD ⟨sender, 0, 0⟩).count + 1 ≤
        journal.limits.maxUnconsumedPerPeer)
      (bytesLeft : ((journal.index.liveInbound.find? sender).getD ⟨sender, 0, 0⟩).bytes +
        payload.utf8ByteSize ≤ journal.limits.maxUnconsumedBytesPerPeer)
      (numbered : seq + 1 = journal.nextSeq) :
      Appends io journal (.acceptInbound sender messageId payload)
        { seq := seq
          state := .receivedPeer
          messageId := messageId
          payloadHash := runtime.payloadHashHex payload
          payloadHex := some (runtime.hexEncode payload)
          peerEndpointId := some sender
          peerAddr := none
          queuedAtUnixMs := none
          reason := none
          tsUnixMs := io.stampedAt }
  | duplicate (sender messageId payload : String) (seq : Nat) (record : InboundRecord)
      (found : journal.index.inbound.find? (sender, messageId) = some record)
      (samePayload : record.payloadHash = runtime.payloadHashHex payload)
      (numbered : seq + 1 = journal.nextSeq) :
      Appends io journal (.acceptInbound sender messageId payload)
        { seq := seq
          state := .duplicateSuppressed
          messageId := messageId
          payloadHash := runtime.payloadHashHex payload
          payloadHex := none
          peerEndpointId := some sender
          peerAddr := none
          queuedAtUnixMs := none
          reason := none
          tsUnixMs := io.stampedAt }
  | consumed (sender messageId : String) (seq : Nat) (record : InboundRecord)
      (found : journal.index.inbound.find? (sender, messageId) = some record)
      (unconsumed : record.consumed = false)
      (numbered : seq + 1 = journal.nextSeq) :
      Appends io journal (.consume sender messageId)
        { seq := seq
          state := .consumed
          messageId := messageId
          payloadHash := record.payloadHash
          payloadHex := none
          peerEndpointId := some sender
          peerAddr := none
          queuedAtUnixMs := none
          reason := none
          tsUnixMs := io.stampedAt }

/-- Changing retry bookkeeping alone is a memory-only change. -/
theorem MemoryOnly.bookkeeping (record : OutboundRecord Addr) (attempts next : Nat) :
    MemoryOnly record { record with attempts := attempts, nextAttemptUnixMs := next } :=
  ⟨rfl, .inl rfl⟩

/-- Sending a queued record again is a memory-only change. -/
theorem MemoryOnly.resent {record : OutboundRecord Addr} (payload : String) (lease : Nat)
    (isQueued : record.state = .queued) : MemoryOnly record (record.resent payload lease) := by
  refine ⟨rfl, ?_⟩
  cases isPayload : record.payload with
  | none => exact .inr ⟨rfl, isQueued⟩
  | some kept => exact .inl (by simp [OutboundRecord.resent, isPayload])

section

variable {runtime} {holds : Journal Addr → Prop}

variable {journal : Journal Addr}

/-- A property kept by memory-only changes is kept by `modifyOutbound`. -/
theorem modifyOutbound_induct (touch : ∀ (journal : Journal Addr) messageId record changed,
      journal.index.outbound.find? messageId = some record → MemoryOnly record changed →
      holds journal → holds { journal with index := journal.index.setOutbound changed })
    {messageId : String} {change : OutboundRecord Addr → OutboundRecord Addr}
    (bookkeeping : ∀ record, journal.index.outbound.find? messageId = some record →
      MemoryOnly record (change record)) (start : holds journal) :
    holds (journal.modifyOutbound messageId change) := by
  unfold Journal.modifyOutbound
  split
  · exact start
  next record found => exact touch journal messageId record _ found (bookkeeping record found) start

/-- A property kept by memory-only changes is kept by `takeDue`. -/
theorem takeDue_induct {order : List String} {now expiryMs leaseUntilUnixMs maxDue : Nat}
    (touch : ∀ (journal : Journal Addr) messageId record changed,
      journal.index.outbound.find? messageId = some record → MemoryOnly record changed →
      holds journal → holds { journal with index := journal.index.setOutbound changed })
    (start : holds journal) :
    holds (journal.takeDue order now expiryMs leaseUntilUnixMs maxDue).journal := by
  have visits : ∀ (taken : Journal.Taken Addr), holds taken.journal →
      holds (order.foldl
        (Journal.takeOne now expiryMs leaseUntilUnixMs maxDue) taken).journal := by
    induction order with
    | nil => exact fun _ held => held
    | cons messageId rest ih =>
        intro taken held
        apply ih
        unfold Journal.takeOne
        split
        · exact held
        · split_ifs
          · exact held
          · exact held
          · exact held
          · split
            · exact modifyOutbound_induct touch (fun record _ => .bookkeeping record _ _) held
            · exact held
  exact visits ⟨journal, [], []⟩ start

/-- Every operation takes a property `before` to a property `after` that its
append and its compaction lead to; `numbered` holds once the number of a record
is taken, which is right before its append. -/
theorem Operation.perform_leads [DecidableEq Addr] {operation : Operation Addr} {io : Io}
    (before numbered after : Journal Addr → Prop)
    (weaken : ∀ {journal}, before journal → after journal)
    (touch : ∀ (journal : Journal Addr) messageId record changed,
      journal.index.outbound.find? messageId = some record → MemoryOnly record changed →
      before journal → before { journal with index := journal.index.setOutbound changed })
    (touchAfter : ∀ (journal : Journal Addr) messageId record changed,
      journal.index.outbound.find? messageId = some record → MemoryOnly record changed →
      after journal → after { journal with index := journal.index.setOutbound changed })
    (number : ∀ journal, before journal → numbered { journal with nextSeq := journal.nextSeq + 1 })
    (append : ∀ journal entry, Appends runtime io journal operation entry →
      numbered journal → after (journal.appendDurable runtime entry io).1)
    (compact : ∀ journal, before journal →
      after (journal.compact runtime io.compactedAt io.rewrite).1) (start : before journal) :
    after (operation.perform runtime io journal) := by
  have finish : ∀ messageId state reason, Closes messageId operation state →
      after (journal.finishOutbound runtime io messageId state reason).1 := by
    intro messageId state reason closes
    unfold Journal.finishOutbound
    split
    · exact weaken start
    next record found =>
      split_ifs with isQueued
      · exact weaken start
      · rw [not_not] at isQueued
        exact append _ _ (.closed operation messageId state reason journal.nextSeq record closes
          found isQueued rfl) (number journal start)
  cases operation with
  | enqueueOutbound messageId payload peerEndpointId peerAddr lease =>
      simp only [perform, Journal.enqueueOutbound]
      split
      next record found =>
        by_cases conflict : record.payloadHash ≠ runtime.payloadHashHex payload ∨
            record.peerEndpointId ≠ peerEndpointId
        · rw [if_pos conflict]
          exact weaken start
        · rw [if_neg conflict]
          rw [not_or, not_not, not_not] at conflict
          split
          · exact weaken start
          · exact weaken start
          · exact weaken start
          next isQueued =>
            have leased : before (journal.modifyOutbound messageId (.resent payload lease)) := by
              refine modifyOutbound_induct touch (fun other otherFound => ?_) start
              rw [found, Option.some.injEq] at otherFound
              exact otherFound ▸ .resent payload lease isQueued
            split_ifs with sameAddr
            · exact weaken leased
            · refine append _ _ ?_ (number _ leased)
              refine .readdressed messageId payload peerEndpointId peerAddr lease _
                (record.resent payload lease) ?_ isQueued conflict.1 conflict.2 rfl
              have sameId : (record.resent payload lease).messageId = messageId :=
                (Table.find?_some found).2
              simp only [Journal.makeEntry, Journal.modifyOutbound, found, Index.setOutbound]
              rw [Table.find?_upsert, if_pos sameId.symm]
      next free =>
        split_ifs with full large
        · exact weaken start
        · exact weaken start
        · have appended := append { journal with nextSeq := journal.nextSeq + 1 } _
            (.queued messageId payload peerEndpointId peerAddr lease journal.nextSeq free
              (Nat.lt_of_not_le full) (Nat.le_of_not_lt large) rfl) (number journal start)
          split
          · exact appended
          · exact modifyOutbound_induct touchAfter (fun record _ => .bookkeeping record _ _) appended
  | recordSettled messageId => exact finish messageId _ _ .settled
  | recordRefused messageId reason => exact finish messageId _ _ (.refused reason)
  | recordExpired messageId => exact finish messageId _ _ .expired
  | noteAttemptFailed messageId next =>
      exact weaken (modifyOutbound_induct touch (fun record _ => .bookkeeping record _ _) start)
  | takeDue order now expiryMs lease maxDue => exact weaken (takeDue_induct touch start)
  | acceptInbound sender messageId payload =>
      simp only [perform, Journal.acceptInbound]
      split
      next record found =>
        split_ifs with conflict
        · exact weaken start
        · rw [not_not] at conflict
          exact append _ _ (.duplicate sender messageId payload journal.nextSeq record found
            conflict rfl) (number journal start)
      next free =>
        split_ifs with full
        · exact weaken start
        · rw [not_or] at full
          exact append _ _ (.received sender messageId payload journal.nextSeq free
            (Nat.le_of_not_lt full.1) (Nat.le_of_not_lt full.2) rfl) (number journal start)
  | consume sender messageId =>
      simp only [perform, Journal.consume]
      split
      · exact weaken start
      next record found =>
        split_ifs with isConsumed
        · exact weaken start
        · rw [Bool.not_eq_true] at isConsumed
          exact append _ _ (.consumed sender messageId journal.nextSeq record found isConsumed rfl)
            (number journal start)
  | compact => exact compact journal start

/-- A property kept by the four primitive changes is kept by every operation. -/
theorem Operation.perform_induct [DecidableEq Addr] {operation : Operation Addr} {io : Io}
    (holds : Journal Addr → Prop) (touch : ∀ (journal : Journal Addr) messageId record changed,
      journal.index.outbound.find? messageId = some record → MemoryOnly record changed →
      holds journal → holds { journal with index := journal.index.setOutbound changed })
    (number : ∀ journal, holds journal → holds { journal with nextSeq := journal.nextSeq + 1 })
    (append : ∀ journal entry, Appends runtime io journal operation entry →
      holds journal → holds (journal.appendDurable runtime entry io).1)
    (compact : ∀ journal, holds journal →
      holds (journal.compact runtime io.compactedAt io.rewrite).1) (start : holds journal) :
    holds (operation.perform runtime io journal) :=
  Operation.perform_leads holds holds holds id touch touch number append compact start

end

end

end Triangle.PeerEngine
