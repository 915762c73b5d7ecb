import Mathlib.Order.Nat
import Triangle.PeerEngine.Life

/-!
# The quotas of a journal

The totals of a sender are what its unconsumed messages add up to, and no total
passes its limit. Every change but an append makes the index lighter or leaves
its weight; an append was admitted by the totals it was checked against.
-/

namespace Triangle.PeerEngine

open Triangle.Std

section

variable {Addr : Type}

/-- Whether an outbound message counts against the outbox. -/
def queuedWeight (record : OutboundRecord Addr) : Nat :=
  if record.state = .queued then 1 else 0

/-- The payload bytes an outbound message counts against the outbox. -/
def queuedBytes (record : OutboundRecord Addr) : Nat :=
  if record.state = .queued then (record.payload.map String.utf8ByteSize).getD 0 else 0

namespace Index

/-- The unconsumed messages of a sender. -/
def unconsumedOf (index : Index Addr) (sender : String) : List InboundRecord :=
  index.inbound.select fun record => record.sender = sender && !record.consumed

variable {index : Index Addr}

variable (sender : String)

theorem sumOver_liveWeight :
    index.inbound.sumOver (liveWeight sender) = (index.unconsumedOf sender).length := by
  unfold Table.sumOver unconsumedOf Table.select
  induction index.inbound.rows with
  | nil => rfl
  | cons record rest ih =>
      rw [List.map_cons, List.sum_cons, ih, List.filter_cons]
      by_cases counts : record.sender = sender ∧ record.consumed = false
      · rw [if_pos (by simp [counts]), List.length_cons, liveWeight, if_pos counts, Nat.add_comm]
      · rw [if_neg (by simpa using counts), liveWeight, if_neg counts, Nat.zero_add]

theorem sumOver_liveBytes :
    index.inbound.sumOver (liveBytes sender) =
      ((index.unconsumedOf sender).map InboundRecord.payloadBytes).sum := by
  unfold Table.sumOver unconsumedOf Table.select
  induction index.inbound.rows with
  | nil => rfl
  | cons record rest ih =>
      rw [List.map_cons, List.sum_cons, ih, List.filter_cons]
      by_cases counts : record.sender = sender ∧ record.consumed = false
      · rw [if_pos (by simp [counts]), List.map_cons, List.sum_cons, liveBytes, if_pos counts]
      · rw [if_neg (by simpa using counts), liveBytes, if_neg counts, Nat.zero_add]

/-- The totals of the queued messages. -/
theorem queuedTotals_eq : index.queuedTotals =
    (index.outbound.sumOver queuedWeight, index.outbound.sumOver queuedBytes) := by
  have through : ∀ totals : Nat × Nat,
      (index.outbound.rows.filter fun record => record.state = .queued).foldl
        (fun totals record =>
          (totals.1 + 1, totals.2 + (record.payload.map String.utf8ByteSize).getD 0)) totals =
      (totals.1 + (index.outbound.rows.map queuedWeight).sum,
        totals.2 + (index.outbound.rows.map queuedBytes).sum) := by
    induction index.outbound.rows with
    | nil => exact fun _ => rfl
    | cons record rest ih =>
        intro totals
        rw [List.filter_cons, List.map_cons, List.map_cons, List.sum_cons, List.sum_cons]
        by_cases isQueued : record.state = .queued
        · rw [if_pos (decide_eq_true isQueued), List.foldl_cons, ih, queuedWeight,
            queuedBytes, if_pos isQueued, if_pos isQueued, Nat.add_assoc, Nat.add_assoc]
        · rw [if_neg (by simpa using isQueued), ih, queuedWeight, queuedBytes,
            if_neg isQueued, if_neg isQueued, Nat.zero_add, Nat.zero_add]
  exact (through (0, 0)).trans (by rw [Nat.zero_add, Nat.zero_add]; rfl)

/-- No total passes its limit. -/
structure Within (limits : JournalLimits) (index : Index Addr) : Prop where
  count : ∀ sender, index.inbound.sumOver (liveWeight sender) ≤ limits.maxUnconsumedPerPeer
  bytes : ∀ sender, index.inbound.sumOver (liveBytes sender) ≤ limits.maxUnconsumedBytesPerPeer
  outbox : index.outbound.sumOver queuedWeight ≤ limits.maxOutbox
  outboxBytes : index.outbound.sumOver queuedBytes ≤ limits.maxOutboxBytes

/-- The payload bytes of a record. -/
def entryBytes (runtime : JournalRuntime Addr) (entry : JournalEntry Addr) : Nat :=
  ((entry.payloadHex.bind runtime.hexDecode).map String.utf8ByteSize).getD 0

/-- The totals have room for what the record adds. -/
structure Admits (runtime : JournalRuntime Addr) (limits : JournalLimits) (index : Index Addr)
    (entry : JournalEntry Addr) : Prop where
  count : entry.state = .receivedPeer → ∀ sender, entry.peerEndpointId = some sender →
    1 + index.inbound.sumOver (liveWeight sender) ≤ limits.maxUnconsumedPerPeer
  bytes : entry.state = .receivedPeer → ∀ sender, entry.peerEndpointId = some sender →
    entryBytes runtime entry + index.inbound.sumOver (liveBytes sender) ≤
      limits.maxUnconsumedBytesPerPeer
  outbox : entry.state = .queuedLocal →
    1 + index.outbound.sumOver queuedWeight ≤ limits.maxOutbox
  outboxBytes : entry.state = .queuedLocal →
    entryBytes runtime entry + index.outbound.sumOver queuedBytes ≤ limits.maxOutboxBytes

/-- No key weighs more in the first index than in the second. -/
structure Lighter (first second : Index Addr) : Prop where
  count : ∀ sender key, first.inbound.weightAt (liveWeight sender) key ≤
    second.inbound.weightAt (liveWeight sender) key
  bytes : ∀ sender key, first.inbound.weightAt (liveBytes sender) key ≤
    second.inbound.weightAt (liveBytes sender) key
  outbox : ∀ key, first.outbound.weightAt queuedWeight key ≤
    second.outbound.weightAt queuedWeight key
  outboxBytes : ∀ key, first.outbound.weightAt queuedBytes key ≤
    second.outbound.weightAt queuedBytes key

variable {runtime : JournalRuntime Addr} {limits : JournalLimits} {now : Nat}
  {first second disk base : Index Addr} {entry : JournalEntry Addr}

theorem Within.of_lighter (within : second.Within limits) (lighter : first.Lighter second) :
    first.Within limits where
  count := fun sender => (Table.sumOver_le (lighter.count sender)).trans (within.count sender)
  bytes := fun sender => (Table.sumOver_le (lighter.bytes sender)).trans (within.bytes sender)
  outbox := (Table.sumOver_le lighter.outbox).trans within.outbox
  outboxBytes := (Table.sumOver_le lighter.outboxBytes).trans within.outboxBytes

theorem Admits.of_lighter (admits : second.Admits runtime limits entry)
    (lighter : first.Lighter second) : first.Admits runtime limits entry where
  count := fun isReceived sender isSender =>
    (Nat.add_le_add_left (Table.sumOver_le (lighter.count sender)) 1).trans
      (admits.count isReceived sender isSender)
  bytes := fun isReceived sender isSender =>
    (Nat.add_le_add_left (Table.sumOver_le (lighter.bytes sender)) _).trans
      (admits.bytes isReceived sender isSender)
  outbox := fun isQueued =>
    (Nat.add_le_add_left (Table.sumOver_le lighter.outbox) 1).trans (admits.outbox isQueued)
  outboxBytes := fun isQueued =>
    (Nat.add_le_add_left (Table.sumOver_le lighter.outboxBytes) _).trans
      (admits.outboxBytes isQueued)

/-- What a filter leaves of a key weighs no more. -/
theorem weight_filter_le {Row : Type} (weight : Row → Nat) (keeps : Row → Bool)
    (found : Option Row) : ((found.filter keeps).map weight).getD 0 ≤ (found.map weight).getD 0 := by
  cases found with
  | none => exact Nat.le_refl 0
  | some row =>
      rw [Option.filter_some]
      split
      · exact Nat.le_refl _
      · exact Nat.zero_le _

theorem lighter_retain (limits : JournalLimits) (now : Nat) (index : Index Addr) :
    (index.retain limits now).Lighter index where
  count := fun sender key => by
    unfold Table.weightAt
    rw [find?_retain_inbound]
    exact weight_filter_le _ _ _
  bytes := fun sender key => by
    unfold Table.weightAt
    rw [find?_retain_inbound]
    exact weight_filter_le _ _ _
  outbox := fun key => by
    unfold Table.weightAt
    rw [find?_retain_outbound]
    exact weight_filter_le _ _ _
  outboxBytes := fun key => by
    unfold Table.weightAt
    rw [find?_retain_outbound]
    exact weight_filter_le _ _ _

variable (record : OutboundRecord Addr)

/-- What counts is durable. -/
theorem queuedWeight_durable : queuedWeight record.durable = queuedWeight record := rfl

theorem queuedBytes_durable : queuedBytes record.durable = queuedBytes record := rfl

variable {weight : OutboundRecord Addr → Nat}

/-- Records that are durably equal weigh the same. -/
theorem weight_durable (isDurable : ∀ record, weight record.durable = weight record)
    {first second : Option (OutboundRecord Addr)}
    (same : first.map OutboundRecord.durable = second.map OutboundRecord.durable) :
    (first.map weight).getD 0 = (second.map weight).getD 0 := by
  have through : ∀ record : Option (OutboundRecord Addr),
      record.map weight = (record.map OutboundRecord.durable).map weight := by
    intro record
    cases record with
    | none => rfl
    | some record => rw [Option.map_some, Option.map_some, Option.map_some, isDurable]
  rw [through first, through second, same]

/-- What a file shows weighs no more than the index it covers. -/
theorem Covers.lighter (covers : Covers limits now disk base) : disk.Lighter base := by
  have ofInbound : ∀ (weight : InboundRecord → Nat),
      (∀ record, record.consumed = true → weight record = 0) →
      ∀ key, disk.inbound.weightAt weight key ≤ base.inbound.weightAt weight key := by
    intro weight weightless key
    unfold Table.weightAt
    rcases covers.inbound key with same | ⟨gone, record, found, dropped⟩
    · rw [same]
    · have isConsumed : record.consumed = true := by
        unfold keepsInbound at dropped
        rw [Bool.or_eq_false_iff, Bool.not_eq_false'] at dropped
        exact dropped.1
      rw [gone, found, Option.map_some, Option.getD_some, weightless record isConsumed]
      exact Nat.zero_le _
  have ofOutbound : ∀ (weight : OutboundRecord Addr → Nat),
      (∀ record, weight record.durable = weight record) →
      (∀ record, record.state ≠ .queued → weight record = 0) →
      ∀ key, disk.outbound.weightAt weight key ≤ base.outbound.weightAt weight key := by
    intro weight isDurable weightless key
    unfold Table.weightAt
    rcases covers.outbound key with same | ⟨gone, record, found, dropped⟩
    · rw [weight_durable isDurable same]
    · have notQueued : record.state ≠ .queued := by
        unfold keepsOutbound at dropped
        rw [Bool.or_eq_false_iff, decide_eq_false_iff_not] at dropped
        exact dropped.1
      rw [gone, found, Option.map_some, Option.getD_some, weightless record notQueued]
      exact Nat.zero_le _
  exact {
    count := fun sender => ofInbound _ fun record isConsumed => by simp [liveWeight, isConsumed]
    bytes := fun sender => ofInbound _ fun record isConsumed => by simp [liveBytes, isConsumed]
    outbox := ofOutbound _ queuedWeight_durable fun record notQueued => if_neg notQueued
    outboxBytes := ofOutbound _ queuedBytes_durable fun record notQueued => if_neg notQueued }

/-- Bookkeeping in memory weighs nothing. -/
theorem lighter_touch {messageId : String} {record changed : OutboundRecord Addr}
    (wellFormed : record.WellFormed) (found : index.outbound.find? messageId = some record)
    (memoryOnly : MemoryOnly record changed) : (index.setOutbound changed).Lighter index := by
  have same : ∀ key, ((index.setOutbound changed).outbound.find? key).map OutboundRecord.durable =
      (index.outbound.find? key).map OutboundRecord.durable := by
    intro key
    rw [Index.find?_setOutbound found memoryOnly]
    split
    next isMessage =>
      rw [isMessage, found, Option.map_some, Option.map_some, memoryOnly.durable_eq wellFormed]
    · rfl
  exact {
    count := fun _ _ => Nat.le_refl _
    bytes := fun _ _ => Nat.le_refl _
    outbox := fun key => (weight_durable queuedWeight_durable (same key)).le
    outboxBytes := fun key => (weight_durable queuedBytes_durable (same key)).le }

/-- A record adds at most the message it receives. -/
theorem apply_inbound_le {weight : InboundRecord → Nat}
    (weightless : ∀ record, record.consumed = true → weight record = 0) :
    (index.apply runtime entry).inbound.sumOver weight ≤ index.inbound.sumOver weight ∨
      ∃ sender, entry.state = .receivedPeer ∧ entry.peerEndpointId = some sender ∧
        (index.apply runtime entry).inbound.sumOver weight ≤
          weight (receivedRecord runtime entry sender) + index.inbound.sumOver weight := by
  unfold apply
  cases isState : entry.state with
  | receivedPeer =>
      cases isPeer : entry.peerEndpointId with
      | none => exact .inl (Nat.le_refl _)
      | some sender =>
          refine .inr ⟨sender, rfl, rfl, ?_⟩
          simp only [applyReceived, liveAdd_inbound, dropLive_inbound]
          exact Table.sumOver_upsert_le _ _ _
  | consumed =>
      cases entry.peerEndpointId with
      | none => exact .inl (Nat.le_refl _)
      | some sender =>
          left
          simp only [applyConsumed, dropLive_inbound]
          refine (Table.sumOver_upsert_le _ _ _).trans ?_
          rw [weightless _ rfl, Nat.zero_add]
  | queuedLocal => cases entry.peerEndpointId <;> exact .inl (Nat.le_refl _)
  | settled | refused | expired => exact .inl (Nat.le_refl _)
  | addressUpdated =>
      left
      simp only [applyAddress_inbound]
      exact Nat.le_refl _
  | duplicateSuppressed | checkpoint => exact .inl (Nat.le_refl _)

/-- A record adds at most the message it queues. -/
theorem apply_outbound_le (weightless : ∀ record, record.state ≠ .queued → weight record = 0)
    (readdresses : ∀ record, weight (readdressed entry record) = weight record) :
    (index.apply runtime entry).outbound.sumOver weight ≤ index.outbound.sumOver weight ∨
      ∃ peer, entry.state = .queuedLocal ∧
        (index.apply runtime entry).outbound.sumOver weight ≤
          weight (queuedRecord runtime entry peer) + index.outbound.sumOver weight := by
  have closes : ∀ state, state ≠ .queued →
      (index.applyTerminal state entry).outbound.sumOver weight ≤ index.outbound.sumOver weight := by
    intro state closed
    refine (Table.sumOver_upsert_le _ _ _).trans ?_
    rw [weightless, Nat.zero_add]
    cases index.outbound.find? entry.messageId with
    | none | some => exact closed
  unfold apply
  cases isState : entry.state with
  | queuedLocal =>
      cases entry.peerEndpointId with
      | none => exact .inl (Nat.le_refl _)
      | some peer => exact .inr ⟨peer, rfl, Table.sumOver_upsert_le _ _ _⟩
  | settled => exact .inl (closes .settled (by decide))
  | refused => exact .inl (closes .refused (by decide))
  | expired => exact .inl (closes .expired (by decide))
  | addressUpdated =>
      left
      simp only [applyAddress]
      split
      · exact Nat.le_refl _
      next record found =>
        have sameKey : (readdressed entry record).messageId = entry.messageId := by
          unfold readdressed
          split <;> exact (Table.find?_some found).2
        rw [← sameKey] at found
        exact (Table.sumOver_upsert_same found (readdresses record)).le
  | receivedPeer => cases entry.peerEndpointId <;> simp [applyReceived]
  | consumed => cases entry.peerEndpointId <;> simp [applyConsumed]
  | duplicateSuppressed | checkpoint => exact .inl (Nat.le_refl _)

/-- A record that is admitted keeps the totals within their limits. -/
theorem Within.apply (within : index.Within limits) (admits : index.Admits runtime limits entry) :
    (index.apply runtime entry).Within limits := by
  have ofInbound : ∀ (weight : String → InboundRecord → Nat) (most : Nat),
      (∀ sender record, record.consumed = true → weight sender record = 0) →
      (∀ sender record, record.sender ≠ sender → weight sender record = 0) →
      (∀ sender, entry.state = .receivedPeer → entry.peerEndpointId = some sender →
        weight sender (receivedRecord runtime entry sender) +
          index.inbound.sumOver (weight sender) ≤ most) →
      (∀ sender, index.inbound.sumOver (weight sender) ≤ most) →
      ∀ sender, (index.apply runtime entry).inbound.sumOver (weight sender) ≤ most := by
    intro weight most weightless others admitted wasWithin sender
    rcases apply_inbound_le (weightless sender) with lighter | ⟨peer, isReceived, isPeer, added⟩
    · exact lighter.trans (wasWithin sender)
    · by_cases same : peer = sender
      · exact added.trans (same ▸ admitted peer isReceived isPeer)
      · rw [others sender (receivedRecord runtime entry peer) same, Nat.zero_add] at added
        exact added.trans (wasWithin sender)
  have readdressed_eq : ∀ record, (readdressed entry record).state = record.state ∧
      (readdressed entry record).payload = record.payload := by
    intro record
    unfold readdressed
    split <;> exact ⟨rfl, rfl⟩
  refine ⟨ofInbound liveWeight _ ?_ ?_ ?_ within.count, ofInbound liveBytes _ ?_ ?_ ?_ within.bytes,
    ?_, ?_⟩
  · exact fun sender record isConsumed => by simp [liveWeight, isConsumed]
  · exact fun sender record differs => by simp [liveWeight, differs]
  · intro sender isReceived isSender
    simpa [liveWeight, receivedRecord] using admits.count isReceived sender isSender
  · exact fun sender record isConsumed => by simp [liveBytes, isConsumed]
  · exact fun sender record differs => by simp [liveBytes, differs]
  · intro sender isReceived isSender
    simpa [liveBytes, receivedRecord, InboundRecord.payloadBytes, entryBytes] using
      admits.bytes isReceived sender isSender
  · have weightless : ∀ record : OutboundRecord Addr, record.state ≠ .queued →
        queuedWeight record = 0 := fun record notQueued => if_neg notQueued
    have readdresses : ∀ record, queuedWeight (readdressed entry record) = queuedWeight record :=
      fun record => by simp only [queuedWeight, (readdressed_eq record).1]
    rcases apply_outbound_le weightless readdresses with lighter | ⟨peer, isQueued, added⟩
    · exact lighter.trans within.outbox
    · exact added.trans (admits.outbox isQueued)
  · have weightless : ∀ record : OutboundRecord Addr, record.state ≠ .queued →
        queuedBytes record = 0 := fun record notQueued => if_neg notQueued
    have readdresses : ∀ record, queuedBytes (readdressed entry record) = queuedBytes record :=
      fun record => by simp only [queuedBytes, readdressed_eq record]
    rcases apply_outbound_le weightless readdresses with lighter | ⟨peer, isQueued, added⟩
    · exact lighter.trans within.outboxBytes
    · exact added.trans (admits.outboxBytes isQueued)

/-- In an exact index a total has room for each unconsumed message it counts, so
taking the message off it never goes below zero. -/
theorem LiveExact.covers_record (exact : index.LiveExact) {key : String × String}
    {record : InboundRecord} (found : index.inbound.find? key = some record)
    (unconsumed : record.consumed = false) :
    ∃ total, index.liveInbound.find? record.sender = some total ∧ 1 ≤ total.count ∧
      record.payloadBytes ≤ total.bytes := by
  have counts : ∀ weight : InboundRecord → Nat, weight record ≤ index.inbound.sumOver weight := by
    intro weight
    rw [Table.sumOver_eq_weightAt_add _ _ key, Table.weightAt, found]
    exact Nat.le_add_right _ _
  have one := counts (liveWeight record.sender)
  have some := counts (liveBytes record.sender)
  rw [liveWeight, if_pos ⟨rfl, unconsumed⟩] at one
  rw [liveBytes, if_pos ⟨rfl, unconsumed⟩] at some
  refine ⟨_, (exact record.sender).trans (if_neg ?_), one, some⟩
  dsimp only
  omega

end Index

variable {runtime : JournalRuntime Addr} {limits : JournalLimits} {now : Nat} {io : Io}
  {operation : Operation Addr}

variable {journal : Journal Addr} {entry : JournalEntry Addr}

/-- What an operation appends was admitted by the totals. -/
theorem Appends.admits (appends : Appends runtime io journal operation entry)
    (exact : journal.index.LiveExact) (isLimits : journal.limits = limits) :
    journal.index.Admits runtime limits entry := by
  have other : entry.state ≠ .receivedPeer → entry.state ≠ .queuedLocal →
      journal.index.Admits runtime limits entry := fun notReceived notQueued =>
    ⟨fun isReceived => absurd isReceived notReceived, fun isReceived => absurd isReceived notReceived,
      fun isQueued => absurd isQueued notQueued, fun isQueued => absurd isQueued notQueued⟩
  subst isLimits
  cases appends with
  | queued messageId payload peer addr lease seq free roomLeft bytesLeft =>
      rw [Index.queuedTotals_eq] at roomLeft bytesLeft
      refine ⟨nofun, nofun, ?_, ?_⟩
      · intro _
        dsimp only at roomLeft
        omega
      · intro _
        simp only [Index.entryBytes, Option.bind_some, runtime.hexDecode_hexEncode,
          Option.map_some, Option.getD_some]
        dsimp only at bytesLeft
        omega
  | received sender messageId payload seq free roomLeft bytesLeft =>
      have totals : (journal.index.liveInbound.find? sender).getD ⟨sender, 0, 0⟩ =
          ⟨sender, journal.index.inbound.sumOver (Index.liveWeight sender),
            journal.index.inbound.sumOver (Index.liveBytes sender)⟩ := by
        rw [exact sender]
        split
        next isZero =>
          dsimp only at isZero
          rw [isZero, Index.liveBytes_eq_zero isZero]
          rfl
        · rfl
      rw [totals] at roomLeft bytesLeft
      refine ⟨?_, ?_, nofun, nofun⟩
      · intro _ peer isPeer
        cases isPeer
        dsimp only at roomLeft
        omega
      · intro _ peer isPeer
        cases isPeer
        simp only [Index.entryBytes, Option.bind_some, runtime.hexDecode_hexEncode,
          Option.map_some, Option.getD_some]
        dsimp only at bytesLeft
        omega
  | closed operation messageId state reason seq record closes =>
      cases closes <;> exact other nofun nofun
  | readdressed | duplicate | consumed => exact other nofun nofun

/-- The number that is taken for the record does not count. -/
theorem Appends.admits_numbered {pending : Option (JournalEntry Addr)}
    (appends : Appends runtime io { journal with nextSeq := journal.nextSeq + 1 } operation entry)
    (tracks : Tracks runtime limits now pending journal) :
    journal.index.Admits runtime limits entry :=
  have admitted := appends.admits tracks.liveExact tracks.limitsAre
  admitted

/-- The totals are within their limits, and the pending record is admitted. -/
structure Quotas (runtime : JournalRuntime Addr) (limits : JournalLimits)
    (contents : Contents Addr) : Prop where
  within : contents.index.Within limits
  pending : ∀ entry ∈ contents.pending, contents.index.Admits runtime limits entry

theorem Quotas.fresh : Quotas runtime limits ((Journal.fresh limits).contents none) where
  within := ⟨fun _ => Nat.zero_le _, fun _ => Nat.zero_le _, Nat.zero_le _, Nat.zero_le _⟩
  pending := nofun

theorem Quotas.keeps : Keeps runtime limits now (Quotas runtime limits) where
  drop := fun journal pending _ quotas =>
    have lighter := Index.lighter_retain limits now journal.index
    ⟨quotas.within.of_lighter lighter,
      fun entry isPending => (quotas.pending entry isPending).of_lighter lighter⟩
  rewrite := fun _ _ _ quotas => ⟨quotas.within, nofun⟩
  reopen := by
    intro journal pending found base tracks quotas _ isBase covers
    refine ⟨Index.Within.of_lighter ?_ covers.lighter, nofun⟩
    rcases isBase with rfl | ⟨entry, isPending, rfl⟩
    · exact quotas.within
    · exact quotas.within.apply (quotas.pending entry isPending)

theorem Quotas.serves : Serves runtime limits io operation (Quotas runtime limits) where
  toKeeps := Quotas.keeps
  touch := fun journal pending messageId record changed tracks found memoryOnly quotas =>
    have lighter := Index.lighter_touch (tracks.wellFormed.outbound messageId record found) found
      memoryOnly
    ⟨quotas.within.of_lighter lighter,
      fun entry isPending => (quotas.pending entry isPending).of_lighter lighter⟩
  number := fun _ _ quotas => ⟨quotas.within, quotas.pending⟩
  damage := by
    intro journal entry left tracks appends quotas
    refine ⟨quotas.within, fun other isPending => ?_⟩
    cases isPending
    exact appends.admits_numbered tracks
  write := fun journal entry tracks appends quotas =>
    ⟨quotas.within.apply (appends.admits_numbered tracks),
      nofun⟩

/-- The totals of an index: exact for every sender, and with room for each
message they count. -/
structure Index.Accounts (index : Index Addr) : Prop where
  total : ∀ sender, index.liveInbound.find? sender =
    if index.unconsumedOf sender = [] then none
    else some ⟨sender, (index.unconsumedOf sender).length,
      ((index.unconsumedOf sender).map InboundRecord.payloadBytes).sum⟩
  room : ∀ key record, index.inbound.find? key = some record → record.consumed = false →
    ∃ total, index.liveInbound.find? record.sender = some total ∧ 1 ≤ total.count ∧
      record.payloadBytes ≤ total.bytes

theorem Index.LiveExact.accounts {index : Index Addr} (exact : index.LiveExact) :
    index.Accounts where
  total := fun sender => by
    have isTotal := exact sender
    simp only [Index.sumOver_liveWeight, Index.sumOver_liveBytes, List.length_eq_zero_iff] at isTotal
    exact isTotal
  room := fun _ _ found unconsumed => exact.covers_record found unconsumed

/-- In every reachable state the totals are exact and within their limits, and no
subtraction from them saturates, also while a file is replayed. -/
theorem quota_exact [DecidableEq Addr] (runtime : JournalRuntime Addr) (limits : JournalLimits)
    (start : Nat) (labels : List (LifeLabel Addr)) :
    (∀ journal, ((lifeMachine runtime limits start).run labels).standing = .running journal →
      journal.index.Accounts ∧
      (∀ sender, (journal.index.unconsumedOf sender).length ≤ limits.maxUnconsumedPerPeer ∧
        ((journal.index.unconsumedOf sender).map InboundRecord.payloadBytes).sum ≤
          limits.maxUnconsumedBytesPerPeer) ∧
      journal.index.queuedTotals.1 ≤ limits.maxOutbox ∧
      journal.index.queuedTotals.2 ≤ limits.maxOutboxBytes) ∧
    ∀ entries, (Index.replay runtime entries).Accounts := by
  refine ⟨fun journal isRunning => ?_, fun entries => (Index.replay_liveExact entries).accounts⟩
  have held : ((lifeMachine runtime limits start).run labels).Holds runtime limits
      (Quotas runtime limits) :=
    Life.holds_run start Quotas.fresh (fun _ _ => Quotas.serves) (fun _ => Quotas.keeps) labels
  obtain ⟨shown, pending, isShown, tracks, quotas⟩ := held
  rw [isRunning] at isShown
  subst isShown
  have within := quotas.within
  refine ⟨tracks.liveExact.accounts, fun sender => ⟨?_, ?_⟩, ?_, ?_⟩
  · rw [← Index.sumOver_liveWeight]
    exact within.count sender
  · rw [← Index.sumOver_liveBytes]
    exact within.bytes sender
  · rw [Index.queuedTotals_eq]
    exact within.outbox
  · rw [Index.queuedTotals_eq]
    exact within.outboxBytes

end

end Triangle.PeerEngine
