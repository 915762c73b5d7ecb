import Triangle.PeerEngine.Apply
import Triangle.PeerEngine.Operations

/-!
# How the journal file covers the index

Memory and file differ on purpose: a compaction drops old tombstones from the
index and may leave the file as it is, and retry bookkeeping is never written.
`Covers` says how far they may differ: a key reads the same in both, or memory
has dropped it and the file still holds a tombstone that is past its retention
and stays so. Every primitive change keeps it, because a record that refers to
an earlier one is only appended while memory holds that earlier one.
-/

namespace Triangle.PeerEngine

open Triangle.Std

section

variable {Addr : Type}

/-- The part of an outbound record that the file determines: without the retry
bookkeeping, and without the address of a closed message. -/
def OutboundRecord.durable (record : OutboundRecord Addr) : OutboundRecord Addr :=
  { record with
    peerAddr := if record.state = .queued then record.peerAddr else none
    attempts := 0
    nextAttemptUnixMs := 0 }

namespace Index

/-- Two indexes hold the same messages and totals, up to what is kept in memory
only. -/
structure Same (first second : Index Addr) : Prop where
  outbound : ∀ messageId, (first.outbound.find? messageId).map OutboundRecord.durable =
    (second.outbound.find? messageId).map OutboundRecord.durable
  inbound : ∀ key, first.inbound.find? key = second.inbound.find? key
  liveInbound : ∀ sender, first.liveInbound.find? sender = second.liveInbound.find? sender

/-- What a compaction at time `now` keeps of the outbound map. -/
def keepsOutbound (limits : JournalLimits) (now : Nat) (record : OutboundRecord Addr) : Bool :=
  record.state = .queued || limits.fresh now record.lastTsUnixMs

/-- What a compaction at time `now` keeps of the inbound map. -/
def keepsInbound (limits : JournalLimits) (now : Nat) (record : InboundRecord) : Bool :=
  !record.consumed || limits.fresh now record.tsUnixMs

/-- The index that the file replays to covers the index in memory. -/
structure Covers (limits : JournalLimits) (now : Nat) (disk memory : Index Addr) : Prop where
  outbound : ∀ messageId,
    (disk.outbound.find? messageId).map OutboundRecord.durable =
        (memory.outbound.find? messageId).map OutboundRecord.durable ∨
      memory.outbound.find? messageId = none ∧ ∃ record,
        disk.outbound.find? messageId = some record ∧ keepsOutbound limits now record = false
  inbound : ∀ key,
    disk.inbound.find? key = memory.inbound.find? key ∨
      memory.inbound.find? key = none ∧ ∃ record,
        disk.inbound.find? key = some record ∧ keepsInbound limits now record = false

variable {limits : JournalLimits} {earlier now : Nat} {index disk memory : Index Addr}

theorem find?_retain_outbound (messageId : String) :
    (index.retain limits now).outbound.find? messageId =
      (index.outbound.find? messageId).filter (keepsOutbound limits now) := by
  unfold retain
  rw [Table.find?_delete]
  simp only [Bool.not_not]
  rfl

theorem find?_retain_inbound (key : String × String) :
    (index.retain limits now).inbound.find? key =
      (index.inbound.find? key).filter (keepsInbound limits now) := by
  unfold retain
  rw [Table.find?_delete]
  simp only [Bool.not_not]
  rfl

section

variable (notLater : earlier ≤ now)
include notLater

/-- A tombstone past its retention stays past it. -/
theorem fresh_antitone {ts : Nat} (stale : limits.fresh earlier ts = false) :
    limits.fresh now ts = false := by
  unfold JournalLimits.fresh at stale ⊢
  rw [decide_eq_false_iff_not] at stale ⊢
  omega

theorem keepsOutbound_antitone {record : OutboundRecord Addr}
    (dropped : keepsOutbound limits earlier record = false) :
    keepsOutbound limits now record = false := by
  unfold keepsOutbound at dropped ⊢
  rw [Bool.or_eq_false_iff] at dropped ⊢
  exact ⟨dropped.1, fresh_antitone notLater dropped.2⟩

theorem keepsInbound_antitone {record : InboundRecord}
    (dropped : keepsInbound limits earlier record = false) :
    keepsInbound limits now record = false := by
  unfold keepsInbound at dropped ⊢
  rw [Bool.or_eq_false_iff] at dropped ⊢
  exact ⟨dropped.1, fresh_antitone notLater dropped.2⟩

end

/-- Compaction looks at the durable part of a record only. -/
theorem keepsOutbound_durable (record : OutboundRecord Addr) :
    keepsOutbound limits now record.durable = keepsOutbound limits now record := rfl

variable {first second : Option (OutboundRecord Addr)}

/-- Records that agree durably are kept or dropped together. -/
theorem filter_keepsOutbound_durable
    (same : first.map OutboundRecord.durable = second.map OutboundRecord.durable) :
    (first.filter (keepsOutbound limits now)).map OutboundRecord.durable =
      (second.filter (keepsOutbound limits now)).map OutboundRecord.durable := by
  have through : ∀ record : Option (OutboundRecord Addr),
      (record.filter (keepsOutbound limits now)).map OutboundRecord.durable =
        (record.map OutboundRecord.durable).filter (keepsOutbound limits now) := by
    intro record
    cases record with
    | none => rfl
    | some record =>
        rw [Option.map_some, Option.filter_some, Option.filter_some, keepsOutbound_durable]
        split <;> rfl
  rw [through, through, same]

/-- The exact index covers itself, at any time. -/
theorem Covers.refl (index : Index Addr) : Covers limits now index index :=
  ⟨fun _ => .inl rfl, fun _ => .inl rfl⟩

theorem Covers.mono (notLater : earlier ≤ now) (covers : Covers limits earlier disk memory) :
    Covers limits now disk memory := by
  constructor
  · intro messageId
    rcases covers.outbound messageId with same | ⟨gone, record, found, dropped⟩
    · exact .inl same
    · exact .inr ⟨gone, record, found, keepsOutbound_antitone notLater dropped⟩
  · intro key
    rcases covers.inbound key with same | ⟨gone, record, found, dropped⟩
    · exact .inl same
    · exact .inr ⟨gone, record, found, keepsInbound_antitone notLater dropped⟩

section

variable (covers : Covers limits now disk memory)
include covers

/-- The file has what memory has, with the same state since the same time. -/
theorem Covers.found {messageId : String} {record : OutboundRecord Addr}
    (found : memory.outbound.find? messageId = some record) :
    ∃ onDisk, disk.outbound.find? messageId = some onDisk ∧ onDisk.state = record.state ∧
      onDisk.lastTsUnixMs = record.lastTsUnixMs := by
  rcases covers.outbound messageId with same | ⟨gone, -⟩
  · rw [found, Option.map_some, Option.map_eq_some_iff] at same
    obtain ⟨onDisk, isDisk, sameDurable⟩ := same
    injection sameDurable
    exact ⟨onDisk, isDisk, by assumption, by assumption⟩
  · rw [found] at gone
    cases gone

/-- Dropping old tombstones from memory leaves it covered. -/
theorem Covers.retain : Covers limits now disk (memory.retain limits now) := by
  constructor
  · intro messageId
    rw [find?_retain_outbound]
    rcases covers.outbound messageId with same | ⟨gone, record, found, dropped⟩
    · cases inMemory : memory.outbound.find? messageId with
      | none =>
          rw [inMemory] at same
          exact .inl same
      | some record =>
          rw [inMemory, Option.map_some, Option.map_eq_some_iff] at same
          obtain ⟨onDisk, found, sameDurable⟩ := same
          rw [Option.filter_some]
          split
          · rw [found, Option.map_some, Option.map_some, sameDurable]
            exact .inl rfl
          next dropped =>
            rw [Bool.not_eq_true, ← keepsOutbound_durable, ← sameDurable,
              keepsOutbound_durable] at dropped
            exact .inr ⟨rfl, onDisk, found, dropped⟩
    · rw [gone]
      exact .inr ⟨rfl, record, found, dropped⟩
  · intro key
    rw [find?_retain_inbound]
    rcases covers.inbound key with same | ⟨gone, record, found, dropped⟩
    · rw [same]
      cases inMemory : memory.inbound.find? key with
      | none => exact .inl rfl
      | some record =>
          rw [Option.filter_some]
          split
          · exact .inl rfl
          next dropped => exact .inr ⟨rfl, record, rfl, by simpa using dropped⟩
    · rw [gone]
      exact .inr ⟨rfl, record, found, dropped⟩

/-- Compacting the replayed index gives the rows that compacting memory gives. -/
theorem Covers.retain_outbound (messageId : String) :
    ((disk.retain limits now).outbound.find? messageId).map OutboundRecord.durable =
      ((memory.retain limits now).outbound.find? messageId).map OutboundRecord.durable := by
  rw [find?_retain_outbound, find?_retain_outbound]
  rcases covers.outbound messageId with same | ⟨gone, record, found, dropped⟩
  · exact filter_keepsOutbound_durable same
  · rw [gone, found, Option.filter_some, dropped]
    rfl

theorem Covers.retain_inbound (key : String × String) :
    (disk.retain limits now).inbound.find? key = (memory.retain limits now).inbound.find? key := by
  rw [find?_retain_inbound, find?_retain_inbound]
  rcases covers.inbound key with same | ⟨gone, record, found, dropped⟩
  · rw [same]
  · rw [gone, found, Option.filter_some, dropped]
    rfl

end

/-- A record that refers to an earlier one is anchored when the index holds the
earlier one and it is still queued, or unconsumed; a record that starts a
message is anchored when its key is free. -/
structure Anchored (index : Index Addr) (entry : JournalEntry Addr) : Prop where
  outboundFree : entry.state = .queuedLocal → index.outbound.find? entry.messageId = none
  inboundFree : entry.state = .receivedPeer → ∀ sender, entry.peerEndpointId = some sender →
    index.inbound.find? (sender, entry.messageId) = none
  outbound : entry.state ∈ [.settled, .refused, .expired, .addressUpdated] →
    ∃ record, index.outbound.find? entry.messageId = some record ∧ record.state = .queued
  inbound : entry.state = .consumed → ∀ sender, entry.peerEndpointId = some sender →
    ∃ record, index.inbound.find? (sender, entry.messageId) = some record ∧
      record.consumed = false

variable {runtime : JournalRuntime Addr} {entry : JournalEntry Addr}

/-- Closing a message depends on the durable part of its record only. -/
theorem closedRecord_durable {state : OutboundState} (closed : state ≠ .queued)
    {first second : OutboundRecord Addr} (same : first.durable = second.durable) :
    (closedRecord state entry (some first)).durable =
      (closedRecord state entry (some second)).durable := by
  simp only [OutboundRecord.durable, OutboundRecord.mk.injEq] at same
  simp [OutboundRecord.durable, closedRecord, closed, same]

/-- So does a refreshed address. -/
theorem readdressed_durable {first second : OutboundRecord Addr}
    (same : first.durable = second.durable) :
    (readdressed entry first).durable = (readdressed entry second).durable := by
  have sameState : first.durable.state = second.durable.state := by rw [same]
  change first.state = second.state at sameState
  unfold readdressed
  rw [sameState]
  split
  next isQueued =>
    simp only [OutboundRecord.durable, OutboundRecord.mk.injEq] at same
    simp [OutboundRecord.durable, same]
  · exact same

/-- An anchored record reads the same from durably equal records. -/
theorem outboundAfter_durable
    (same : first.map OutboundRecord.durable = second.map OutboundRecord.durable)
    (anchored : entry.state ∈ [.settled, .refused, .expired, .addressUpdated] →
      ∃ record, second = some record) :
    (outboundAfter runtime entry first).map OutboundRecord.durable =
      (outboundAfter runtime entry second).map OutboundRecord.durable := by
  have closes : ∀ state, state ≠ .queued → (∃ record, second = some record) →
      (some (closedRecord state entry first)).map OutboundRecord.durable =
        (some (closedRecord state entry second)).map OutboundRecord.durable := by
    rintro state closed ⟨record, rfl⟩
    rw [Option.map_some, Option.map_eq_some_iff] at same
    obtain ⟨other, rfl, sameDurable⟩ := same
    rw [Option.map_some, Option.map_some, closedRecord_durable closed sameDurable]
  unfold outboundAfter
  cases isState : entry.state with
  | queuedLocal => cases entry.peerEndpointId <;> simp [same]
  | settled => exact closes .settled (by decide) (anchored (by simp [isState]))
  | refused => exact closes .refused (by decide) (anchored (by simp [isState]))
  | expired => exact closes .expired (by decide) (anchored (by simp [isState]))
  | addressUpdated =>
      obtain ⟨record, rfl⟩ := anchored (by simp [isState])
      rw [Option.map_some, Option.map_eq_some_iff] at same
      obtain ⟨other, rfl, sameDurable⟩ := same
      simp [readdressed_durable sameDurable]
  | receivedPeer | consumed | duplicateSuppressed | checkpoint => exact same

/-- A record that does not need an earlier one either replaces what it finds or
leaves it alone. -/
theorem outboundAfter_free
    (free : entry.state ∉ [.settled, .refused, .expired, .addressUpdated])
    (old : Option (OutboundRecord Addr)) :
    outboundAfter runtime entry old = old ∨
      ∀ other, outboundAfter runtime entry old = outboundAfter runtime entry other := by
  unfold outboundAfter
  cases isState : entry.state with
  | queuedLocal =>
      cases entry.peerEndpointId with
      | none => exact .inl rfl
      | some peer => exact .inr fun _ => rfl
  | settled | refused | expired | addressUpdated => simp [isState] at free
  | receivedPeer | consumed | duplicateSuppressed | checkpoint => exact .inl rfl

/-- An anchored record keeps memory covered. -/
theorem Covers.apply (covers : Covers limits now disk memory) (anchored : memory.Anchored entry) :
    Covers limits now (disk.apply runtime entry) (memory.apply runtime entry) := by
  constructor
  · intro messageId
    rw [find?_apply_outbound, find?_apply_outbound]
    by_cases named : messageId = entry.messageId
    · subst named
      rw [if_pos rfl, if_pos rfl]
      rcases covers.outbound entry.messageId with same | ⟨gone, record, found, dropped⟩
      · refine .inl (outboundAfter_durable same fun needs => ?_)
        obtain ⟨kept, isKept, -⟩ := anchored.outbound needs
        exact ⟨kept, isKept⟩
      · have free : entry.state ∉ [.settled, .refused, .expired, .addressUpdated] := by
          intro needs
          obtain ⟨kept, isKept, -⟩ := anchored.outbound needs
          rw [gone] at isKept
          cases isKept
        rcases outboundAfter_free free (disk.outbound.find? entry.messageId) with same | replaced
        · rcases outboundAfter_free free (memory.outbound.find? entry.messageId) with same' | replaced
          · rw [same, same', gone]
            exact .inr ⟨rfl, record, found, dropped⟩
          · rw [replaced (disk.outbound.find? entry.messageId)]
            exact .inl rfl
        · rw [replaced (memory.outbound.find? entry.messageId)]
          exact .inl rfl
    · rw [if_neg named, if_neg named]
      exact covers.outbound messageId
  · intro key
    rw [find?_apply_inbound, find?_apply_inbound]
    split
    next named =>
      obtain ⟨isSender, isMessage⟩ := named
      rcases covers.inbound key with same | ⟨gone, record, found, dropped⟩
      · rw [same]
        exact .inl rfl
      · unfold inboundAfter
        cases isState : entry.state with
        | receivedPeer => exact .inl rfl
        | consumed =>
            obtain ⟨kept, isKept, -⟩ := anchored.inbound isState key.1 isSender
            rw [isMessage, gone] at isKept
            cases isKept
        | _ => exact .inr ⟨gone, record, found, dropped⟩
    · exact covers.inbound key

end Index

variable {runtime : JournalRuntime Addr} {journal : Journal Addr} {operation : Operation Addr}
  {entry : JournalEntry Addr}

/-- Every record that an operation appends is anchored. -/
theorem Appends.anchored {io : Io} (appends : Appends runtime io journal operation entry) :
    journal.index.Anchored entry := by
  cases appends with
  | queued _ _ _ _ _ _ free => constructor <;> simp [free]
  | readdressed _ _ _ _ _ _ record found isQueued =>
      constructor <;> simp [found, isQueued]
  | closed operation messageId state reason seq record closes found isQueued =>
      cases closes <;> constructor <;> simp [found, isQueued]
  | received sender messageId payload seq free => constructor <;> simp [free]
  | duplicate => constructor <;> simp
  | consumed sender messageId seq record found unconsumed =>
      constructor <;> simp [found, unconsumed]

/-- The payload of a queued record can be read back. -/
def Readable (runtime : JournalRuntime Addr) (entry : JournalEntry Addr) : Prop :=
  entry.state = .queuedLocal → (entry.payloadHex.bind runtime.hexDecode).isSome

/-- Every record that an operation appends is readable. -/
theorem Appends.readable {io : Io} (appends : Appends runtime io journal operation entry) :
    Readable runtime entry := by
  intro isQueued
  cases appends with
  | queued messageId payload => simp [runtime.hexDecode_hexEncode]
  | closed _ _ _ _ _ _ closes => cases closes <;> simp at isQueued
  | readdressed | received | duplicate | consumed => simp at isQueued

/-- A queued record has its payload and no reason, a closed one no payload. -/
def OutboundRecord.WellFormed (record : OutboundRecord Addr) : Prop :=
  (record.state = .queued → record.reason = none ∧ record.payload.isSome) ∧
    (record.state ≠ .queued → record.payload = none)

/-- A consumed record has no payload. -/
def InboundRecord.WellFormed (record : InboundRecord) : Prop :=
  record.consumed = true → record.payload = none

namespace Index

/-- Every record of the index is well formed. -/
structure WellFormed (index : Index Addr) : Prop where
  outbound : ∀ messageId record, index.outbound.find? messageId = some record → record.WellFormed
  inbound : ∀ key record, index.inbound.find? key = some record → record.WellFormed

variable {limits : JournalLimits} {now : Nat} {index : Index Addr}
  {runtime : JournalRuntime Addr} {entry : JournalEntry Addr}

/-- A compaction keeps queued and unconsumed records, so anchors hold. -/
theorem Anchored.retain (anchored : index.Anchored entry) :
    (index.retain limits now).Anchored entry := by
  constructor
  · intro isQueued
    rw [find?_retain_outbound, anchored.outboundFree isQueued]
    rfl
  · intro isReceived sender isSender
    rw [find?_retain_inbound, anchored.inboundFree isReceived sender isSender]
    rfl
  · intro needs
    obtain ⟨record, found, isQueued⟩ := anchored.outbound needs
    refine ⟨record, ?_, isQueued⟩
    rw [find?_retain_outbound, found, Option.filter_some, keepsOutbound, isQueued]
    rfl
  · intro isConsumed sender isSender
    obtain ⟨record, found, unconsumed⟩ := anchored.inbound isConsumed sender isSender
    refine ⟨record, ?_, unconsumed⟩
    rw [find?_retain_inbound, found, Option.filter_some, keepsInbound, unconsumed]
    rfl

theorem WellFormed.retain (wellFormed : index.WellFormed) :
    (index.retain limits now).WellFormed := by
  constructor
  · intro messageId record found
    rw [find?_retain_outbound, Option.filter_eq_some_iff] at found
    exact wellFormed.outbound messageId record found.1
  · intro key record found
    rw [find?_retain_inbound, Option.filter_eq_some_iff] at found
    exact wellFormed.inbound key record found.1

/-- A record whose payload can be read back keeps the index well formed. -/
theorem WellFormed.apply (wellFormed : index.WellFormed)
    (readable : Readable runtime entry) : (index.apply runtime entry).WellFormed := by
  constructor
  · intro messageId record found
    rw [find?_apply_outbound] at found
    split at found
    next named =>
      have closes : ∀ state, state ≠ .queued → some (closedRecord state entry
          (index.outbound.find? messageId)) = some record → record.WellFormed := by
        intro state closed isRecord
        cases isRecord
        have isClosed : (closedRecord state entry (index.outbound.find? messageId)).state = state := by
          cases index.outbound.find? messageId <;> rfl
        refine ⟨fun isQueued => absurd (isClosed.symm.trans isQueued) closed, fun _ => ?_⟩
        cases index.outbound.find? messageId <;> rfl
      unfold outboundAfter at found
      cases isState : entry.state with
      | queuedLocal =>
          rw [isState] at found
          cases isPeer : entry.peerEndpointId with
          | none =>
              rw [isPeer] at found
              exact wellFormed.outbound messageId record found
          | some peer =>
              rw [isPeer] at found
              cases found
              exact ⟨fun _ => ⟨rfl, readable isState⟩, fun notQueued => absurd rfl notQueued⟩
      | settled => exact closes .settled (by decide) (by rw [isState] at found; exact found)
      | refused => exact closes .refused (by decide) (by rw [isState] at found; exact found)
      | expired => exact closes .expired (by decide) (by rw [isState] at found; exact found)
      | addressUpdated =>
          simp only [isState, Option.map_eq_some_iff] at found
          obtain ⟨old, isOld, rfl⟩ := found
          have oldFormed := wellFormed.outbound messageId old isOld
          unfold readdressed
          split
          · exact oldFormed
          · exact oldFormed
      | receivedPeer | consumed | duplicateSuppressed | checkpoint =>
          rw [isState] at found
          exact wellFormed.outbound messageId record found
    · exact wellFormed.outbound messageId record found
  · intro key record found
    rw [find?_apply_inbound] at found
    split at found
    · unfold inboundAfter at found
      split at found
      · cases found
        rintro ⟨⟩
      · cases found
        exact fun _ => rfl
      · exact wellFormed.inbound key record found
    · exact wellFormed.inbound key record found

variable (entries : List (JournalEntry Addr))

/-- What a replay does to one outbound key. -/
theorem find?_foldl_outbound (messageId : String) :
    (entries.foldl (apply runtime) index).outbound.find? messageId =
      entries.foldl (fun old entry => if messageId = entry.messageId then
        outboundAfter runtime entry old else old) (index.outbound.find? messageId) := by
  induction entries generalizing index with
  | nil => rfl
  | cons entry rest ih =>
      rw [List.foldl_cons, List.foldl_cons, ih, find?_apply_outbound]

/-- What a replay does to one inbound key. -/
theorem find?_foldl_inbound (key : String × String) :
    (entries.foldl (apply runtime) index).inbound.find? key =
      entries.foldl (fun old entry =>
        if entry.peerEndpointId = some key.1 ∧ entry.messageId = key.2 then
          inboundAfter runtime entry key.1 old else old) (index.inbound.find? key) := by
  induction entries generalizing index with
  | nil => rfl
  | cons entry rest ih =>
      rw [List.foldl_cons, List.foldl_cons, ih, find?_apply_inbound]

theorem replay_liveExact : (replay runtime entries).LiveExact := by
  have through : ∀ index : Index Addr, index.LiveExact →
      (entries.foldl (apply runtime) index).LiveExact := by
    induction entries with
    | nil => exact fun _ exact => exact
    | cons entry rest ih =>
        intro index exact
        exact ih _ (apply_liveExact exact)
  exact through empty fun _ => rfl

/-- Compaction drops consumed records only, so the totals stay exact. -/
theorem retain_liveExact (exact : index.LiveExact) : (index.retain limits now).LiveExact := by
  intro sender
  have dropsConsumed : ∀ row : InboundRecord,
      (!(!row.consumed || limits.fresh now row.tsUnixMs)) = true → row.consumed = true := by
    intro row dropped
    rw [Bool.not_eq_true', Bool.or_eq_false_iff, Bool.not_eq_false'] at dropped
    exact dropped.1
  have sameCount : (index.retain limits now).inbound.sumOver (liveWeight sender) =
      index.inbound.sumOver (liveWeight sender) := by
    apply Table.sumOver_delete
    intro row dropped
    simp [liveWeight, dropsConsumed row dropped]
  have sameBytes : (index.retain limits now).inbound.sumOver (liveBytes sender) =
      index.inbound.sumOver (liveBytes sender) := by
    apply Table.sumOver_delete
    intro row dropped
    simp [liveBytes, dropsConsumed row dropped]
  dsimp only
  simp only [sameCount, sameBytes]
  exact exact sender

/-- Exact totals are determined by the inbound map. -/
theorem liveInbound_congr {first second : Index Addr} (firstExact : first.LiveExact)
    (secondExact : second.LiveExact)
    (same : ∀ key, first.inbound.find? key = second.inbound.find? key) (sender : String) :
    first.liveInbound.find? sender = second.liveInbound.find? sender := by
  rw [firstExact sender, secondExact sender]
  simp only [Table.sumOver_congr same]

/-- The states of records about outbound messages. -/
def isOutbound (state : DeliveryState) : Bool :=
  state ∈ [.queuedLocal, .settled, .refused, .expired, .addressUpdated]

/-- The states of records about inbound messages. -/
def isInbound (state : DeliveryState) : Bool :=
  state ∈ [.receivedPeer, .consumed]

theorem outboundAfter_of_not_isOutbound (other : isOutbound entry.state = false)
    (old : Option (OutboundRecord Addr)) : outboundAfter runtime entry old = old := by
  unfold outboundAfter
  cases isState : entry.state <;> simp [isOutbound, isState] at other ⊢

theorem inboundAfter_of_not_isInbound (other : isInbound entry.state = false) (sender : String)
    (old : Option InboundRecord) : inboundAfter runtime entry sender old = old := by
  unfold inboundAfter
  cases isState : entry.state <;> simp [isInbound, isState] at other ⊢

variable (record : OutboundRecord Addr)

theorem snapshot_isOutbound : isOutbound (record.snapshot runtime).state = true := by
  unfold OutboundRecord.snapshot
  cases record.state <;> rfl

theorem snapshot_not_isInbound : isInbound (record.snapshot runtime).state = false := by
  unfold OutboundRecord.snapshot
  cases record.state <;> rfl

theorem snapshot_isInbound (record : InboundRecord) :
    isInbound (record.snapshot runtime).state = true := by
  unfold InboundRecord.snapshot
  cases record.consumed <;> rfl

theorem snapshot_not_isOutbound (record : InboundRecord) :
    isOutbound (record.snapshot runtime).state = false := by
  unfold InboundRecord.snapshot
  cases record.consumed <;> rfl

/-- The snapshot of an outbound record replays to its durable part. -/
theorem outboundAfter_snapshot {record : OutboundRecord Addr} (wellFormed : record.WellFormed) :
    (outboundAfter runtime (record.snapshot runtime) none).map OutboundRecord.durable =
      some record.durable := by
  have readBack : (record.payload.map runtime.hexEncode).bind runtime.hexDecode =
      record.payload := by
    cases record.payload with
    | none => rfl
    | some payload => exact runtime.hexDecode_hexEncode payload
  cases isState : record.state with
  | queued =>
      have noReason := (wellFormed.1 isState).1
      simp [outboundAfter, OutboundRecord.snapshot, isState, queuedRecord, OutboundRecord.durable,
        readBack, noReason]
  | _ =>
      have noPayload := wellFormed.2 (by simp [isState])
      simp [outboundAfter, OutboundRecord.snapshot, isState, closedRecord, OutboundRecord.durable,
        noPayload]

/-- The snapshot of an inbound record replays to it. -/
theorem inboundAfter_snapshot {record : InboundRecord} (wellFormed : record.WellFormed) :
    inboundAfter runtime (record.snapshot runtime) record.sender none = some record := by
  have readBack : (record.payload.map runtime.hexEncode).bind runtime.hexDecode =
      record.payload := by
    cases record.payload with
    | none => rfl
    | some payload => exact runtime.hexDecode_hexEncode payload
  cases isConsumed : record.consumed with
  | true =>
      have noPayload := wellFormed isConsumed
      obtain ⟨sender, messageId, seq, payloadHash, payload, ts, consumed⟩ := record
      cases isConsumed
      cases noPayload
      rfl
  | false =>
      simp only [inboundAfter, InboundRecord.snapshot, isConsumed, receivedRecord, readBack,
        Bool.false_eq_true, if_false]
      rw [← isConsumed]

/-- A list with at most one element is equal to each of its permutations. -/
theorem eq_of_perm_toList {α : Type} {entries : List α} {found : Option α}
    (perm : entries.Perm found.toList) : entries = found.toList := by
  cases found with
  | none => exact perm.eq_nil
  | some entry => exact List.perm_singleton.mp perm

theorem liveEntries_outbound (messageId : String) :
    (index.liveEntries runtime).filter
        (fun entry => isOutbound entry.state && entry.messageId = messageId) =
      ((index.outbound.find? messageId).map (OutboundRecord.snapshot runtime)).toList := by
  apply eq_of_perm_toList
  refine ((List.mergeSort_perm _ _).filter _).trans ?_
  rw [List.filter_append, List.filter_map, List.filter_map]
  have ofOutbound : ((fun entry => isOutbound entry.state && decide (entry.messageId = messageId)) ∘
      OutboundRecord.snapshot runtime) = fun record => decide (record.messageId = messageId) := by
    funext record
    rw [Function.comp_apply, snapshot_isOutbound, Bool.true_and]
    rfl
  have ofInbound : ((fun entry => isOutbound entry.state && decide (entry.messageId = messageId)) ∘
      InboundRecord.snapshot runtime) = fun _ => false := by
    funext record
    rw [Function.comp_apply, snapshot_not_isOutbound, Bool.false_and]
  rw [ofOutbound, ofInbound, Table.filter_key, List.filter_false, List.map_nil, List.append_nil,
    Option.toList_map]

theorem liveEntries_inbound (key : String × String) :
    (index.liveEntries runtime).filter (fun entry => isInbound entry.state &&
        (entry.peerEndpointId = some key.1 && entry.messageId = key.2)) =
      ((index.inbound.find? key).map (InboundRecord.snapshot runtime)).toList := by
  apply eq_of_perm_toList
  refine ((List.mergeSort_perm _ _).filter _).trans ?_
  rw [List.filter_append, List.filter_map, List.filter_map]
  have ofOutbound : ((fun entry => isInbound entry.state &&
      (decide (entry.peerEndpointId = some key.1) && decide (entry.messageId = key.2))) ∘
      OutboundRecord.snapshot runtime) = fun _ => false := by
    funext record
    rw [Function.comp_apply, snapshot_not_isInbound, Bool.false_and]
  have ofInbound : ((fun entry => isInbound entry.state &&
      (decide (entry.peerEndpointId = some key.1) && decide (entry.messageId = key.2))) ∘
      InboundRecord.snapshot runtime) = fun record => decide (record.key = key) := by
    funext record
    rw [Function.comp_apply, snapshot_isInbound, Bool.true_and, Bool.eq_iff_iff]
    change (decide (some record.sender = some key.1) && decide (record.messageId = key.2)) = true ↔
      decide ((record.sender, record.messageId) = key) = true
    simp [Prod.ext_iff]
  rw [ofOutbound, ofInbound, Table.filter_key, List.filter_false, List.map_nil, List.nil_append,
    Option.toList_map]

/-- The checkpoint of a snapshot is about no message. -/
theorem snapshot_filter {touches : JournalEntry Addr → Bool} (nextSeq now : Nat)
    (skips : touches (checkpointEntry (nextSeq - 1) now) = false) :
    (index.snapshot runtime nextSeq now).filter touches =
      (index.liveEntries runtime).filter touches := by
  unfold snapshot
  dsimp only
  split
  · rw [List.filter_append, List.filter_singleton, skips]
    exact List.append_nil _
  · rfl

/-- A snapshot replays to the index it was taken of. -/
theorem covers_snapshot (wellFormed : index.WellFormed) (nextSeq stampedAt : Nat) :
    Covers limits now (replay runtime (index.snapshot runtime nextSeq stampedAt)) index := by
  constructor
  · intro messageId
    refine .inl ?_
    have inert : (fun (old : Option (OutboundRecord Addr)) (entry : JournalEntry Addr) =>
        if messageId = entry.messageId then outboundAfter runtime entry old else old) =
        fun old entry => if (isOutbound entry.state && entry.messageId = messageId) = true then
          outboundAfter runtime entry old else old := by
      funext old entry
      by_cases named : messageId = entry.messageId
      · by_cases outbound : isOutbound entry.state = true
        · simp [named, outbound]
        · rw [Bool.not_eq_true] at outbound
          simp [outbound, outboundAfter_of_not_isOutbound outbound]
      · simp [named, Ne.symm named]
    rw [replay, find?_foldl_outbound, inert, ← List.foldl_filter, snapshot_filter _ _ rfl,
      liveEntries_outbound]
    cases found : index.outbound.find? messageId with
    | none => rfl
    | some record => exact outboundAfter_snapshot (wellFormed.outbound messageId record found)
  · intro key
    refine .inl ?_
    have inert : (fun (old : Option InboundRecord) (entry : JournalEntry Addr) =>
        if entry.peerEndpointId = some key.1 ∧ entry.messageId = key.2 then
          inboundAfter runtime entry key.1 old else old) =
        fun old entry => if (isInbound entry.state &&
            (entry.peerEndpointId = some key.1 && entry.messageId = key.2)) = true then
          inboundAfter runtime entry key.1 old else old := by
      funext old entry
      by_cases inbound : isInbound entry.state = true
      · simp [inbound]
      · rw [Bool.not_eq_true] at inbound
        simp [inbound, inboundAfter_of_not_isInbound inbound]
    rw [replay, find?_foldl_inbound, inert, ← List.foldl_filter, snapshot_filter _ _ rfl,
      liveEntries_inbound]
    cases found : index.inbound.find? key with
    | none => rfl
    | some record =>
        have isSender : record.sender = key.1 := congrArg Prod.fst (Table.find?_some found).2
        rw [← isSender]
        exact inboundAfter_snapshot (wellFormed.inbound key record found)

/-- Every record of a snapshot is readable. -/
theorem snapshot_readable (wellFormed : index.WellFormed) (nextSeq stampedAt : Nat) :
    ∀ entry ∈ index.snapshot runtime nextSeq stampedAt, Readable runtime entry := by
  intro entry member isQueued
  have inLive : entry ∈ index.liveEntries runtime := by
    unfold snapshot at member
    dsimp only at member
    split at member
    · rw [List.mem_append, List.mem_singleton] at member
      rcases member with inLive | rfl
      · exact inLive
      · cases isQueued
    · exact member
  rw [liveEntries, List.mem_mergeSort, List.mem_append, List.mem_map, List.mem_map] at inLive
  rcases inLive with ⟨record, recordMember, rfl⟩ | ⟨record, recordMember, rfl⟩
  · have isFormed := wellFormed.outbound record.messageId record
      (Table.mem_rows_iff.mp recordMember)
    have wasQueued : record.state = .queued := by
      cases isState : record.state with
      | queued => rfl
      | _ => simp [OutboundRecord.snapshot, isState] at isQueued
    obtain ⟨payload, isPayload⟩ := Option.isSome_iff_exists.mp (isFormed.1 wasQueued).2
    simp [OutboundRecord.snapshot, isPayload, runtime.hexDecode_hexEncode]
  · simp only [InboundRecord.snapshot] at isQueued
    split at isQueued <;> cases isQueued

/-- Readable records replay to a well-formed index. -/
theorem replay_wellFormed {entries : List (JournalEntry Addr)}
    (readable : ∀ entry ∈ entries, Readable runtime entry) :
    (replay runtime entries).WellFormed := by
  have through : ∀ index : Index Addr, index.WellFormed →
      (entries.foldl (Index.apply runtime) index).WellFormed := by
    induction entries with
    | nil => exact fun _ wellFormed => wellFormed
    | cons entry rest ih =>
        intro index wellFormed
        have restReadable : ∀ other ∈ rest, Readable runtime other :=
          fun other member => readable other (List.mem_cons_of_mem entry member)
        exact ih restReadable _
          (wellFormed.apply (readable entry List.mem_cons_self))
  exact through empty ⟨nofun, nofun⟩

end Index

end

end Triangle.PeerEngine
