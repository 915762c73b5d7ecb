import Triangle.Std.RecordFile
import Triangle.Std.Table

/-!
# The peer journal

`packages/peer-engine/src/journal.rs`: an append-only file of JSON records and
the index the engine keeps in memory. Every change of the index is written
first and applied by the same `apply` that replays the file on open; compaction
drops old tombstones from the index and rewrites the file when that makes it
shorter.

`Addr` is the dialable address the engine stores for a peer, the JSON of an
`EndpointAddr`. Strings that the code hashes, encodes or writes go through a
`JournalRuntime`. What the operating system answers during a call (clock
readings, whether a write succeeds, what a failed rewrite left behind) is the
call's `Io`.
-/

namespace Triangle.PeerEngine

open Triangle.Std

/-- What a journal record reports. -/
inductive DeliveryState where
  | queuedLocal
  | receivedPeer
  | settled
  | duplicateSuppressed
  | refused
  | expired
  | consumed
  | addressUpdated
  | checkpoint
  deriving DecidableEq, Repr

/-- One durable journal record. -/
structure JournalEntry (Addr : Type) where
  seq : Nat
  state : DeliveryState
  messageId : String
  payloadHash : String
  payloadHex : Option String
  peerEndpointId : Option String
  peerAddr : Option Addr
  queuedAtUnixMs : Option Nat
  reason : Option String
  tsUnixMs : Nat
  deriving DecidableEq, Repr

/-- Bounds that keep the journal and its index finite; the retention is in
milliseconds. -/
structure JournalLimits where
  maxUnconsumedPerPeer : Nat
  maxUnconsumedBytesPerPeer : Nat
  maxOutbox : Nat
  maxOutboxBytes : Nat
  tombstoneRetention : Nat
  compactEveryLines : Nat
  deriving DecidableEq, Repr

/-- `impl Default for JournalLimits`, what the engine runs with. -/
def JournalLimits.default : JournalLimits where
  maxUnconsumedPerPeer := 1000
  maxUnconsumedBytesPerPeer := 16 * 1024 * 1024
  maxOutbox := 1000
  maxOutboxBytes := 64 * 1024 * 1024
  tombstoneRetention := 7 * 24 * 60 * 60 * 1000
  compactEveryLines := 10000

/-- Where an outbound message stands. -/
inductive OutboundState where
  | queued
  | settled
  | refused
  | expired
  deriving DecidableEq, Repr

/-- The index entry of an outbound message. -/
structure OutboundRecord (Addr : Type) where
  messageId : String
  seq : Nat
  state : OutboundState
  payloadHash : String
  payload : Option String
  peerEndpointId : String
  peerAddr : Option Addr
  queuedAtUnixMs : Nat
  lastTsUnixMs : Nat
  reason : Option String
  attempts : Nat
  nextAttemptUnixMs : Nat
  deriving DecidableEq, Repr

/-- The index entry of an inbound message. -/
structure InboundRecord where
  sender : String
  messageId : String
  seq : Nat
  payloadHash : String
  payload : Option String
  tsUnixMs : Nat
  consumed : Bool
  deriving DecidableEq, Repr

namespace InboundRecord

/-- Inbound messages are keyed by sender and message id. -/
def key (record : InboundRecord) : String × String :=
  (record.sender, record.messageId)

/-- `payload.len()`, nothing for a tombstone. -/
def payloadBytes (record : InboundRecord) : Nat :=
  (record.payload.map String.utf8ByteSize).getD 0

end InboundRecord

/-- The unconsumed messages of one sender: how many, and their payload bytes. -/
structure LiveTotal where
  sender : String
  count : Nat
  bytes : Nat
  deriving DecidableEq, Repr

/-- The index over the journal file. -/
structure Index (Addr : Type) where
  outbound : Table (@OutboundRecord.messageId Addr)
  inbound : Table InboundRecord.key
  liveInbound : Table LiveTotal.sender

/-- The crates the journal writes through: SHA-256 and hex of a payload, and
JSON of a record. A payload survives hex, and a record survives its line. -/
structure JournalRuntime (Addr : Type) where
  payloadHashHex : String → String
  hexEncode : String → String
  hexDecode : String → Option String
  hexDecode_hexEncode : ∀ payload, hexDecode (hexEncode payload) = some payload
  codec : LineCodec (JournalEntry Addr)

section

variable {Addr : Type}

namespace Index

/-- The index of a journal without records. -/
def empty : Index Addr where
  outbound := Table.empty
  inbound := Table.empty
  liveInbound := Table.empty

/-- Take one unconsumed message off the totals of its sender. -/
def liveSub (index : Index Addr) (sender : String) (bytes : Nat) : Index Addr :=
  match index.liveInbound.find? sender with
  | none => index
  | some total =>
      if total.count - 1 = 0 then
        { index with liveInbound := index.liveInbound.delete fun other => other.sender = sender }
      else
        { index with
          liveInbound := index.liveInbound.upsert
            { total with count := total.count - 1, bytes := total.bytes - bytes } }

/-- Add one unconsumed message to the totals of its sender. -/
def liveAdd (index : Index Addr) (sender : String) (bytes : Nat) : Index Addr :=
  let total := (index.liveInbound.find? sender).getD ⟨sender, 0, 0⟩
  { index with
    liveInbound := index.liveInbound.upsert ⟨sender, total.count + 1, total.bytes + bytes⟩ }

/-- Take the totals of an unconsumed record back. -/
def dropLive (index : Index Addr) (record : Option InboundRecord) : Index Addr :=
  match record with
  | none => index
  | some record =>
      if record.consumed then index else index.liveSub record.sender record.payloadBytes

/-- The record a terminal record leaves: the closed message, or a tombstone when
there is none. -/
def closedRecord (state : OutboundState) (entry : JournalEntry Addr) :
    Option (OutboundRecord Addr) → OutboundRecord Addr
  | some record =>
      { record with
        state := state
        seq := entry.seq
        lastTsUnixMs := entry.tsUnixMs
        reason := entry.reason
        payload := none }
  | none =>
      { messageId := entry.messageId
        seq := entry.seq
        state := state
        payloadHash := entry.payloadHash
        payload := none
        peerEndpointId := entry.peerEndpointId.getD ""
        peerAddr := none
        queuedAtUnixMs := entry.queuedAtUnixMs.getD entry.tsUnixMs
        lastTsUnixMs := entry.tsUnixMs
        reason := entry.reason
        attempts := 0
        nextAttemptUnixMs := 0 }

/-- `apply` of a terminal record. -/
def applyTerminal (index : Index Addr) (state : OutboundState) (entry : JournalEntry Addr) :
    Index Addr :=
  { index with
    outbound := index.outbound.upsert
      (closedRecord state entry (index.outbound.find? entry.messageId)) }

variable (runtime : JournalRuntime Addr)

/-- The record of a message that was just queued. -/
def queuedRecord (entry : JournalEntry Addr) (peer : String) : OutboundRecord Addr where
  messageId := entry.messageId
  seq := entry.seq
  state := .queued
  payloadHash := entry.payloadHash
  payload := entry.payloadHex.bind runtime.hexDecode
  peerEndpointId := peer
  peerAddr := entry.peerAddr
  queuedAtUnixMs := entry.queuedAtUnixMs.getD entry.tsUnixMs
  lastTsUnixMs := entry.tsUnixMs
  reason := none
  attempts := 0
  nextAttemptUnixMs := 0

/-- `apply` of a `queued_local` record. -/
def applyQueued (index : Index Addr) (entry : JournalEntry Addr) (peer : String) : Index Addr :=
  { index with outbound := index.outbound.upsert (queuedRecord runtime entry peer) }

/-- The inbound record a `received_peer` record stands for. -/
def receivedRecord (entry : JournalEntry Addr) (sender : String) : InboundRecord where
  sender := sender
  messageId := entry.messageId
  seq := entry.seq
  payloadHash := entry.payloadHash
  payload := entry.payloadHex.bind runtime.hexDecode
  tsUnixMs := entry.tsUnixMs
  consumed := false

/-- `apply` of a `received_peer` record. -/
def applyReceived (index : Index Addr) (entry : JournalEntry Addr) (sender : String) :
    Index Addr :=
  let record := receivedRecord runtime entry sender
  let previous := index.inbound.find? (sender, entry.messageId)
  let inserted := { index with inbound := index.inbound.upsert record }
  (inserted.dropLive previous).liveAdd sender record.payloadBytes

/-- The tombstone a `consumed` record leaves. -/
def consumedRecord (entry : JournalEntry Addr) (sender : String)
    (previous : Option InboundRecord) : InboundRecord :=
  let record := previous.getD
    { sender := sender
      messageId := entry.messageId
      seq := entry.seq
      payloadHash := entry.payloadHash
      payload := none
      tsUnixMs := entry.tsUnixMs
      consumed := true }
  { record with consumed := true, payload := none, tsUnixMs := entry.tsUnixMs }

/-- `apply` of a `consumed` record. -/
def applyConsumed (index : Index Addr) (entry : JournalEntry Addr) (sender : String) :
    Index Addr :=
  let previous := index.inbound.find? (sender, entry.messageId)
  let dropped := index.dropLive previous
  { dropped with inbound := dropped.inbound.upsert (consumedRecord entry sender previous) }

/-- The record of a queued message with its refreshed address. -/
def readdressed (entry : JournalEntry Addr) (record : OutboundRecord Addr) :
    OutboundRecord Addr :=
  if record.state = .queued ∧ entry.peerAddr.isSome then
    { record with peerAddr := entry.peerAddr }
  else record

/-- `apply` of an `address_updated` record. -/
def applyAddress (index : Index Addr) (entry : JournalEntry Addr) : Index Addr :=
  match index.outbound.find? entry.messageId with
  | none => index
  | some record => { index with outbound := index.outbound.upsert (readdressed entry record) }

/-- What one record does to the index, when it is appended and when it is
replayed. -/
def apply (index : Index Addr) (entry : JournalEntry Addr) : Index Addr :=
  match entry.state with
  | .queuedLocal =>
      match entry.peerEndpointId with
      | none => index
      | some peer => index.applyQueued runtime entry peer
  | .settled => index.applyTerminal .settled entry
  | .refused => index.applyTerminal .refused entry
  | .expired => index.applyTerminal .expired entry
  | .receivedPeer =>
      match entry.peerEndpointId with
      | none => index
      | some sender => index.applyReceived runtime entry sender
  | .consumed =>
      match entry.peerEndpointId with
      | none => index
      | some sender => index.applyConsumed entry sender
  | .addressUpdated => index.applyAddress entry
  | .duplicateSuppressed => index
  | .checkpoint => index

/-- The index that a list of records replays to. -/
def replay (entries : List (JournalEntry Addr)) : Index Addr :=
  entries.foldl (apply runtime) empty

end Index

/-- The in-memory journal and the bytes of its file. -/
structure Journal (Addr : Type) where
  limits : JournalLimits
  nextSeq : Nat
  lines : Nat
  linesSinceCompact : Nat
  index : Index Addr
  closed : Bool
  tailDamaged : Bool
  file : List UInt8

/-- How the write of one record ends. A failed write is rolled back to the
previous record boundary; when that fails too, some bytes of the line stay. -/
inductive AppendIo where
  | written
  | rolledBack
  | damaged (left : Nat)
  deriving DecidableEq, Repr

/-- How the rewrite of a compaction ends: done, failed before the rename, or
renamed with the directory left unsynced. -/
inductive RewriteIo where
  | replaced
  | failed
  | unsynced
  deriving DecidableEq, Repr

/-- What the system answers during one call. The clock is read up to three
times: by the operation, for the record it makes, and by a compaction. -/
structure Io where
  now : Nat
  stampedAt : Nat
  compactedAt : Nat
  append : AppendIo
  rewrite : RewriteIo
  deriving DecidableEq, Repr

/-- Why a journal call fails as a whole. -/
inductive JournalError where
  | closed
  | tailDamaged
  | append
  | compact
  | corrupt (offset : Nat)
  deriving DecidableEq, Repr

/-- Why an enqueue is refused. -/
inductive EnqueueError where
  | conflict (messageId : String)
  | terminal (messageId : String) (state : OutboundState)
  | outboxFull (reason : String)
  deriving DecidableEq, Repr

/-- Result of an enqueue. -/
inductive EnqueueOutcome where
  | new
  | existing (state : OutboundState)
  deriving DecidableEq, Repr

/-- Result of an inbound acceptance. -/
inductive InboundOutcome where
  | accepted
  | duplicate
  | conflict
  | quotaExceeded
  deriving DecidableEq, Repr

/-- Result of a consume. -/
inductive ConsumeOutcome where
  | acked
  | alreadyAcked
  | unknown
  deriving DecidableEq, Repr

/-- Snapshot of an outbound message due for a try. -/
structure DueOutbound (Addr : Type) where
  messageId : String
  payload : String
  peerAddr : Addr
  queuedAtUnixMs : Nat
  deriving DecidableEq, Repr

/-- The largest `u64`. -/
def maxU64 : Nat := 2 ^ 64 - 1

/-- A record that is handed to an attempt until its lease ends. -/
def OutboundRecord.leased (leaseUntilUnixMs : Nat) (record : OutboundRecord Addr) :
    OutboundRecord Addr :=
  { record with nextAttemptUnixMs := leaseUntilUnixMs }

/-- A queued record that is sent again: leased, and with its payload. -/
def OutboundRecord.resent (payload : String) (leaseUntilUnixMs : Nat)
    (record : OutboundRecord Addr) : OutboundRecord Addr :=
  { record with
    nextAttemptUnixMs := leaseUntilUnixMs
    payload := some (record.payload.getD payload) }

/-- The record a compaction writes for an outbound message. -/
def OutboundRecord.snapshot (runtime : JournalRuntime Addr) (record : OutboundRecord Addr) :
    JournalEntry Addr where
  seq := record.seq
  state := match record.state with
    | .queued => .queuedLocal
    | .settled => .settled
    | .refused => .refused
    | .expired => .expired
  messageId := record.messageId
  payloadHash := record.payloadHash
  payloadHex := record.payload.map runtime.hexEncode
  peerEndpointId := some record.peerEndpointId
  peerAddr := record.peerAddr
  queuedAtUnixMs := some record.queuedAtUnixMs
  reason := record.reason
  tsUnixMs := record.lastTsUnixMs

/-- The record a compaction writes for an inbound message. -/
def InboundRecord.snapshot (runtime : JournalRuntime Addr) (record : InboundRecord) :
    JournalEntry Addr where
  seq := record.seq
  state := if record.consumed then .consumed else .receivedPeer
  messageId := record.messageId
  payloadHash := record.payloadHash
  payloadHex := record.payload.map runtime.hexEncode
  peerEndpointId := some record.sender
  peerAddr := none
  queuedAtUnixMs := none
  reason := none
  tsUnixMs := record.tsUnixMs

/-- The marker that keeps the highest `seq` ever used. -/
def checkpointEntry (highWater now : Nat) : JournalEntry Addr where
  seq := highWater
  state := .checkpoint
  messageId := ""
  payloadHash := ""
  payloadHex := none
  peerEndpointId := none
  peerAddr := none
  queuedAtUnixMs := none
  reason := none
  tsUnixMs := now

namespace JournalLimits

/-- `tombstone_retention.as_millis() as u64`. -/
def retentionMs (limits : JournalLimits) : Nat :=
  limits.tombstoneRetention % 2 ^ 64

/-- Whether a tombstone of time `ts` is kept at time `now`. -/
def fresh (limits : JournalLimits) (now ts : Nat) : Bool :=
  now - ts < limits.retentionMs

end JournalLimits

namespace Index

/-- What a compaction at time `now` keeps. -/
def retain (limits : JournalLimits) (now : Nat) (index : Index Addr) : Index Addr :=
  { index with
    outbound := index.outbound.delete fun record =>
      !(record.state = .queued || limits.fresh now record.lastTsUnixMs)
    inbound := index.inbound.delete fun record =>
      !(!record.consumed || limits.fresh now record.tsUnixMs) }

/-- The records of the index in the order of their `seq`. -/
def liveEntries (runtime : JournalRuntime Addr) (index : Index Addr) : List (JournalEntry Addr) :=
  (index.outbound.rows.map (OutboundRecord.snapshot runtime) ++
    index.inbound.rows.map (InboundRecord.snapshot runtime)).mergeSort
      fun first second => first.seq ≤ second.seq

/-- The records of a compacted file. -/
def snapshot (runtime : JournalRuntime Addr) (nextSeq now : Nat) (index : Index Addr) :
    List (JournalEntry Addr) :=
  let live := index.liveEntries runtime
  let highWater := nextSeq - 1
  if 0 < highWater ∧ live.getLast?.map JournalEntry.seq ≠ some highWater then
    live ++ [checkpointEntry highWater now]
  else live

/-- Number and payload bytes of the queued outbound messages. -/
def queuedTotals (index : Index Addr) : Nat × Nat :=
  (index.outbound.select fun record => record.state = .queued).foldl
    (fun totals record =>
      (totals.1 + 1, totals.2 + (record.payload.map String.utf8ByteSize).getD 0))
    (0, 0)

/-- Replace the record of an outbound message in memory. -/
def setOutbound (index : Index Addr) (record : OutboundRecord Addr) : Index Addr :=
  { index with outbound := index.outbound.upsert record }

end Index

namespace Journal

/-- The next record of this journal, with its own `seq`; the number is used up
even when the append fails. -/
def makeEntry (journal : Journal Addr) (state : DeliveryState) (messageId payloadHash : String)
    (now : Nat) : Journal Addr × JournalEntry Addr :=
  ({ journal with nextSeq := journal.nextSeq + 1 },
    { seq := journal.nextSeq
      state := state
      messageId := messageId
      payloadHash := payloadHash
      payloadHex := none
      peerEndpointId := none
      peerAddr := none
      queuedAtUnixMs := none
      reason := none
      tsUnixMs := now })

/-- Permanently stop writes. -/
def close (journal : Journal Addr) : Journal Addr :=
  { journal with closed := true }

/-- Change the outbound record of a message in memory, if there is one. -/
def modifyOutbound (journal : Journal Addr) (messageId : String)
    (change : OutboundRecord Addr → OutboundRecord Addr) : Journal Addr :=
  match journal.index.outbound.find? messageId with
  | none => journal
  | some record => { journal with index := journal.index.setOutbound (change record) }

variable (runtime : JournalRuntime Addr)

/-- Drop old tombstones and, when that makes it shorter, rewrite the file with
the records of the index. -/
def compact (journal : Journal Addr) (now : Nat) (rewrite : RewriteIo) :
    Journal Addr × Except JournalError Unit :=
  if journal.closed then (journal, .error .closed)
  else
    let retained := { journal with index := journal.index.retain journal.limits now }
    let snapshot := retained.index.snapshot runtime retained.nextSeq now
    if retained.lines ≤ snapshot.length then
      ({ retained with linesSinceCompact := 0 }, .ok ())
    else
      match rewrite with
      | .failed => (retained, .error .compact)
      | .unsynced =>
          ({ retained with file := RecordFile.fileOf runtime.codec snapshot }, .error .compact)
      | .replaced =>
          ({ retained with
              file := RecordFile.fileOf runtime.codec snapshot
              lines := snapshot.length
              linesSinceCompact := 0 }, .ok ())

/-- Append one record durably and apply it to the index; a compaction that is
due runs after the apply, and its failure is only logged. -/
def appendDurable (journal : Journal Addr) (entry : JournalEntry Addr) (io : Io) :
    Journal Addr × Except JournalError Unit :=
  if journal.closed then (journal, .error .closed)
  else if journal.tailDamaged then (journal, .error .tailDamaged)
  else
    let line := RecordFile.line runtime.codec entry
    match io.append with
    | .rolledBack => (journal, .error .append)
    | .damaged left =>
        ({ journal with file := journal.file ++ line.take left, tailDamaged := true },
          .error .append)
    | .written =>
        let applied :=
          { journal with
            file := journal.file ++ line
            lines := journal.lines + 1
            linesSinceCompact := journal.linesSinceCompact + 1
            index := journal.index.apply runtime entry }
        if applied.limits.compactEveryLines ≤ applied.linesSinceCompact then
          ((applied.compact runtime io.compactedAt io.rewrite).1, .ok ())
        else (applied, .ok ())

/-- Append the record of a message that is queued for the first time. -/
def appendQueued (journal : Journal Addr) (io : Io) (messageId payload peerEndpointId : String)
    (peerAddr : Addr) : Journal Addr × Except JournalError Unit :=
  let made := journal.makeEntry .queuedLocal messageId (runtime.payloadHashHex payload)
    io.stampedAt
  made.1.appendDurable runtime
    { made.2 with
      payloadHex := some (runtime.hexEncode payload)
      peerEndpointId := some peerEndpointId
      peerAddr := some peerAddr
      queuedAtUnixMs := some io.now } io

/-- Append the refreshed address of a queued message, so that retries after a
restart dial the new one. -/
def appendAddress (journal : Journal Addr) (io : Io) (messageId payload peerEndpointId : String)
    (peerAddr : Addr) : Journal Addr × Except JournalError Unit :=
  let made := journal.makeEntry .addressUpdated messageId (runtime.payloadHashHex payload)
    io.stampedAt
  made.1.appendDurable runtime
    { made.2 with peerEndpointId := some peerEndpointId, peerAddr := some peerAddr } io

/-- Persist an outbound message before it is sent; the same id, payload and
peer is an idempotent resend. -/
def enqueueOutbound (journal : Journal Addr) (io : Io) [DecidableEq Addr]
    (messageId payload peerEndpointId : String) (peerAddr : Addr) (leaseUntilUnixMs : Nat) :
    Journal Addr × Except JournalError (Except EnqueueError EnqueueOutcome) :=
  let hash := runtime.payloadHashHex payload
  match journal.index.outbound.find? messageId with
  | some record =>
      if record.payloadHash ≠ hash ∨ record.peerEndpointId ≠ peerEndpointId then
        (journal, .ok (.error (.conflict messageId)))
      else
        match record.state with
        | .refused => (journal, .ok (.error (.terminal messageId .refused)))
        | .expired => (journal, .ok (.error (.terminal messageId .expired)))
        | .settled => (journal, .ok (.ok (.existing .settled)))
        | .queued =>
            let leased := journal.modifyOutbound messageId (.resent payload leaseUntilUnixMs)
            if record.peerAddr = some peerAddr then (leased, .ok (.ok (.existing .queued)))
            else
              let appended := leased.appendAddress runtime io messageId payload peerEndpointId
                peerAddr
              (appended.1, appended.2.map fun _ => .ok (.existing .queued))
  | none =>
      let queued := journal.index.queuedTotals
      if journal.limits.maxOutbox ≤ queued.1 then
        (journal, .ok (.error (.outboxFull (toString queued.1 ++ " queued messages"))))
      else if journal.limits.maxOutboxBytes < queued.2 + payload.utf8ByteSize then
        (journal, .ok (.error (.outboxFull (toString queued.2 ++ " queued payload bytes"))))
      else
        let appended := journal.appendQueued runtime io messageId payload peerEndpointId peerAddr
        match appended.2 with
        | .error error => (appended.1, .error error)
        | .ok () =>
            (appended.1.modifyOutbound messageId (.leased leaseUntilUnixMs), .ok (.ok .new))

/-- Close a queued outbound message; anything else is left alone. -/
def finishOutbound (journal : Journal Addr) (io : Io) (messageId : String)
    (state : DeliveryState) (reason : Option String) : Journal Addr × Except JournalError Bool :=
  match journal.index.outbound.find? messageId with
  | none => (journal, .ok false)
  | some record =>
      if record.state ≠ .queued then (journal, .ok false)
      else
        let made := journal.makeEntry state messageId record.payloadHash io.stampedAt
        let appended := made.1.appendDurable runtime
          { made.2 with
            peerEndpointId := some record.peerEndpointId
            queuedAtUnixMs := some record.queuedAtUnixMs
            reason := reason } io
        (appended.1, appended.2.map fun _ => true)

/-- Mark settled after a verified receipt. -/
def recordSettled (journal : Journal Addr) (io : Io) (messageId : String) :
    Journal Addr × Except JournalError Bool :=
  journal.finishOutbound runtime io messageId .settled none

/-- Terminal refusal by the recipient, or an invalid receipt. -/
def recordRefused (journal : Journal Addr) (io : Io) (messageId reason : String) :
    Journal Addr × Except JournalError Bool :=
  journal.finishOutbound runtime io messageId .refused (some reason)

/-- Terminal expiry after the retry window. -/
def recordExpired (journal : Journal Addr) (io : Io) (messageId : String) :
    Journal Addr × Except JournalError Bool :=
  journal.finishOutbound runtime io messageId .expired
    (some "retry window elapsed without a receipt")

/-- Record a failed attempt and schedule the next one, in memory. -/
def noteAttemptFailed (journal : Journal Addr) (messageId : String) (nextAttemptUnixMs : Nat) :
    Journal Addr :=
  journal.modifyOutbound messageId fun record =>
    { record with
      attempts := min (record.attempts + 1) (2 ^ 32 - 1)
      nextAttemptUnixMs := nextAttemptUnixMs }

/-- What `take_due` has found so far: the expired ids and the due messages. -/
structure Taken (Addr : Type) where
  journal : Journal Addr
  expired : List String
  due : List (DueOutbound Addr)

/-- `take_due` at one message. -/
def takeOne (now expiryMs leaseUntilUnixMs maxDue : Nat) (taken : Taken Addr)
    (messageId : String) : Taken Addr :=
  match taken.journal.index.outbound.find? messageId with
  | none => taken
  | some record =>
      if record.state ≠ .queued then taken
      else if min (record.queuedAtUnixMs + expiryMs) maxU64 ≤ now then
        { taken with expired := taken.expired ++ [messageId] }
      else if now < record.nextAttemptUnixMs ∨ maxDue ≤ taken.due.length then taken
      else
        match record.payload, record.peerAddr with
        | some payload, some peerAddr =>
            { taken with
              journal := taken.journal.modifyOutbound messageId (.leased leaseUntilUnixMs)
              due := taken.due ++ [⟨messageId, payload, peerAddr, record.queuedAtUnixMs⟩] }
        | _, _ => taken

/-- Queued messages that have expired, and queued messages due for a retry,
which are leased. `order` is the order in which the hash map is visited. -/
def takeDue (journal : Journal Addr) (order : List String)
    (now expiryMs leaseUntilUnixMs maxDue : Nat) : Taken Addr :=
  order.foldl (takeOne now expiryMs leaseUntilUnixMs maxDue) ⟨journal, [], []⟩

/-- Persist the acceptance of an inbound message under its sender and id. -/
def acceptInbound (journal : Journal Addr) (io : Io) (sender messageId payload : String) :
    Journal Addr × Except JournalError InboundOutcome :=
  let hash := runtime.payloadHashHex payload
  match journal.index.inbound.find? (sender, messageId) with
  | some record =>
      if record.payloadHash ≠ hash then (journal, .ok .conflict)
      else
        let made := journal.makeEntry .duplicateSuppressed messageId hash io.stampedAt
        let appended := made.1.appendDurable runtime
          { made.2 with peerEndpointId := some sender } io
        (appended.1, appended.2.map fun _ => .duplicate)
  | none =>
      let total := (journal.index.liveInbound.find? sender).getD ⟨sender, 0, 0⟩
      if journal.limits.maxUnconsumedPerPeer < total.count + 1 ∨
          journal.limits.maxUnconsumedBytesPerPeer < total.bytes + payload.utf8ByteSize then
        (journal, .ok .quotaExceeded)
      else
        let made := journal.makeEntry .receivedPeer messageId hash io.stampedAt
        let appended := made.1.appendDurable runtime
          { made.2 with
            payloadHex := some (runtime.hexEncode payload)
            peerEndpointId := some sender } io
        (appended.1, appended.2.map fun _ => .accepted)

/-- Acknowledge an inbox item; a tombstone keeps its key known. -/
def consume (journal : Journal Addr) (io : Io) (sender messageId : String) :
    Journal Addr × Except JournalError ConsumeOutcome :=
  match journal.index.inbound.find? (sender, messageId) with
  | none => (journal, .ok .unknown)
  | some record =>
      if record.consumed then (journal, .ok .alreadyAcked)
      else
        let made := journal.makeEntry .consumed messageId record.payloadHash io.stampedAt
        let appended := made.1.appendDurable runtime
          { made.2 with peerEndpointId := some sender } io
        (appended.1, appended.2.map fun _ => .acked)

/-- A journal over an empty file. -/
def fresh (limits : JournalLimits) : Journal Addr where
  limits := limits
  nextSeq := 1
  lines := 0
  linesSinceCompact := 0
  index := Index.empty
  closed := false
  tailDamaged := false
  file := []

/-- The journal a file replays to, before the compaction of an open. -/
def replayed (limits : JournalLimits) (file : List UInt8)
    (found : RecordFile.Recovered (JournalEntry Addr)) : Journal Addr where
  limits := limits
  nextSeq := found.entries.foldl (fun nextSeq entry => max nextSeq (entry.seq + 1)) 1
  lines := found.entries.length
  linesSinceCompact := 0
  index := Index.replay runtime found.entries
  closed := false
  tailDamaged := false
  file := match found.truncateAt with
    | none => file
    | some offset => file.take offset

/-- Open or create the journal of a state directory. A bad final record is
truncated, a bad record anywhere else is an error. -/
def openWith (limits : JournalLimits) (file : Option (List UInt8)) (now : Nat)
    (rewrite : RewriteIo) : Except JournalError (Journal Addr) :=
  match file with
  | none => .ok (fresh limits)
  | some bytes =>
      match RecordFile.readRecovering runtime.codec.decode bytes with
      | .error offset => .error (.corrupt offset)
      | .ok found =>
          let compacted := (replayed runtime limits bytes found).compact runtime now rewrite
          compacted.2.map fun _ => compacted.1

end Journal

end

end Triangle.PeerEngine
