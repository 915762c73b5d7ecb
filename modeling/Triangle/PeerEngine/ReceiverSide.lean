import Mathlib.Data.List.Induction
import Triangle.PeerEngine.Engine
import Triangle.PeerEngine.Replay
import Triangle.Std.Outcome

/-!
# What the receiving engine knows

A message is durably accepted when the journal file holds a `received_peer`
record of it. Every inbound record of the index was accepted so at some time:
the index learns of a message from such a record only, and the record is in the
file as long as the message is not consumed.
-/

namespace Triangle.PeerEngine

open Triangle.Std

section

variable {Addr : Type}

/-- The file holds a record that accepts the message with a payload of this hash. -/
def DurablyAccepted (runtime : JournalRuntime Addr) (file : List UInt8)
    (sender messageId payloadHash : String) : Prop :=
  ∃ found entry payload, RecordFile.readRecovering runtime.codec.decode file = .ok found ∧
    entry ∈ found.entries ∧ entry.state = .receivedPeer ∧
    entry.peerEndpointId = some sender ∧ entry.messageId = messageId ∧
    entry.payloadHash = payloadHash ∧ entry.payloadHex.bind runtime.hexDecode = some payload ∧
    runtime.payloadHashHex payload = payloadHash

/-- An inbound record whose payload is there and has its hash. -/
def InboundRecord.Held (runtime : JournalRuntime Addr) (record : InboundRecord) : Prop :=
  record.consumed = false ∧ ∃ payload, record.payload = some payload ∧
    runtime.payloadHashHex payload = record.payloadHash

variable {runtime : JournalRuntime Addr}

variable {key : String × String} {record : InboundRecord}

/-- An unconsumed record of a replay was received by a record of the file. -/
theorem Index.replay_received {entries : List (JournalEntry Addr)}
    (found : (Index.replay runtime entries).inbound.find? key = some record)
    (unconsumed : record.consumed = false) :
    ∃ entry ∈ entries, entry.state = .receivedPeer ∧ entry.peerEndpointId = some key.1 ∧
      entry.messageId = key.2 ∧ Index.receivedRecord runtime entry key.1 = record := by
  induction entries using List.reverseRecOn with
  | nil => cases found
  | append_singleton before entry ih =>
      have earlier : (Index.replay runtime before).inbound.find? key = some record →
          ∃ entry' ∈ before ++ [entry], entry'.state = .receivedPeer ∧
            entry'.peerEndpointId = some key.1 ∧ entry'.messageId = key.2 ∧
            Index.receivedRecord runtime entry' key.1 = record := by
        intro isFound
        obtain ⟨received, member, facts⟩ := ih isFound
        exact ⟨received, List.mem_append_left [entry] member, facts⟩
      rw [Index.replay, List.foldl_append] at found
      change ((Index.replay runtime before).apply runtime entry).inbound.find? key = some record
        at found
      rw [Index.find?_apply_inbound] at found
      split at found
      next named =>
        unfold Index.inboundAfter at found
        split at found
        next isReceived =>
          cases found
          exact ⟨entry, by simp, isReceived, named.1, named.2, rfl⟩
        · cases found
          cases unconsumed
        · exact earlier found
      · exact earlier found

variable {limits : JournalLimits} {now : Nat} {pending : Option (JournalEntry Addr)}
  {journal : Journal Addr}

/-- A message that is held in memory is durably accepted. -/
theorem Tracks.durablyAccepted (tracks : Tracks runtime limits now pending journal)
    (found : journal.index.inbound.find? key = some record) (held : record.Held runtime) :
    DurablyAccepted runtime journal.file key.1 key.2 record.payloadHash := by
  obtain ⟨unconsumed, payload, isPayload, sameHash⟩ := held
  obtain ⟨entries, left, isFile, -, covers⟩ := tracks.stored
  have onDisk : (Index.replay runtime entries).inbound.find? key = some record := by
    rcases covers.inbound key with same | ⟨gone, -⟩
    · rw [same, found]
    · rw [found] at gone
      cases gone
  obtain ⟨entry, member, isReceived, isSender, isMessage, isRecord⟩ :=
    Index.replay_received onDisk unconsumed
  obtain ⟨read, isRead, isEntries, -⟩ := readRecovering_tailOf runtime limits entries pending left
  have inRead : entry ∈ read.entries := by
    rcases isEntries with same | ⟨last, -, appended⟩
    · rw [same]
      exact member
    · rw [appended]
      exact List.mem_append_left [last] member
  subst isRecord
  exact ⟨read, entry, payload, by rw [isFile, isRead], inRead, isReceived, isSender, isMessage, rfl,
    isPayload, sameHash⟩

/-- The receiving engine: its file covers its index, and every inbound record
was accepted. -/
structure ReceiverSound (runtime : JournalRuntime Addr) (limits : JournalLimits)
    (accepted : String × String → String → Prop) (now : Nat)
    (pending : Option (JournalEntry Addr)) (journal : Journal Addr) : Prop where
  tracks : Tracks runtime limits now pending journal
  inbound : ∀ key record, journal.index.inbound.find? key = some record →
    accepted key record.payloadHash
  received : ∀ entry ∈ pending, entry.state = .receivedPeer →
    ∃ payload, entry.payloadHex.bind runtime.hexDecode = some payload ∧
      runtime.payloadHashHex payload = entry.payloadHash

variable {accepted : String × String → String → Prop}

variable {entry : JournalEntry Addr} {io : Io}

/-- After a record is applied, each inbound record was accepted before or is
held. -/
theorem ReceiverSound.apply_inbound
    (sound : ReceiverSound runtime limits accepted now pending journal)
    (anchored : journal.index.Anchored entry) (received : entry.state = .receivedPeer →
      ∃ payload, entry.payloadHex.bind runtime.hexDecode = some payload ∧
        runtime.payloadHashHex payload = entry.payloadHash)
    (found : (journal.index.apply runtime entry).inbound.find? key = some record) :
    accepted key record.payloadHash ∨ record.Held runtime := by
  rw [Index.find?_apply_inbound] at found
  split at found
  next named =>
    unfold Index.inboundAfter at found
    split at found
    next isReceived =>
      cases found
      obtain ⟨payload, isPayload, sameHash⟩ := received isReceived
      exact .inr ⟨rfl, payload, isPayload, sameHash⟩
    next isConsumed =>
      obtain ⟨old, isOld, -⟩ := anchored.inbound isConsumed key.1 named.1
      rw [named.2] at isOld
      rw [isOld] at found
      cases found
      exact .inl (sound.inbound key old isOld)
    · exact .inl (sound.inbound key record found)
  · exact .inl (sound.inbound key record found)

/-- What an operation leaves: each inbound record was accepted before or is held. -/
structure ReceiverLeft (runtime : JournalRuntime Addr) (limits : JournalLimits)
    (accepted : String × String → String → Prop) (now : Nat)
    (pending : Option (JournalEntry Addr)) (journal : Journal Addr) : Prop where
  tracks : Tracks runtime limits now pending journal
  inbound : ∀ key record, journal.index.inbound.find? key = some record →
    accepted key record.payloadHash ∨ record.Held runtime
  received : ∀ entry ∈ pending, entry.state = .receivedPeer →
    ∃ payload, entry.payloadHex.bind runtime.hexDecode = some payload ∧
      runtime.payloadHashHex payload = entry.payloadHash

/-- What is held is in the file, so it counts as accepted from here on. -/
theorem ReceiverLeft.sound {later : String × String → String → Prop}
    (left : ReceiverLeft runtime limits accepted now pending journal)
    (stays : ∀ key payloadHash, accepted key payloadHash → later key payloadHash)
    (holds : ∀ key payloadHash,
      DurablyAccepted runtime journal.file key.1 key.2 payloadHash → later key payloadHash) :
    ReceiverSound runtime limits later now pending journal := by
  refine ⟨left.tracks, fun key record found => ?_, left.received⟩
  rcases left.inbound key record found with wasAccepted | held
  · exact stays key _ wasAccepted
  · exact holds key _ (left.tracks.durablyAccepted found held)

/-- The payload of a received record has its hash. -/
theorem Appends.received_payload {operation : Operation Addr}
    (appends : Appends runtime io journal operation entry)
    (isReceived : entry.state = .receivedPeer) :
    ∃ payload, entry.payloadHex.bind runtime.hexDecode = some payload ∧
      runtime.payloadHashHex payload = entry.payloadHash := by
  cases appends with
  | received sender messageId payload =>
      exact ⟨payload, by simp [runtime.hexDecode_hexEncode], rfl⟩
  | closed _ _ _ _ _ _ closes => cases closes <;> cases isReceived
  | queued | readdressed | duplicate | consumed => cases isReceived

/-- Every operation leaves the receiver's records accepted or held. -/
theorem ReceiverSound.perform [DecidableEq Addr] (operation : Operation Addr)
    (sound : ReceiverSound runtime limits accepted io.compactedAt pending journal) :
    ∃ kept, ReceiverLeft runtime limits accepted io.compactedAt kept
      (operation.perform runtime io journal) := by
  apply Operation.perform_leads
    (fun journal => ∃ kept, ReceiverSound runtime limits accepted io.compactedAt kept journal)
    (fun journal => ∃ kept, ReceiverSound runtime limits accepted io.compactedAt kept journal)
    (fun journal => ∃ kept, ReceiverLeft runtime limits accepted io.compactedAt kept journal)
  · rintro journal ⟨kept, held⟩
    exact ⟨kept, held.tracks, fun key record found => .inl (held.inbound key record found),
      held.received⟩
  · rintro journal named record changed found memoryOnly ⟨kept, held⟩
    exact ⟨kept, held.tracks.touch found memoryOnly, held.inbound, held.received⟩
  · rintro journal named record changed found memoryOnly ⟨kept, left⟩
    exact ⟨kept, left.tracks.touch found memoryOnly, left.inbound, left.received⟩
  · rintro journal ⟨kept, held⟩
    exact ⟨kept, { held.tracks with }, held.inbound, held.received⟩
  · rintro journal entry appends ⟨before, held⟩
    have applied : ∀ key record,
        (journal.index.apply runtime entry).inbound.find? key = some record →
        accepted key record.payloadHash ∨ record.Held runtime :=
      fun key record => held.apply_inbound appends.anchored appends.received_payload
    obtain ⟨kept, tracks, ⟨isKept, -, sameIndex⟩ | ⟨isNone, -, isIndex⟩⟩ :=
      held.tracks.append appends.anchored appends.readable
    · refine ⟨kept, tracks, fun key record found => ?_, fun other isPending => ?_⟩
      · rw [sameIndex] at found
        exact .inl (held.inbound key record found)
      · rcases isKept with same | isEntry
        · exact held.received other (same ▸ isPending)
        · rw [isEntry] at isPending
          cases isPending
          exact appends.received_payload
    · subst isNone
      refine ⟨none, tracks, fun key record found => ?_, nofun⟩
      rcases isIndex with isApplied | isRetained
      · rw [isApplied] at found
        exact applied key record found
      · rw [isRetained, Index.find?_retain_inbound, Option.filter_eq_some_iff] at found
        exact applied key record found.1
  · rintro journal ⟨before, held⟩
    obtain ⟨kept, isKept, tracks⟩ := held.tracks.compact io.rewrite
    refine ⟨kept, tracks, fun key record found => ?_, fun entry isPending => ?_⟩
    · rw [compact_index held.tracks.isOpen, Index.find?_retain_inbound,
        Option.filter_eq_some_iff] at found
      exact .inl (held.inbound key record found.1)
    · rcases isKept with isNone | same
      · rw [isNone] at isPending
        cases isPending
      · exact held.received entry (same ▸ isPending)
  · exact ⟨pending, sound⟩

/-- So does a restart. -/
theorem ReceiverSound.restart
    (sound : ReceiverSound runtime limits accepted now pending journal) :
    ∃ reopened, Journal.openWith runtime limits (some journal.file) now .replaced =
        .ok reopened ∧
      ReceiverLeft runtime limits accepted now none reopened := by
  obtain ⟨opened, isOpened, tracks, -, base, isBase, covers⟩ := sound.tracks.reopen .replaced
  obtain ⟨kept, isKept, compacted⟩ := tracks.compact .replaced
  obtain rfl : kept = none := isKept.elim id id
  have baseLeft : ∀ key record, base.inbound.find? key = some record →
      accepted key record.payloadHash ∨ record.Held runtime := by
    intro key record found
    rcases isBase with same | ⟨entry, isPending, applied⟩
    · rw [same] at found
      exact .inl (sound.inbound key record found)
    · rw [applied] at found
      exact sound.apply_inbound (sound.tracks.anchored entry isPending)
        (sound.received entry isPending) found
  refine ⟨_, by rw [isOpened, compact_replaced tracks.isOpen]; rfl, compacted, ?_,
    nofun⟩
  intro key record found
  rw [compact_index tracks.isOpen, tracks.limitsAre, covers.retain_inbound,
    Index.find?_retain_inbound, Option.filter_eq_some_iff] at found
  exact baseLeft key record found.1

section

variable {io : Io} {sender messageId payload : String}

end

end

end Triangle.PeerEngine
