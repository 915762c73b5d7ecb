import Triangle.PeerEngine.Inbox
import Triangle.PeerEngine.PlainRuntime

/-!
# An inbound message is accepted once

A key that was accepted stays known, as a message or as a tombstone, until a
compaction runs when the tombstone is past its retention. Neither a restart nor
a failed write shortens this, and nothing changes the payload hash of a known
key.
-/

namespace Triangle.PeerEngine

open Triangle.Std
open Triangle.Semantics (Machine)

section

variable {Addr : Type}

/-- The key is known with a payload hash. No tombstone of it, in memory or
pending, is past its retention at time `finish`. -/
structure Knows (limits : JournalLimits) (key : String × String) (payloadHash : String)
    (finish : Nat) (contents : Contents Addr) : Prop where
  record : ∃ record, contents.index.inbound.find? key = some record ∧
    record.payloadHash = payloadHash ∧
    (record.consumed = false ∨ limits.fresh finish record.tsUnixMs = true)
  pending : ∀ entry ∈ contents.pending, entry.state = .consumed →
    entry.peerEndpointId = some key.1 → entry.messageId = key.2 →
    limits.fresh finish entry.tsUnixMs = true

variable {runtime : JournalRuntime Addr} {limits : JournalLimits} {key : String × String}
  {payloadHash : String} {finish now : Nat} {index : Index Addr} {entry : JournalEntry Addr}

/-- A record keeps a known key known. -/
theorem Index.apply_known
    (anchored : index.Anchored entry)
    (consumes : entry.state = .consumed → entry.peerEndpointId = some key.1 →
      entry.messageId = key.2 → limits.fresh finish entry.tsUnixMs = true)
    (known : ∃ record, index.inbound.find? key = some record ∧ record.payloadHash = payloadHash ∧
      (record.consumed = false ∨ limits.fresh finish record.tsUnixMs = true)) :
    ∃ record, (index.apply runtime entry).inbound.find? key = some record ∧
      record.payloadHash = payloadHash ∧
      (record.consumed = false ∨ limits.fresh finish record.tsUnixMs = true) := by
  obtain ⟨record, found, sameHash, isKept⟩ := known
  rw [Index.find?_apply_inbound]
  split
  next named =>
    rw [found]
    unfold Index.inboundAfter
    cases isState : entry.state with
    | receivedPeer =>
        have free := anchored.inboundFree isState key.1 named.1
        rw [named.2, found] at free
        cases free
    | consumed => exact ⟨_, rfl, sameHash, .inr (consumes isState named.1 named.2)⟩
    | _ => exact ⟨record, rfl, sameHash, isKept⟩
  · exact ⟨record, found, sameHash, isKept⟩

/-- Neither a compaction nor an open before `finish` forgets the key. -/
theorem Knows.keeps (notLater : now ≤ finish) :
    Keeps runtime limits now (Knows limits key payloadHash finish) where
  drop := by
    rintro journal pending _ ⟨⟨record, found, sameHash, isKept⟩, pendingKept⟩
    refine ⟨⟨record, ?_, sameHash, isKept⟩, pendingKept⟩
    have keeps : Index.keepsInbound limits now record = true := by
      unfold Index.keepsInbound
      rw [Bool.or_eq_true, Bool.not_eq_true']
      rcases isKept with unconsumed | isFresh
      · exact .inl unconsumed
      · right
        cases isStale : limits.fresh now record.tsUnixMs with
        | true => rfl
        | false =>
            rw [Index.fresh_antitone notLater isStale] at isFresh
            cases isFresh
    change (journal.index.retain limits now).inbound.find? key = some record
    rw [Index.find?_retain_inbound]
    change journal.index.inbound.find? key = some record at found
    rw [found, Option.filter_some, if_pos keeps]
  rewrite := by
    rintro journal pending _ ⟨known, -⟩
    exact ⟨known, nofun⟩
  reopen := by
    rintro journal pending found base tracks ⟨known, pendingKept⟩ _ isBase covers
    have onBase : ∃ record, base.inbound.find? key = some record ∧
        record.payloadHash = payloadHash ∧
        (record.consumed = false ∨ limits.fresh finish record.tsUnixMs = true) := by
      rcases isBase with rfl | ⟨entry, isPending, rfl⟩
      · exact known
      · exact Index.apply_known (tracks.anchored entry isPending) (pendingKept entry isPending) known
    obtain ⟨record, isFound, sameHash, isKept⟩ := onBase
    refine ⟨⟨record, ?_, sameHash, isKept⟩, nofun⟩
    rcases covers.inbound key with same | ⟨gone, -⟩
    · rw [← isFound]
      exact same
    · rw [isFound] at gone
      cases gone

variable {operation : Operation Addr}

/-- A record that consumes the key is written by a consume of it. -/
theorem Appends.consumed_fresh {io : Io} {journal : Journal Addr}
    (appends : Appends runtime io journal operation entry)
    (stamped : operation = .consume key.1 key.2 → limits.fresh finish io.stampedAt = true)
    (isConsumed : entry.state = .consumed) (isSender : entry.peerEndpointId = some key.1)
    (isMessage : entry.messageId = key.2) : limits.fresh finish entry.tsUnixMs = true := by
  cases appends with
  | consumed sender messageId =>
      cases isSender
      cases isMessage
      exact stamped rfl
  | closed operation messageId state reason seq record closes => cases closes <;> cases isConsumed
  | queued | readdressed | received | duplicate => cases isConsumed

/-- Calls keep the key known, if a consume of it is stamped so that its
tombstone is not past its retention at `finish`. -/
theorem Knows.serves {io : Io} (notLater : io.compactedAt ≤ finish)
    (stamped : operation = .consume key.1 key.2 → limits.fresh finish io.stampedAt = true) :
    Serves runtime limits io operation (Knows limits key payloadHash finish) where
  toKeeps := Knows.keeps notLater
  touch := fun _ _ _ _ _ _ _ _ knows => ⟨knows.record, knows.pending⟩
  number := fun _ _ knows => ⟨knows.record, knows.pending⟩
  damage := by
    rintro journal entry left _ appends ⟨known, -⟩
    refine ⟨known, fun other isPending isConsumed isSender isMessage => ?_⟩
    cases isPending
    exact appends.consumed_fresh stamped isConsumed isSender isMessage
  write := by
    rintro journal entry _ appends ⟨known, -⟩
    exact ⟨Index.apply_known appends.anchored (appends.consumed_fresh stamped) known,
      nofun⟩

end

section

variable {Addr : Type}

/-- What a call that accepts an inbound message would return now; nothing while
no engine runs. -/
def Life.accepts (runtime : JournalRuntime Addr) (life : Life Addr) (timing : Timing)
    (sender messageId payload : String) : Option (Except JournalError InboundOutcome) :=
  match life.standing with
  | .stopped _ => none
  | .running journal =>
      some (journal.acceptInbound runtime (timing.io life.clock) sender messageId payload).2

/-- What a call that consumes an inbound message would return now. -/
def Life.consumes (runtime : JournalRuntime Addr) (life : Life Addr) (timing : Timing)
    (sender messageId : String) : Option (Except JournalError ConsumeOutcome) :=
  match life.standing with
  | .stopped _ => none
  | .running journal => some (journal.consume runtime (timing.io life.clock) sender messageId).2

/-- The call consumes the message, or tries to and may have left its record. -/
def Life.MayConsume (runtime : JournalRuntime Addr) (life : Life Addr) (timing : Timing)
    (sender messageId : String) : Prop :=
  life.consumes runtime timing sender messageId = some (.ok .acked) ∨
    life.consumes runtime timing sender messageId = some (.error .append)

variable {runtime : JournalRuntime Addr} {limits : JournalLimits} {sender messageId : String}
  {journal : Journal Addr} {io : Io}

variable {entry : JournalEntry Addr} {timing : Timing} {start : Nat}

variable {record : InboundRecord} {payload : String}

variable [DecidableEq Addr] {life : Life Addr} {payloadHash : String} {finish : Nat}

/-- A call that may consume is stamped before its step ends. -/
theorem Life.MayConsume.stamped (mayConsume : life.MayConsume runtime timing sender messageId)
    (ends : (lifeStep runtime limits life (.call timing (.consume sender messageId))).clock ≤
      finish) : (timing.io life.clock).stampedAt ≤ finish := by
  obtain ⟨standing, clock⟩ := life
  obtain ⟨-, -, compacted⟩ := timing.ordered clock
  cases standing with
  | stopped file => rcases mayConsume with isAcked | isFailed <;> contradiction
  | running journal => exact compacted.trans ends

/-- The engine that runs, if any, knows the key with this payload hash. -/
def Life.Remembers (life : Life Addr) (sender messageId payloadHash : String) : Prop :=
  ∀ journal, life.standing = .running journal → ∃ record,
    journal.index.inbound.find? (sender, messageId) = some record ∧
      record.payloadHash = payloadHash

end

end Triangle.PeerEngine
