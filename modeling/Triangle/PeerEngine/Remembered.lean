import Triangle.PeerEngine.SenderSide

/-!
# How long the engine remembers an id

A message that was queued after time `since` keeps its record while a tombstone
of that time would be kept: a queued record is never dropped, and a closing
record is stamped later than `since`. Compactions, failed writes and restarts
do not shorten this.
-/

namespace Triangle.PeerEngine

open Triangle.Std

section

variable {Addr : Type}

/-- As long as tombstones of time `since` are kept, the message has a record. -/
def Index.Remembers (limits : JournalLimits) (now : Nat) (index : Index Addr)
    (messageId : String) (since : Nat) : Prop :=
  now < since + limits.retentionMs → ∃ record, index.outbound.find? messageId = some record ∧
    (record.state = .queued ∨ since ≤ record.lastTsUnixMs)

section

variable {limits : JournalLimits} {earlier now since : Nat} {index base disk : Index Addr}
  {messageId : String} {entry : JournalEntry Addr} {runtime : JournalRuntime Addr}

theorem Index.Remembers.mono (notLater : earlier ≤ now)
    (remembers : Index.Remembers limits earlier index messageId since) :
    Index.Remembers limits now index messageId since :=
  fun isKept => remembers (Nat.lt_of_le_of_lt notLater isKept)

/-- A compaction forgets the message only when tombstones of its time go. -/
theorem Index.Remembers.retain (retains : 0 < limits.retentionMs)
    (remembers : Index.Remembers limits now index messageId since) :
    Index.Remembers limits now (index.retain limits now) messageId since := by
  intro isKept
  obtain ⟨record, found, held⟩ := remembers isKept
  refine ⟨record, ?_, held⟩
  have kept : Index.keepsOutbound limits now record = true := by
    unfold Index.keepsOutbound JournalLimits.fresh
    rw [Bool.or_eq_true, decide_eq_true_iff, decide_eq_true_iff]
    rcases held with isQueued | closedAfter
    · exact .inl isQueued
    · exact .inr (by omega)
  rw [Index.find?_retain_outbound, found, Option.filter_some, kept]
  rfl

theorem Index.Remembers.touch {named : String} {record changed : OutboundRecord Addr}
    (found : index.outbound.find? named = some record) (memoryOnly : MemoryOnly record changed)
    (remembers : Index.Remembers limits now index messageId since) :
    Index.Remembers limits now (index.setOutbound changed) messageId since := by
  intro isKept
  obtain ⟨old, isOld, held⟩ := remembers isKept
  rw [Index.find?_setOutbound found memoryOnly]
  split
  next isNamed =>
    rw [isNamed, found, Option.some.injEq] at isOld
    subst isOld
    have sameTime : changed.lastTsUnixMs = record.lastTsUnixMs := by rw [memoryOnly.durable]
    rw [← memoryOnly.state, ← sameTime] at held
    exact ⟨changed, rfl, held⟩
  · exact ⟨old, isOld, held⟩

/-- A record that is stamped later than `since` does not shorten the memory. -/
theorem Index.Remembers.apply (anchored : index.Anchored entry) (stamped : since ≤ entry.tsUnixMs)
    (remembers : Index.Remembers limits now index messageId since) :
    Index.Remembers limits now (index.apply runtime entry) messageId since := by
  intro isKept
  obtain ⟨record, found, held⟩ := remembers isKept
  rw [Index.find?_apply_outbound]
  split
  next named =>
    rw [named] at found
    rw [named, found]
    have closes : ∀ state, ∃ closed,
        some (Index.closedRecord state entry (some record)) = some closed ∧
        (closed.state = .queued ∨ since ≤ closed.lastTsUnixMs) :=
      fun state => ⟨_, rfl, .inr stamped⟩
    unfold Index.outboundAfter
    cases isState : entry.state with
    | queuedLocal =>
        have free := anchored.outboundFree isState
        rw [found] at free
        cases free
    | settled => exact closes .settled
    | refused => exact closes .refused
    | expired => exact closes .expired
    | addressUpdated =>
        refine ⟨_, rfl, ?_⟩
        unfold Index.readdressed
        split
        · exact held
        · exact held
    | receivedPeer | consumed | duplicateSuppressed | checkpoint => exact ⟨record, rfl, held⟩
  · exact ⟨record, found, held⟩

/-- What an open reads from the file is remembered as in memory. -/
theorem Index.Remembers.of_covers (covers : Index.Covers limits now disk base)
    (remembers : Index.Remembers limits now base messageId since) :
    Index.Remembers limits now disk messageId since := by
  intro isKept
  obtain ⟨record, found, held⟩ := remembers isKept
  obtain ⟨onDisk, isDisk, sameState, sameTime⟩ := covers.found found
  refine ⟨onDisk, isDisk, ?_⟩
  rw [sameState, sameTime]
  exact held

/-- A queued message is remembered, since whenever. -/
theorem Index.QueuedFor.remembers {payloadHash peer : String}
    (isQueued : index.QueuedFor messageId payloadHash peer) :
    Index.Remembers limits now index messageId since := by
  obtain ⟨record, found, -, -, queued⟩ := isQueued
  exact fun _ => ⟨record, found, .inl queued⟩

end

/-- A restart succeeds. What it reads is what is retained of the index in memory,
after the pending record if that was whole. -/
theorem Tracks.restart {runtime : JournalRuntime Addr} {limits : JournalLimits} {now : Nat}
    {pending : Option (JournalEntry Addr)} {journal : Journal Addr}
    (tracks : Tracks runtime limits now pending journal) :
    ∃ reopened disk, Journal.openWith runtime limits (some journal.file) now .replaced =
        .ok reopened ∧
      Tracks runtime limits now none reopened ∧ reopened.index = disk.retain limits now ∧
      ∃ base, (base = journal.index ∨ ∃ entry ∈ pending, base = journal.index.apply runtime entry) ∧
        Index.Covers limits now disk base := by
  obtain ⟨opened, isOpened, openedTracks, -, isBase⟩ := tracks.reopen .replaced
  obtain ⟨kept, isKept, compacted⟩ := openedTracks.compact .replaced
  obtain rfl : kept = none := isKept.elim id id
  refine ⟨_, opened.index, by rw [isOpened, compact_replaced openedTracks.isOpen]; rfl, compacted,
    ?_, isBase⟩
  rw [compact_index openedTracks.isOpen, openedTracks.limitsAre]

/-- A journal that remembers the message, in memory and on disk. -/
structure Recalls (runtime : JournalRuntime Addr) (limits : JournalLimits) (messageId : String)
    (since now : Nat) (pending : Option (JournalEntry Addr)) (journal : Journal Addr) : Prop where
  retains : 0 < limits.retentionMs
  tracks : Tracks runtime limits now pending journal
  remembers : Index.Remembers limits now journal.index messageId since
  stamped : ∀ entry ∈ pending, since ≤ entry.tsUnixMs

namespace Recalls

variable {runtime : JournalRuntime Addr} {limits : JournalLimits} {messageId : String}
  {since earlier now : Nat} {pending : Option (JournalEntry Addr)} {journal : Journal Addr}

theorem mono (recalls : Recalls runtime limits messageId since earlier pending journal)
    (notLater : earlier ≤ now) : Recalls runtime limits messageId since now pending journal :=
  ⟨recalls.retains, recalls.tracks.mono notLater, recalls.remembers.mono notLater, recalls.stamped⟩

theorem compact (recalls : Recalls runtime limits messageId since now pending journal)
    (rewrite : RewriteIo) :
    ∃ kept, Recalls runtime limits messageId since now kept
      (journal.compact runtime now rewrite).1 := by
  obtain ⟨kept, isKept, tracks⟩ := recalls.tracks.compact rewrite
  refine ⟨kept, recalls.retains, tracks, ?_, ?_⟩
  · rw [compact_index recalls.tracks.isOpen, recalls.tracks.limitsAre]
    exact recalls.remembers.retain recalls.retains
  · intro entry isPending
    rcases isKept with isNone | same
    · rw [isNone] at isPending
      cases isPending
    · exact recalls.stamped entry (same ▸ isPending)

theorem append {io : Io} {entry : JournalEntry Addr}
    (recalls : Recalls runtime limits messageId since io.compactedAt pending journal)
    (anchored : journal.index.Anchored entry) (readable : Readable runtime entry)
    (stamped : since ≤ entry.tsUnixMs) :
    ∃ kept, Recalls runtime limits messageId since io.compactedAt kept
      (journal.appendDurable runtime entry io).1 := by
  have applied : Index.Remembers limits io.compactedAt (journal.index.apply runtime entry) messageId
      since := recalls.remembers.apply anchored stamped
  obtain ⟨kept, tracks, ⟨isKept, -, sameIndex⟩ | ⟨isNone, -, isIndex⟩⟩ :=
    recalls.tracks.append anchored readable
  · refine ⟨kept, recalls.retains, tracks, ?_, ?_⟩
    · rw [sameIndex]
      exact recalls.remembers
    · intro other isPending
      rcases isKept with same | isEntry
      · exact recalls.stamped other (same ▸ isPending)
      · rw [isEntry] at isPending
        cases isPending
        exact stamped
  · subst isNone
    refine ⟨none, recalls.retains, tracks, ?_, nofun⟩
    rcases isIndex with isApplied | isRetained
    · rw [isApplied]
      exact applied
    · rw [isRetained]
      exact applied.retain recalls.retains

/-- No operation makes the journal forget the message early. -/
theorem perform [DecidableEq Addr] {io : Io} (operation : Operation Addr)
    (begun : since ≤ io.stampedAt)
    (recalls : Recalls runtime limits messageId since io.compactedAt pending journal) :
    ∃ kept, Recalls runtime limits messageId since io.compactedAt kept
      (operation.perform runtime io journal) := by
  apply Operation.perform_induct fun journal =>
    ∃ kept, Recalls runtime limits messageId since io.compactedAt kept journal
  · rintro journal named record changed found memoryOnly ⟨kept, held⟩
    exact ⟨kept, held.retains, held.tracks.touch found memoryOnly, held.remembers.touch found memoryOnly,
      held.stamped⟩
  · rintro journal ⟨kept, held⟩
    exact ⟨kept, held.retains, { held.tracks with }, held.remembers, held.stamped⟩
  · rintro journal entry appends ⟨kept, held⟩
    have isStamped : entry.tsUnixMs = io.stampedAt := by cases appends <;> rfl
    exact held.append appends.anchored appends.readable (isStamped ▸ begun)
  · rintro journal ⟨kept, held⟩
    exact held.compact io.rewrite
  · exact ⟨pending, recalls⟩

/-- A restart does not either. -/
theorem restart {reopened : Journal Addr}
    (recalls : Recalls runtime limits messageId since now pending journal)
    (isReopened : Journal.openWith runtime limits (some journal.file) now .replaced =
      .ok reopened) :
    Recalls runtime limits messageId since now none reopened := by
  obtain ⟨found, disk, isFound, tracks, isIndex, base, isBase, covers⟩ := recalls.tracks.restart
  rw [isReopened, Except.ok.injEq] at isFound
  subst isFound
  have onBase : Index.Remembers limits now base messageId since := by
    rcases isBase with same | ⟨entry, isPending, applied⟩
    · rw [same]
      exact recalls.remembers
    · rw [applied]
      exact recalls.remembers.apply (recalls.tracks.anchored entry isPending)
        (recalls.stamped entry isPending)
  refine ⟨recalls.retains, tracks, ?_, nofun⟩
  rw [isIndex]
  exact (onBase.of_covers covers).retain recalls.retains

/-- A message that is answered `New` was unknown, and is remembered from then on. -/
theorem of_new [DecidableEq Addr] {io : Io} {payload peer : String} {addr : Addr} {lease : Nat}
    (retains : 0 < limits.retentionMs)
    (tracks : Tracks runtime limits io.compactedAt pending journal)
    (isNew : (journal.enqueueOutbound runtime io messageId payload peer addr lease).2 =
      .ok (.ok .new)) :
    journal.index.outbound.find? messageId = none ∧
      ∀ since, Recalls runtime limits messageId since io.compactedAt none
        (journal.enqueueOutbound runtime io messageId payload peer addr lease).1 := by
  have queued := enqueueOutbound_queuedFor tracks isNew (by rintro ⟨⟩)
  have free : journal.index.outbound.find? messageId = none := by
    cases found : journal.index.outbound.find? messageId with
    | none => rfl
    | some record =>
        simp only [Journal.enqueueOutbound, found] at isNew
        by_cases conflict : record.payloadHash ≠ runtime.payloadHashHex payload ∨
            record.peerEndpointId ≠ peer
        · rw [if_pos conflict] at isNew
          cases isNew
        · rw [if_neg conflict] at isNew
          cases isState : record.state with
          | refused | expired | settled => simp [isState] at isNew
          | queued =>
              simp only [isState] at isNew
              split_ifs at isNew
              · cases isNew
              · cases isResult : ((journal.modifyOutbound messageId
                    (.resent payload lease)).appendAddress runtime io messageId payload peer addr).2 <;>
                  simp [isResult, Except.map] at isNew
  refine ⟨free, fun since =>
    ⟨retains, ?_, queued.remembers, by intros; contradiction⟩⟩
  simp only [Journal.enqueueOutbound, free] at isNew ⊢
  split_ifs at isNew ⊢ with full large
  · cases isNew
  · cases isNew
  · cases isResult : (journal.appendQueued runtime io messageId payload peer addr).2 with
    | error error =>
        rw [isResult] at isNew
        cases isNew
    | ok =>
        have appended : Tracks runtime limits io.compactedAt none
            (journal.appendQueued runtime io messageId payload peer addr).1 := by
          have appends : Appends runtime io { journal with nextSeq := journal.nextSeq + 1 }
              (.enqueueOutbound messageId payload peer addr lease) _ :=
            .queued messageId payload peer addr lease journal.nextSeq free
              (Nat.lt_of_not_le full) (Nat.le_of_not_lt large) rfl
          obtain ⟨kept, held, unwritten | ⟨isNone, -⟩⟩ :=
            tracks.numbered.append appends.anchored appends.readable
          · exact absurd isResult unwritten.2.1
          · rw [isNone] at held
            exact held
        refine modifyOutbound_induct ?_ (fun record _ => .bookkeeping record _ _) appended
        intro journal named old changed oldFound memoryOnly held
        exact held.touch oldFound memoryOnly

end Recalls

end

end Triangle.PeerEngine
