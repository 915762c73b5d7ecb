import Triangle.PeerEngine.Covers
import Triangle.Semantics.Machine

/-!
# Replaying the journal

Opening the file of a journal gives the index that compacting the journal in
memory gives, and every operation of the journal keeps it so. `Tracks` also
follows the record that a failed append may have left on disk in whole or in
part: until the next open or rewrite it is the journal's pending record.
-/

namespace Triangle.PeerEngine

open Triangle.Std
open Triangle.Semantics (Machine)

section

variable {Addr : Type}

theorem MemoryOnly.messageId {record changed : OutboundRecord Addr}
    (memoryOnly : MemoryOnly record changed) : changed.messageId = record.messageId := by
  rw [memoryOnly.durable]

variable {record changed : OutboundRecord Addr}

theorem MemoryOnly.state (memoryOnly : MemoryOnly record changed) :
    changed.state = record.state := by
  rw [memoryOnly.durable]

/-- A memory-only change of a well-formed record keeps what the file determines. -/
theorem MemoryOnly.durable_eq (memoryOnly : MemoryOnly record changed)
    (wellFormed : record.WellFormed) : changed.durable = record.durable := by
  have samePayload : changed.payload = record.payload := by
    rcases memoryOnly.payload with same | ⟨noPayload, isQueued⟩
    · exact same
    · have hasPayload := (wellFormed.1 isQueued).2
      rw [noPayload] at hasPayload
      cases hasPayload
  rw [memoryOnly.durable]
  simp [OutboundRecord.durable, samePayload]

/-- Being well formed is about the durable part of a record. -/
theorem OutboundRecord.WellFormed.of_durable {first second : OutboundRecord Addr}
    (same : first.durable = second.durable) (wellFormed : second.WellFormed) :
    first.WellFormed := by
  simp only [OutboundRecord.durable, OutboundRecord.mk.injEq] at same
  unfold OutboundRecord.WellFormed at wellFormed ⊢
  simpa [same] using wellFormed

/-- What is read after the record of a message was replaced in memory. -/
theorem Index.find?_setOutbound {index : Index Addr} {messageId : String}
    (found : index.outbound.find? messageId = some record) (memoryOnly : MemoryOnly record changed)
    (other : String) :
    (index.setOutbound changed).outbound.find? other =
      if other = messageId then some changed else index.outbound.find? other := by
  rw [Index.setOutbound, Table.find?_upsert, memoryOnly.messageId, (Table.find?_some found).2]

/-- What a failed append left of its record. -/
def tailOf (runtime : JournalRuntime Addr) (pending : Option (JournalEntry Addr)) (left : Nat) :
    List UInt8 :=
  match pending with
  | none => []
  | some entry => (RecordFile.line runtime.codec entry).take left

/-- The file of a journal replays to an index that covers the one in memory,
but for the pending record. -/
structure Tracks (runtime : JournalRuntime Addr) (limits : JournalLimits) (now : Nat)
    (pending : Option (JournalEntry Addr)) (journal : Journal Addr) : Prop where
  limitsAre : journal.limits = limits
  isOpen : journal.closed = false
  wellFormed : journal.index.WellFormed
  liveExact : journal.index.LiveExact
  damaged : pending.isSome → journal.tailDamaged = true
  anchored : ∀ entry ∈ pending, journal.index.Anchored entry
  readable : ∀ entry ∈ pending, Readable runtime entry
  stored : ∃ entries left,
    journal.file = RecordFile.fileOf runtime.codec entries ++ tailOf runtime pending left ∧
      (∀ entry ∈ entries, Readable runtime entry) ∧
      Index.Covers limits now (Index.replay runtime entries) journal.index

/-- A compaction of an open journal leaves what it retains, however its rewrite
ends. -/
theorem compact_index {runtime : JournalRuntime Addr} {journal : Journal Addr}
    (isOpen : journal.closed = false) (now : Nat) (rewrite : RewriteIo) : (journal.compact runtime now rewrite).1.index =
      journal.index.retain journal.limits now := by
  unfold Journal.compact
  rw [if_neg (by simp [isOpen])]
  dsimp only
  split
  · rfl
  · cases rewrite <;> rfl

namespace Tracks

variable {runtime : JournalRuntime Addr} {limits : JournalLimits} {earlier now : Nat}
  {pending : Option (JournalEntry Addr)} {journal : Journal Addr}

/-- A journal that gave out a record number tracks its file. -/
theorem numbered (tracks : Tracks runtime limits now pending journal) :
    Tracks runtime limits now pending { journal with nextSeq := journal.nextSeq + 1 } :=
  { tracks with }

theorem fresh : Tracks runtime limits now none (Journal.fresh limits) where
  limitsAre := rfl
  isOpen := rfl
  wellFormed := ⟨nofun, nofun⟩
  liveExact := fun _ => rfl
  damaged := nofun
  anchored := nofun
  readable := nofun
  stored := ⟨[], 0, rfl, nofun, .refl _⟩

theorem mono (tracks : Tracks runtime limits earlier pending journal) (notLater : earlier ≤ now) :
    Tracks runtime limits now pending journal := by
  obtain ⟨entries, left, isFile, areReadable, covers⟩ := tracks.stored
  exact { tracks with stored := ⟨entries, left, isFile, areReadable, covers.mono notLater⟩ }

section

variable (tracks : Tracks runtime limits now pending journal)
include tracks

/-- Without a damaged tail there is no pending record. -/
theorem no_pending (intact : journal.tailDamaged = false) : pending = none := by
  cases pending with
  | none => rfl
  | some entry => exact absurd (tracks.damaged rfl) (by simp [intact])

/-- Bookkeeping in memory does not touch what the file determines. -/
theorem touch {messageId : String} {record changed : OutboundRecord Addr}
    (found : journal.index.outbound.find? messageId = some record)
    (memoryOnly : MemoryOnly record changed) :
    Tracks runtime limits now pending
      { journal with index := journal.index.setOutbound changed } := by
  have wasFormed := tracks.wellFormed.outbound messageId record found
  have sameDurable := memoryOnly.durable_eq wasFormed
  have reads := Index.find?_setOutbound found memoryOnly
  obtain ⟨entries, left, isFile, areReadable, covers⟩ := tracks.stored
  refine { tracks with
    wellFormed := ⟨fun other otherRecord otherFound => ?_, tracks.wellFormed.inbound⟩
    liveExact := tracks.liveExact
    anchored := fun entry isPending => { tracks.anchored entry isPending with
      outboundFree := fun isQueued => ?_
      outbound := fun needs => ?_ }
    stored := ⟨entries, left, isFile, areReadable, ⟨fun other => ?_, covers.inbound⟩⟩ }
  · rw [reads] at otherFound
    split at otherFound
    · cases otherFound
      exact .of_durable sameDurable wasFormed
    · exact tracks.wellFormed.outbound other otherRecord otherFound
  · have free := (tracks.anchored entry isPending).outboundFree isQueued
    dsimp only
    rw [reads]
    split
    next isMessage =>
      rw [isMessage, found] at free
      cases free
    · exact free
  · obtain ⟨kept, isKept, isQueued⟩ := (tracks.anchored entry isPending).outbound needs
    dsimp only
    rw [reads]
    split
    next isMessage =>
      rw [isMessage, found, Option.some.injEq] at isKept
      exact ⟨changed, rfl, by rw [memoryOnly.state, isKept, isQueued]⟩
    · exact ⟨kept, isKept, isQueued⟩
  · dsimp only
    rw [reads]
    split
    next isMessage =>
      subst isMessage
      rcases covers.outbound other with same | ⟨gone, _⟩
      · rw [same, found, Option.map_some, Option.map_some, sameDurable]
        exact .inl rfl
      · rw [found] at gone
        cases gone
    · exact covers.outbound other

/-- Dropping old tombstones from memory leaves the file covering it. -/
theorem retain :
    Tracks runtime limits now pending
      { journal with index := journal.index.retain limits now } := by
  obtain ⟨entries, left, isFile, areReadable, covers⟩ := tracks.stored
  exact { tracks with
    wellFormed := tracks.wellFormed.retain
    liveExact := Index.retain_liveExact tracks.liveExact
    anchored := fun entry isPending => (tracks.anchored entry isPending).retain
    stored := ⟨entries, left, isFile, areReadable, covers.retain⟩ }

/-- A file written from memory covers it, and has no pending record. -/
theorem rewrite :
    Tracks runtime limits now none
      { journal with
        file := RecordFile.fileOf runtime.codec
          (journal.index.snapshot runtime journal.nextSeq now) } :=
  { tracks with
    damaged := nofun
    anchored := nofun
    readable := nofun
    stored := ⟨_, 0, (List.append_nil _).symm, Index.snapshot_readable tracks.wellFormed _ _,
      Index.covers_snapshot tracks.wellFormed _ _⟩ }

/-- A compaction keeps the file covering memory, however its rewrite ends; a
rewrite also drops the pending record. -/
theorem compact (rewrite : RewriteIo) :
    ∃ kept, (kept = none ∨ kept = pending) ∧
      Tracks runtime limits now kept (journal.compact runtime now rewrite).1 := by
  have retained := tracks.retain
  have rewritten := retained.rewrite
  unfold Journal.compact
  rw [if_neg (by simp [tracks.isOpen])]
  dsimp only
  rw [tracks.limitsAre]
  split
  · exact ⟨pending, .inr rfl, { retained with limitsAre := rfl }⟩
  · cases rewrite with
    | failed => exact ⟨pending, .inr rfl, { retained with limitsAre := rfl }⟩
    | unsynced | replaced => exact ⟨none, .inl rfl, { rewritten with limitsAre := rfl }⟩

end

variable {entry : JournalEntry Addr}

section

variable (tracks : Tracks runtime limits now none journal) (anchored : journal.index.Anchored entry)
  (readable : Readable runtime entry)
include tracks anchored readable

/-- A write that is cut off leaves its record pending. -/
theorem damage (left : Nat) :
    Tracks runtime limits now (some entry)
      { journal with
        file := journal.file ++ (RecordFile.line runtime.codec entry).take left
        tailDamaged := true } := by
  obtain ⟨entries, _, isFile, areReadable, covers⟩ := tracks.stored
  rw [tailOf, List.append_nil] at isFile
  refine { tracks with
    damaged := fun _ => rfl
    anchored := fun _ isEntry => ?_
    readable := fun _ isEntry => ?_
    stored := ⟨entries, left, by rw [isFile]; rfl, areReadable, covers⟩ }
  · cases isEntry
    exact anchored
  · cases isEntry
    exact readable

/-- A written record is in the file and applied in memory. -/
theorem write :
    Tracks runtime limits now none
      { journal with
        file := journal.file ++ RecordFile.line runtime.codec entry
        lines := journal.lines + 1
        linesSinceCompact := journal.linesSinceCompact + 1
        index := journal.index.apply runtime entry } := by
  obtain ⟨entries, _, isFile, areReadable, covers⟩ := tracks.stored
  rw [tailOf, List.append_nil] at isFile
  refine { tracks with
    wellFormed := tracks.wellFormed.apply readable
    liveExact := Index.apply_liveExact tracks.liveExact
    anchored := nofun
    stored := ⟨entries ++ [entry], 0, ?_, ?_, ?_⟩ }
  · dsimp only
    rw [isFile, RecordFile.fileOf_append, tailOf, List.append_nil]
    simp [RecordFile.fileOf]
  · intro other member
    rw [List.mem_append, List.mem_singleton] at member
    rcases member with before | rfl
    · exact areReadable other before
    · exact readable
  · rw [Index.replay, List.foldl_append]
    exact covers.apply anchored

end

/-- An append keeps the file covering memory, however its write ends. Either it
fails and leaves the index, and perhaps the record pending, or it succeeds and
applies the record, perhaps with a compaction behind it. -/
theorem append {io : Io} (tracks : Tracks runtime limits io.compactedAt pending journal)
    (anchored : journal.index.Anchored entry) (readable : Readable runtime entry) :
    ∃ kept, Tracks runtime limits io.compactedAt kept (journal.appendDurable runtime entry io).1 ∧
      ((kept = pending ∨ kept = some entry) ∧
          (journal.appendDurable runtime entry io).2 ≠ .ok () ∧
          (journal.appendDurable runtime entry io).1.index = journal.index ∨
        kept = none ∧ (journal.appendDurable runtime entry io).2 = .ok () ∧
          ((journal.appendDurable runtime entry io).1.index = journal.index.apply runtime entry ∨
            (journal.appendDurable runtime entry io).1.index =
              (journal.index.apply runtime entry).retain limits io.compactedAt)) := by
  unfold Journal.appendDurable
  rw [if_neg (by simp [tracks.isOpen])]
  by_cases isDamaged : journal.tailDamaged = true
  · rw [if_pos isDamaged]
    exact ⟨pending, tracks, .inl ⟨.inl rfl, nofun, rfl⟩⟩
  · rw [if_neg isDamaged]
    rw [Bool.not_eq_true] at isDamaged
    obtain rfl := tracks.no_pending isDamaged
    cases io.append with
    | rolledBack => exact ⟨none, tracks, .inl ⟨.inl rfl, nofun, rfl⟩⟩
    | damaged left =>
        exact ⟨some entry, tracks.damage anchored readable left, .inl ⟨.inr rfl, nofun, rfl⟩⟩
    | written =>
        have applied := tracks.write anchored readable
        dsimp only
        split
        · obtain ⟨kept, isKept, compacted⟩ := applied.compact io.rewrite
          obtain rfl : kept = none := isKept.elim id id
          refine ⟨none, compacted, .inr ⟨rfl, rfl, .inr ?_⟩⟩
          rw [compact_index applied.isOpen, applied.limitsAre]
        · exact ⟨none, applied, .inr ⟨rfl, rfl, .inl rfl⟩⟩

end Tracks

section

variable {runtime : JournalRuntime Addr} {limits : JournalLimits} {now : Nat}
  {pending : Option (JournalEntry Addr)}

theorem compact_tailDamaged (journal : Journal Addr) (now : Nat) (rewrite : RewriteIo) :
    (journal.compact runtime now rewrite).1.tailDamaged = journal.tailDamaged := by
  unfold Journal.compact
  split
  · rfl
  · dsimp only
    split
    · rfl
    · cases rewrite <;> rfl

variable {journal : Journal Addr}

theorem compact_replaced (isOpen : journal.closed = false) (now : Nat) :
    (journal.compact runtime now .replaced).2 = .ok () := by
  unfold Journal.compact
  rw [if_neg (by simp [isOpen])]
  dsimp only
  split <;> rfl

/-- A file with the tail of a failed append reads back as its whole records, or
as those and the pending one; an open leaves just these in the file. -/
theorem readRecovering_tailOf (runtime : JournalRuntime Addr) (limits : JournalLimits)
    (entries : List (JournalEntry Addr)) (pending : Option (JournalEntry Addr)) (left : Nat) :
    ∃ found, RecordFile.readRecovering runtime.codec.decode
        (RecordFile.fileOf runtime.codec entries ++ tailOf runtime pending left) = .ok found ∧
      (found.entries = entries ∨ ∃ entry ∈ pending, found.entries = entries ++ [entry]) ∧
      (Journal.replayed runtime limits
        (RecordFile.fileOf runtime.codec entries ++ tailOf runtime pending left) found).file =
          RecordFile.fileOf runtime.codec found.entries := by
  cases pending with
  | none =>
      rw [tailOf, List.append_nil]
      exact ⟨_, RecordFile.readRecovering_fileOf entries, .inl rfl, rfl⟩
  | some entry =>
      obtain ⟨found, isFound, cut | whole⟩ :=
        @RecordFile.readRecovering_torn _ runtime.codec entries entry left
      · obtain ⟨isEntries, truncated | ⟨kept, isEmpty⟩⟩ := cut
        · refine ⟨found, isFound, .inl isEntries, ?_⟩
          simp only [Journal.replayed, truncated, isEntries]
          exact List.take_left
        · refine ⟨found, isFound, .inl isEntries, ?_⟩
          simp only [Journal.replayed, kept, isEntries, tailOf, isEmpty, List.append_nil]
      · obtain ⟨isEntries, kept, isWhole⟩ := whole
        refine ⟨found, isFound, .inr ⟨entry, rfl, isEntries⟩, ?_⟩
        simp only [Journal.replayed, kept, isEntries, tailOf, isWhole, RecordFile.fileOf_append]
        simp [RecordFile.fileOf]

/-- What an open reads from the file covers the index in memory, after the
pending record if that was whole; nothing is pending any more. -/
theorem Tracks.reads (tracks : Tracks runtime limits now pending journal) :
    ∃ found, RecordFile.readRecovering runtime.codec.decode journal.file = .ok found ∧
      (Journal.replayed runtime limits journal.file found).file =
        RecordFile.fileOf runtime.codec found.entries ∧
      Tracks runtime limits now none (Journal.replayed runtime limits journal.file found) ∧
      ∃ base, (base = journal.index ∨ ∃ entry ∈ pending, base = journal.index.apply runtime entry) ∧
        Index.Covers limits now (Index.replay runtime found.entries) base := by
  obtain ⟨entries, left, isFile, areReadable, covers⟩ := tracks.stored
  obtain ⟨found, isFound, isEntries, isKept⟩ :=
    readRecovering_tailOf runtime limits entries pending left
  rw [← isFile] at isFound isKept
  have foundReadable : ∀ entry ∈ found.entries, Readable runtime entry := by
    intro entry member
    rcases isEntries with same | ⟨last, isPending, appended⟩
    · exact areReadable entry (same ▸ member)
    · rw [appended, List.mem_append, List.mem_singleton] at member
      rcases member with before | rfl
      · exact areReadable entry before
      · exact tracks.readable entry isPending
  refine ⟨found, isFound, isKept, ?_, ?_⟩
  · exact {
      limitsAre := rfl
      isOpen := rfl
      wellFormed := Index.replay_wellFormed foundReadable
      liveExact := Index.replay_liveExact found.entries
      damaged := nofun
      anchored := nofun
      readable := nofun
      stored := ⟨found.entries, 0, by rw [isKept, tailOf, List.append_nil], foundReadable,
        .refl _⟩ }
  · rcases isEntries with same | ⟨last, isPending, appended⟩
    · exact ⟨journal.index, .inl rfl, same ▸ covers⟩
    · refine ⟨journal.index.apply runtime last, .inr ⟨last, isPending, rfl⟩, ?_⟩
      rw [appended, Index.replay, List.foldl_append]
      exact covers.apply (tracks.anchored last isPending)

/-- An open succeeds when its own rewrite does. What it opens is what is
retained of the index in memory, after the pending record if that was whole. -/
theorem Tracks.reopen (tracks : Tracks runtime limits now pending journal) (rewrite : RewriteIo) :
    ∃ opened : Journal Addr,
      Journal.openWith runtime limits (some journal.file) now rewrite =
        ((opened.compact runtime now rewrite).2.map fun _ =>
          (opened.compact runtime now rewrite).1) ∧
      Tracks runtime limits now none opened ∧ opened.tailDamaged = false ∧
      ∃ base, (base = journal.index ∨ ∃ entry ∈ pending, base = journal.index.apply runtime entry) ∧
        Index.Covers limits now opened.index base := by
  obtain ⟨found, isFound, -, openedTracks, isBase⟩ := tracks.reads
  exact ⟨_, by simp only [Journal.openWith, isFound], openedTracks, rfl, isBase⟩

end

/-- One call of the journal: how far the clock moves before each reading, and
how its writes end. A failed append is rolled back. -/
structure Call (Addr : Type) where
  operation : Operation Addr
  waited : Nat
  toStamp : Nat
  toCompact : Nat
  appendFails : Bool
  rewrite : RewriteIo

/-- A journal and the time of its last clock reading. -/
structure Running (Addr : Type) where
  journal : Journal Addr
  clock : Nat

/-- What the system answers during the call. -/
def Call.io (call : Call Addr) (clock : Nat) : Io where
  now := clock + call.waited
  stampedAt := clock + call.waited + call.toStamp
  compactedAt := clock + call.waited + call.toStamp + call.toCompact
  append := if call.appendFails then .rolledBack else .written
  rewrite := call.rewrite

section

variable [DecidableEq Addr]

/-- A journal in use, from an empty state directory. -/
def journalMachine (runtime : JournalRuntime Addr) (limits : JournalLimits) (start : Nat) :
    Machine (Running Addr) (Call Addr) where
  initial := ⟨Journal.fresh limits, start⟩
  step := fun running call =>
    let io := call.io running.clock
    ⟨call.operation.perform runtime io running.journal, io.compactedAt⟩

variable {runtime : JournalRuntime Addr} {limits : JournalLimits}

variable {journal : Journal Addr}

omit [DecidableEq Addr] in
/-- Appends that are written or rolled back leave the tail whole. -/
theorem appendDurable_intact {io : Io} {entry : JournalEntry Addr}
    (recovered : io.append = .written ∨ io.append = .rolledBack)
    (intact : journal.tailDamaged = false) :
    (journal.appendDurable runtime entry io).1.tailDamaged = false := by
  unfold Journal.appendDurable
  by_cases isClosed : journal.closed = true
  · rw [if_pos isClosed]
    exact intact
  · rw [if_neg isClosed, if_neg (by simp [intact])]
    rcases recovered with written | rolledBack
    · rw [written]
      dsimp only
      split
      · rw [compact_tailDamaged]
        exact intact
      · exact intact
    · rw [rolledBack]
      exact intact

/-- The journal has no damaged tail and is covered at the time of its last clock
reading. -/
def Running.Sound (runtime : JournalRuntime Addr) (limits : JournalLimits)
    (running : Running Addr) : Prop :=
  running.journal.tailDamaged = false ∧
    ∃ pending, Tracks runtime limits running.clock pending running.journal

/-- Every operation keeps the file covering memory. -/
theorem Operation.perform_tracks {operation : Operation Addr} {io : Io}
    (tracks : ∃ pending, Tracks runtime limits io.compactedAt pending journal) :
    ∃ pending, Tracks runtime limits io.compactedAt pending
      (operation.perform runtime io journal) := by
  apply Operation.perform_induct fun journal =>
    ∃ pending, Tracks runtime limits io.compactedAt pending journal
  · rintro journal messageId record changed found memoryOnly ⟨pending, held⟩
    exact ⟨pending, held.touch found memoryOnly⟩
  · rintro journal ⟨pending, held⟩
    exact ⟨pending, { held with }⟩
  · rintro journal entry appends ⟨pending, held⟩
    obtain ⟨kept, appended, -⟩ := held.append appends.anchored appends.readable
    exact ⟨kept, appended⟩
  · rintro journal ⟨pending, held⟩
    obtain ⟨kept, -, compacted⟩ := held.compact io.rewrite
    exact ⟨kept, compacted⟩
  · exact tracks

/-- An operation whose appends are written or rolled back leaves the tail whole. -/
theorem Operation.perform_intact {operation : Operation Addr} {io : Io}
    (recovered : io.append = .written ∨ io.append = .rolledBack)
    (intact : journal.tailDamaged = false) :
    (operation.perform runtime io journal).tailDamaged = false := by
  apply Operation.perform_induct fun journal => journal.tailDamaged = false
  · intro journal _ _ _ _ _ held
    exact held
  · intro journal held
    exact held
  · intro journal entry _ held
    exact appendDurable_intact recovered held
  · intro journal held
    rw [compact_tailDamaged]
    exact held
  · exact intact

theorem journalStep_sound (start : Nat) (running : Running Addr) (call : Call Addr)
    (sound : running.Sound runtime limits) :
    ((journalMachine runtime limits start).step running call).Sound runtime limits := by
  obtain ⟨intact, pending, tracks⟩ := sound
  have notLater : running.clock ≤ (call.io running.clock).compactedAt := by
    simp only [Call.io]
    omega
  have recovered : (call.io running.clock).append = .written ∨
      (call.io running.clock).append = .rolledBack := by
    cases isFailed : call.appendFails with
    | false => exact .inl (by simp [Call.io, isFailed])
    | true => exact .inr (by simp [Call.io, isFailed])
  exact ⟨Operation.perform_intact recovered intact,
    Operation.perform_tracks ⟨pending, tracks.mono notLater⟩⟩

/-- Opening the file of a journal at any later time gives the index that
compacting the journal in memory at that time gives. -/
theorem reopen_same_as_compact (runtime : JournalRuntime Addr) (limits : JournalLimits)
    (start : Nat) (calls : List (Call Addr)) (later : Nat) (rewrite : RewriteIo) :
    let running := (journalMachine runtime limits start).run calls
    let time := running.clock + later
    ∃ reopened,
      Journal.openWith runtime limits (some running.journal.file) time .replaced = .ok reopened ∧
      Index.Same reopened.index (running.journal.compact runtime time rewrite).1.index := by
  intro running time
  have initially : (journalMachine runtime limits start).initial.Sound runtime limits :=
    ⟨rfl, none, Tracks.fresh⟩
  have sound : running.Sound runtime limits :=
    Machine.invariant_runFrom (journalStep_sound start) initially calls
  obtain ⟨intact, pending, tracked⟩ := sound
  obtain rfl := tracked.no_pending intact
  have tracks : Tracks runtime limits time none running.journal :=
    tracked.mono (Nat.le_add_right _ _)
  obtain ⟨opened, isOpened, openedTracks, -, base, isBase, covers⟩ := tracks.reopen .replaced
  have sameBase : base = running.journal.index := by
    rcases isBase with same | ⟨entry, isPending, -⟩
    · exact same
    · cases isPending
  subst sameBase
  refine ⟨(opened.compact runtime time .replaced).1, ?_, ?_⟩
  · rw [isOpened, compact_replaced openedTracks.isOpen]
    rfl
  · rw [compact_index openedTracks.isOpen, compact_index tracks.isOpen, openedTracks.limitsAre,
      tracks.limitsAre]
    exact ⟨covers.retain_outbound, covers.retain_inbound,
      Index.liveInbound_congr (Index.retain_liveExact openedTracks.liveExact)
        (Index.retain_liveExact tracks.liveExact) covers.retain_inbound⟩

end

end

end Triangle.PeerEngine
