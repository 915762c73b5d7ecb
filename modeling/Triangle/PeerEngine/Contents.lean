import Triangle.PeerEngine.Replay

/-!
# Properties of what a journal knows

The contents of a journal are its index, its next `seq`, its file and the record
that a failed append may have left there. An operation changes them in six small
ways and an open in one; `Serves` and `Keeps` ask a property to be kept by each,
and the rules at the end say that it is then kept by every operation and every
open, in the midst of failing writes.
-/

namespace Triangle.PeerEngine

open Triangle.Std

section

variable {Addr : Type}

/-- What a journal knows, in memory and on disk. -/
structure Contents (Addr : Type) where
  index : Index Addr
  nextSeq : Nat
  file : List UInt8
  pending : Option (JournalEntry Addr)

/-- The contents of a journal with its pending record. -/
def Journal.contents (journal : Journal Addr) (pending : Option (JournalEntry Addr)) :
    Contents Addr where
  index := journal.index
  nextSeq := journal.nextSeq
  file := journal.file
  pending := pending

/-- The next `seq` after some records. -/
def nextSeqOf (entries : List (JournalEntry Addr)) : Nat :=
  entries.foldl (fun nextSeq entry => max nextSeq (entry.seq + 1)) 1

variable (runtime : JournalRuntime Addr) (limits : JournalLimits)

/-- A property of contents that compactions and opens at time `now` keep. -/
structure Keeps (now : Nat) (holds : Contents Addr → Prop) : Prop where
  drop : ∀ (journal : Journal Addr) pending, Tracks runtime limits now pending journal →
    holds (journal.contents pending) →
    holds { journal.contents pending with index := journal.index.retain limits now }
  rewrite : ∀ (journal : Journal Addr) pending, Tracks runtime limits now pending journal →
    holds (journal.contents pending) →
    holds
      { journal.contents none with
        file := RecordFile.fileOf runtime.codec
          (journal.index.snapshot runtime journal.nextSeq now) }
  reopen : ∀ (journal : Journal Addr) pending found base,
    Tracks runtime limits now pending journal → holds (journal.contents pending) →
    RecordFile.readRecovering runtime.codec.decode journal.file = .ok found →
    (base = journal.index ∨ ∃ entry ∈ pending, base = journal.index.apply runtime entry) →
    Index.Covers limits now (Index.replay runtime found.entries) base →
    holds
      { index := Index.replay runtime found.entries
        nextSeq := nextSeqOf found.entries
        file := RecordFile.fileOf runtime.codec found.entries
        pending := none }

/-- A property of contents that an operation keeps. -/
structure Serves (io : Io) (operation : Operation Addr) (holds : Contents Addr → Prop) : Prop
    extends Keeps runtime limits io.compactedAt holds where
  touch : ∀ (journal : Journal Addr) pending messageId record changed,
    Tracks runtime limits io.compactedAt pending journal →
    journal.index.outbound.find? messageId = some record → MemoryOnly record changed →
    holds (journal.contents pending) →
    holds { journal.contents pending with index := journal.index.setOutbound changed }
  number : ∀ (journal : Journal Addr) pending, holds (journal.contents pending) →
    holds { journal.contents pending with nextSeq := journal.nextSeq + 1 }
  damage : ∀ (journal : Journal Addr) entry left,
    Tracks runtime limits io.compactedAt none journal →
    Appends runtime io { journal with nextSeq := journal.nextSeq + 1 } operation entry →
    holds (journal.contents none) →
    holds
      { index := journal.index
        nextSeq := journal.nextSeq + 1
        file := journal.file ++ (RecordFile.line runtime.codec entry).take left
        pending := some entry }
  write : ∀ (journal : Journal Addr) entry, Tracks runtime limits io.compactedAt none journal →
    Appends runtime io { journal with nextSeq := journal.nextSeq + 1 } operation entry →
    holds (journal.contents none) →
    holds
      { index := journal.index.apply runtime entry
        nextSeq := journal.nextSeq + 1
        file := journal.file ++ RecordFile.line runtime.codec entry
        pending := none }

variable {runtime limits} {now : Nat} {io : Io} {operation : Operation Addr}
  {holds : Contents Addr → Prop} {journal : Journal Addr} {pending : Option (JournalEntry Addr)}

/-- What a compaction keeps, however its rewrite ends. -/
theorem Keeps.compact (keeps : Keeps runtime limits now holds)
    (tracks : Tracks runtime limits now pending journal) (held : holds (journal.contents pending))
    (rewrite : RewriteIo) :
    ∃ kept, Tracks runtime limits now kept (journal.compact runtime now rewrite).1 ∧
      holds ((journal.compact runtime now rewrite).1.contents kept) := by
  have retained := keeps.drop journal pending tracks held
  have retainedTracks : Tracks runtime limits now pending
      { journal with index := journal.index.retain limits now } := tracks.retain
  have rewritten := keeps.rewrite _ pending retainedTracks retained
  have rewrittenTracks := retainedTracks.rewrite
  unfold Journal.compact
  rw [if_neg (by simp [tracks.isOpen])]
  dsimp only
  rw [tracks.limitsAre]
  split
  · exact ⟨pending, { retainedTracks with limitsAre := rfl }, retained⟩
  · cases rewrite with
    | failed => exact ⟨pending, { retainedTracks with limitsAre := rfl }, retained⟩
    | unsynced | replaced => exact ⟨none, { rewrittenTracks with limitsAre := rfl }, rewritten⟩

section

variable (serves : Serves runtime limits io operation holds)
include serves

/-- What an append keeps after its record was numbered, however its write ends. -/
theorem Serves.append {entry : JournalEntry Addr}
    (appends : Appends runtime io { journal with nextSeq := journal.nextSeq + 1 } operation entry)
    (tracks : Tracks runtime limits io.compactedAt pending journal)
    (held : holds (journal.contents pending)) :
    ∃ kept, Tracks runtime limits io.compactedAt kept
        (({ journal with nextSeq := journal.nextSeq + 1 }).appendDurable runtime entry io).1 ∧
      holds ((({ journal with nextSeq := journal.nextSeq + 1 }).appendDurable runtime entry
        io).1.contents kept) := by
  have numbered := tracks.numbered
  have unwritten := serves.number journal pending held
  unfold Journal.appendDurable
  rw [if_neg (by simp [tracks.isOpen])]
  by_cases isDamaged : journal.tailDamaged = true
  · rw [if_pos isDamaged]
    exact ⟨pending, numbered, unwritten⟩
  · rw [if_neg isDamaged]
    rw [Bool.not_eq_true] at isDamaged
    obtain rfl := tracks.no_pending isDamaged
    cases io.append with
    | rolledBack => exact ⟨none, numbered, unwritten⟩
    | damaged left =>
        exact ⟨some entry, numbered.damage appends.anchored appends.readable left,
          serves.damage journal entry left tracks appends held⟩
    | written =>
        have applied := numbered.write appends.anchored appends.readable
        have appliedHeld := serves.write journal entry tracks appends held
        dsimp only
        split
        · exact serves.toKeeps.compact applied appliedHeld io.rewrite
        · exact ⟨none, applied, appliedHeld⟩

/-- What every operation keeps. -/
theorem Serves.perform [DecidableEq Addr]
    (tracks : Tracks runtime limits io.compactedAt pending journal)
    (held : holds (journal.contents pending)) :
    ∃ kept, Tracks runtime limits io.compactedAt kept (operation.perform runtime io journal) ∧
      holds ((operation.perform runtime io journal).contents kept) := by
  let good (journal : Journal Addr) : Prop :=
    ∃ kept, Tracks runtime limits io.compactedAt kept journal ∧ holds (journal.contents kept)
  have touch : ∀ (journal : Journal Addr) messageId record changed,
      journal.index.outbound.find? messageId = some record → MemoryOnly record changed →
      good journal → good { journal with index := journal.index.setOutbound changed } := by
    rintro journal messageId record changed found memoryOnly ⟨kept, keptTracks, keptHeld⟩
    exact ⟨kept, keptTracks.touch found memoryOnly,
      serves.touch journal kept messageId record changed keptTracks found memoryOnly keptHeld⟩
  refine Operation.perform_leads good
    (fun journal => ∃ before : Journal Addr,
      journal = { before with nextSeq := before.nextSeq + 1 } ∧ good before)
    good id touch touch ?_ ?_ ?_ ⟨pending, tracks, held⟩
  · exact fun journal isGood => ⟨journal, rfl, isGood⟩
  · rintro _ entry appends ⟨before, rfl, kept, keptTracks, keptHeld⟩
    exact serves.append appends keptTracks keptHeld
  · rintro journal ⟨kept, keptTracks, keptHeld⟩
    exact serves.toKeeps.compact keptTracks keptHeld io.rewrite

/-- An operation of a closed journal takes numbers and keeps its books in
memory, and nothing else. -/
theorem Serves.perform_closed [DecidableEq Addr] (isClosed : journal.closed = true)
    (tracks : Tracks runtime limits io.compactedAt pending { journal with closed := false })
    (held : holds (journal.contents pending)) :
    (operation.perform runtime io journal).closed = true ∧
      Tracks runtime limits io.compactedAt pending
        { operation.perform runtime io journal with closed := false } ∧
      holds ((operation.perform runtime io journal).contents pending) := by
  apply Operation.perform_induct fun journal => journal.closed = true ∧
    Tracks runtime limits io.compactedAt pending { journal with closed := false } ∧
    holds (journal.contents pending)
  · rintro journal messageId record changed found memoryOnly ⟨stillClosed, keptTracks, keptHeld⟩
    exact ⟨stillClosed, keptTracks.touch found memoryOnly,
      serves.touch { journal with closed := false } pending messageId record changed keptTracks
        found memoryOnly keptHeld⟩
  · rintro journal ⟨stillClosed, keptTracks, keptHeld⟩
    exact ⟨stillClosed, { keptTracks with }, serves.number journal pending keptHeld⟩
  · rintro journal entry _ ⟨stillClosed, keptTracks, keptHeld⟩
    rw [Journal.appendDurable, if_pos stillClosed]
    exact ⟨stillClosed, keptTracks, keptHeld⟩
  · rintro journal ⟨stillClosed, keptTracks, keptHeld⟩
    rw [Journal.compact, if_pos stillClosed]
    exact ⟨stillClosed, keptTracks, keptHeld⟩
  · exact ⟨isClosed, tracks, held⟩

end

/-- What an open of the file keeps, whether or not its compaction succeeds: the
compacted journal has it, and its file is the one left behind. -/
theorem Keeps.openWith (keeps : Keeps runtime limits now holds)
    (tracks : Tracks runtime limits now pending journal) (held : holds (journal.contents pending))
    (rewrite : RewriteIo) :
    ∃ found, RecordFile.readRecovering runtime.codec.decode journal.file = .ok found ∧
      ∃ kept, Tracks runtime limits now kept
          ((Journal.replayed runtime limits journal.file found).compact runtime now rewrite).1 ∧
        holds (((Journal.replayed runtime limits journal.file found).compact runtime now
          rewrite).1.contents kept) := by
  obtain ⟨found, isFound, isFile, opened, base, isBase, covers⟩ := tracks.reads
  refine ⟨found, isFound, keeps.compact opened ?_ rewrite⟩
  have reopened := keeps.reopen journal pending found base tracks held isFound isBase covers
  rw [← isFile] at reopened
  exact reopened

end

end Triangle.PeerEngine
