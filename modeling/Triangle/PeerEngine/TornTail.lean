import Triangle.PeerEngine.Replay
import Triangle.PeerEngine.PlainRuntime

/-!
# A torn tail of the journal file

`read_entries_recovering_tail` with the file it leaves. An append that was cut
off at any byte costs nothing but its own record; a bad record anywhere else
stops the engine and is left for its owner to look at.
-/

namespace Triangle.PeerEngine

open Triangle.Std

section

variable {Addr : Type}

/-- `read_entries_recovering_tail`: what it delivers, and the file it leaves. -/
def readEntriesRecoveringTail (runtime : JournalRuntime Addr) (file : List UInt8) :
    Except JournalError (List (JournalEntry Addr)) × List UInt8 :=
  match RecordFile.readRecovering runtime.codec.decode file with
  | .error offset => (.error (.corrupt offset), file)
  | .ok found =>
      (.ok found.entries, match found.truncateAt with
        | none => file
        | some offset => file.take offset)

variable {runtime : JournalRuntime Addr} {limits : JournalLimits}

variable (limits) in
/-- An open that reads its records succeeds when its own rewrite does. -/
theorem openWith_reads {file left : List UInt8} {entries : List (JournalEntry Addr)}
    (reads : readEntriesRecoveringTail runtime file = (.ok entries, left)) (now : Nat) :
    ∃ opened, Journal.openWith runtime limits (some file) now .replaced = .ok opened ∧
      opened.index = (Index.replay runtime entries).retain limits now := by
  unfold readEntriesRecoveringTail at reads
  cases isFound : RecordFile.readRecovering runtime.codec.decode file with
  | error offset =>
      rw [isFound] at reads
      cases reads
  | ok found =>
      rw [isFound, Prod.mk.injEq, Except.ok.injEq] at reads
      obtain ⟨rfl, -⟩ := reads
      refine ⟨((Journal.replayed runtime limits file found).compact runtime now .replaced).1, ?_, ?_⟩
      · simp only [Journal.openWith, isFound]
        rw [compact_replaced rfl]
        rfl
      · rw [compact_index rfl]
        rfl

variable (entries : List (JournalEntry Addr))

/-- Whole records are read, and the file is left alone. -/
theorem reads_fileOf :
    readEntriesRecoveringTail runtime (RecordFile.fileOf runtime.codec entries) =
      (.ok entries, RecordFile.fileOf runtime.codec entries) := by
  rw [readEntriesRecoveringTail, RecordFile.readRecovering_fileOf]

/-- A torn last record is truncated. -/
theorem reads_torn {entry : JournalEntry Addr} {torn : List UInt8}
    (isPrefix : torn <+: RecordFile.line runtime.codec entry)
    (isTorn : torn ≠ RecordFile.line runtime.codec entry) :
    readEntriesRecoveringTail runtime (RecordFile.fileOf runtime.codec entries ++ torn) =
      (.ok entries, RecordFile.fileOf runtime.codec entries) := by
  have isTaken := List.prefix_iff_eq_take.mp isPrefix
  obtain ⟨found, isFound, ⟨isEntries, left⟩ | ⟨-, -, whole⟩⟩ :=
    @RecordFile.readRecovering_torn _ runtime.codec entries entry torn.length
  · rw [← isTaken] at isFound left
    rw [readEntriesRecoveringTail, isFound]
    dsimp only
    rcases left with truncated | ⟨kept, isEmpty⟩
    · rw [isEntries, truncated]
      dsimp only
      rw [List.take_left]
    · rw [isEntries, kept, isEmpty, List.append_nil]
  · exact absurd (isTaken.trans whole) isTorn

/-- What a cut-off append left is read as the records before it, or as those and
its own record, when that was written whole. -/
theorem reads_cut {entry : JournalEntry Addr} {cut : List UInt8}
    (isPrefix : cut <+: RecordFile.line runtime.codec entry) :
    ∃ kept left, readEntriesRecoveringTail runtime
        (RecordFile.fileOf runtime.codec entries ++ cut) = (.ok kept, left) ∧
      (kept = entries ∨ kept = entries ++ [entry]) := by
  by_cases isWhole : cut = RecordFile.line runtime.codec entry
  · have appended : RecordFile.fileOf runtime.codec entries ++ cut =
        RecordFile.fileOf runtime.codec (entries ++ [entry]) := by
      rw [isWhole, RecordFile.fileOf_append]
      simp [RecordFile.fileOf]
    exact ⟨_, _, by rw [appended, reads_fileOf], .inr rfl⟩
  · exact ⟨_, _, reads_torn entries isPrefix isWhole, .inl rfl⟩

/-- A record that is not blank and does not parse is fatal when another record
follows it, and the file stays as it is. -/
theorem reads_corrupt {front body behind : List UInt8}
    (lineStart : front = [] ∨ front.getLast? = some 10) (oneLine : 10 ∉ body)
    (notBlank : body.all isAsciiWhitespace = false)
    (unreadable : runtime.codec.decode body = none)
    (followed : behind.all isAsciiWhitespace = false) :
    ∃ offset, readEntriesRecoveringTail runtime (front ++ (body ++ 10 :: behind)) =
      (.error (.corrupt offset), front ++ (body ++ 10 :: behind)) := by
  have solid : ∃ line ∈ RecordFile.splitLines [] behind,
      line.1.all isAsciiWhitespace = false := by
    by_contra allBlank
    have blank := (@RecordFile.blank_of_splitLines [] behind
      fun line member => by
        by_contra isSolid
        exact allBlank ⟨line, member, by simpa using isSolid⟩).2
    rw [List.all_eq_true.mpr blank] at followed
    cases followed
  have isSplit : ∃ before, RecordFile.splitLines [] (front ++ (body ++ 10 :: behind)) =
      before ++ (body, true) :: RecordFile.splitLines [] behind := by
    have behindBody : RecordFile.splitLines [] (body ++ 10 :: behind) =
        (body, true) :: RecordFile.splitLines [] behind :=
      RecordFile.splitLines_line oneLine
    rcases lineStart with rfl | isLast
    · exact ⟨[], behindBody⟩
    · obtain ⟨lines, rfl⟩ := List.getLast?_eq_some_iff.mp isLast
      refine ⟨RecordFile.splitLines [] (lines ++ [10]), ?_⟩
      rw [List.append_assoc, List.singleton_append, RecordFile.splitLines_append, behindBody]
  obtain ⟨before, isSplit⟩ := isSplit
  obtain ⟨bad, isError⟩ :=
    RecordFile.readLines_corrupt notBlank unreadable solid before 0 none
  refine ⟨bad, ?_⟩
  rw [readEntriesRecoveringTail, RecordFile.readRecovering, isSplit, isError]

/-- A torn last record is truncated and nothing else is lost; a bad record that
is not the last one is an error that leaves the file as it is; so a journal whose
append was cut off at any byte opens, with every record before it. -/
theorem tornTail_recovered (runtime : JournalRuntime Addr) (limits : JournalLimits)
    (entries : List (JournalEntry Addr)) :
    (∀ entry torn, torn <+: RecordFile.line runtime.codec entry →
      torn ≠ RecordFile.line runtime.codec entry →
      readEntriesRecoveringTail runtime (RecordFile.fileOf runtime.codec entries ++ torn) =
        (.ok entries, RecordFile.fileOf runtime.codec entries)) ∧
    (∀ front body behind : List UInt8, (front = [] ∨ front.getLast? = some 10) → 10 ∉ body →
      body.all isAsciiWhitespace = false → runtime.codec.decode body = none →
      behind.all isAsciiWhitespace = false →
      ∃ offset, readEntriesRecoveringTail runtime (front ++ (body ++ 10 :: behind)) =
        (.error (.corrupt offset), front ++ (body ++ 10 :: behind))) ∧
    (∀ entry cut now, cut <+: RecordFile.line runtime.codec entry →
      ∃ opened kept, Journal.openWith runtime limits
          (some (RecordFile.fileOf runtime.codec entries ++ cut)) now .replaced = .ok opened ∧
        (kept = entries ∨ kept = entries ++ [entry]) ∧
        opened.index = (Index.replay runtime kept).retain limits now) := by
  refine ⟨fun entry torn => reads_torn entries, fun front body behind => reads_corrupt, ?_⟩
  intro entry cut now isPrefix
  obtain ⟨kept, left, reads, isKept⟩ := reads_cut entries isPrefix
  obtain ⟨opened, isOpened, isIndex⟩ := openWith_reads limits reads now
  exact ⟨opened, kept, isOpened, isKept, isIndex⟩

end

/-- `plainRuntime` with a parser that takes what the writer writes and nothing
else. -/
def strictRuntime : JournalRuntime String :=
  { plainRuntime with
    codec :=
      { plainCodec with
        decode := fun bytes =>
          (plainCodec.decode bytes).filter fun entry => plainCodec.encode entry = bytes
        decode_encode := fun entry => by
          rw [plainCodec.decode_encode, Option.filter_some, if_pos (decide_eq_true rfl)] } }

/-- A record without its newline is truncated, and a line `x` before a record is
fatal. -/
theorem tornTail_recovered_strict :
    let codec := strictRuntime.codec
    let first : JournalEntry String := checkpointEntry 1 0
    let second : JournalEntry String := checkpointEntry 2 0
    let corrupt := 120 :: 10 :: RecordFile.line codec first
    readEntriesRecoveringTail strictRuntime
        (RecordFile.fileOf codec [first] ++ codec.encode second) =
      (.ok [first], RecordFile.fileOf codec [first]) ∧
    ∃ offset, readEntriesRecoveringTail strictRuntime corrupt =
      (.error (.corrupt offset), corrupt) := by
  intro codec first second corrupt
  have recovered := tornTail_recovered strictRuntime .default [first]
  refine ⟨recovered.1 second (codec.encode second) ⟨[10], rfl⟩ ?_, ?_⟩
  · simp [RecordFile.line, codec]
  · refine recovered.2.1 [] [120] (RecordFile.line codec first) (.inl rfl) (by decide) rfl rfl ?_
    rw [RecordFile.line, List.all_append, RecordFile.encode_notBlank, Bool.false_and]

end Triangle.PeerEngine
