import Triangle.LocalMessaging.Directory

/-!
# The directory as a book

What can be seen of the directory is a book: what is known of each session, and
the events that were answered. The book has no capacity. A directory of any
capacity refines it (`recordDiscoveryEvent_refines`) because an eviction turns a
row into a tombstone that says the same, and because rows and tombstones of one
session agree, so that they age out together (`Directory.Consistent`).
-/

namespace Triangle.LocalMessaging

open Triangle.Std Triangle.Std.Text

/-- What can be seen of a directory. -/
structure SessionBook where
  known : String → Option Known
  events : Table DiscoveryEventRow.eventId

/-- The book without what was last seen before the cutoff. -/
def SessionBook.kept (book : SessionBook) (cutoff : Int) : SessionBook where
  known id := (book.known id).filter fun known => cutoff ≤ known.lastSeenAt
  events := book.events.delete (·.receivedAt < cutoff)

/-- The book of a directory. -/
def Directory.book (directory : Directory) : SessionBook where
  known := directory.known?
  events := directory.events

section

variable (runtime : DirectoryRuntime)

/-- A new event in the book that has been kept. -/
def SessionBook.record (book : SessionBook) (call : DiscoveryCall) (harness : Harness) :
    DiscoveryResult × SessionBook :=
  let id := call.address runtime harness
  let old := book.known id
  let stale := isStale old call.event.kind call.event.observedAt
  let result : DiscoveryResult :=
    { id := id
      generation := nextGeneration old call.event.kind stale
      stale := stale
      duplicate := false }
  (result,
    { known := if stale then book.known
        else Function.update book.known id (some (call.row runtime harness result.generation).known)
      events := book.events.upsert
        { eventId := call.event.eventId
          digest := call.digest
          result := result
          receivedAt := call.receivedAt } })

/-- What an event is answered with, and the book after it. -/
def bookStep (call : DiscoveryCall) (book : SessionBook) : Outcome DiscoveryResult × SessionBook :=
  match call.event.harness? with
  | none => (.error ⟨.invalidDiscoveryEvent, "Unsupported discovery harness"⟩, book)
  | some harness =>
      match book.events.find? call.event.eventId with
      | some previous =>
          if previous.digest = call.digest then
            (.ok { previous.result with duplicate := true }, book)
          else
            (.error ⟨.duplicateIdConflict,
              "Lifecycle event ID reused with different metadata"⟩, book)
      | none =>
          let (result, after) := (book.kept (call.receivedAt - retentionMs)).record runtime call harness
          (.ok result, after)

end

/-- The tombstone that stands beside a row: that of an ended session. -/
def SessionRow.tombstone? (row : SessionRow) : Option EndedRow :=
  if row.lifecycle = .ended then some row.tombstone else none

/-- Each row stands beside its own tombstone, if any. -/
def Directory.Consistent (directory : Directory) : Prop :=
  ∀ id row, directory.sessions.find? id = some row → directory.ended.find? id = row.tombstone?

section

variable {runtime : DirectoryRuntime} {capacity : Option Nat} {call : DiscoveryCall}
  {harness : Harness} {directory : Directory}

/-- The directory once room has been made. -/
def roomed (capacity : Option Nat) (isNew : Bool) (directory : Directory) : Outcome (Directory × Nat) :=
  if isNew && capacity.any (· ≤ directory.sessions.rows.length) then
    match longestEnded? directory.sessions with
    | none => .error ⟨.directoryFull, "Session directory is full"⟩
    | some row => .ok (evict row directory, 1)
  else .ok (directory, 0)

variable {isNew : Bool} {id : String} {cutoff : Int}

theorem outcome_makeRoom :
    (makeRoom capacity isNew).outcome directory = roomed capacity isNew directory := by
  unfold makeRoom roomed
  rw [Work.outcome_read_bind]
  split
  · rw [Work.outcome_read_bind]
    cases longestEnded? directory.sessions with
    | none | some => rfl
  · rfl

/-- What an event writes behind the room that it may need. -/
def written (runtime : DirectoryRuntime) (call : DiscoveryCall) (harness : Harness)
    (old : Option Known) (removed : Nat) (directory : Directory) : Directory :=
  let stale := isStale old call.event.kind call.event.observedAt
  let generation := nextGeneration old call.event.kind stale
  let stored := if stale then directory
    else storeSession call (call.row runtime harness generation) directory
  let pruned := if 0 < removed then pruneOrphanedSessionState stored else stored
  { pruned with
    events := pruned.events.upsert
      { eventId := call.event.eventId
        digest := call.digest
        result :=
          { id := call.address runtime harness
            generation := generation
            stale := stale
            duplicate := false }
        receivedAt := call.receivedAt } }

theorem outcome_recordNewEvent :
    (recordNewEvent runtime capacity call harness).outcome directory =
      let cutoff := call.receivedAt - retentionMs
      let kept := dropAged cutoff directory
      let id := call.address runtime harness
      let old := kept.known? id
      let stale := isStale old call.event.kind call.event.observedAt
      (roomed capacity ((kept.sessions.find? id).isNone && !stale) kept).map
        fun (room, evicted) =>
          (written runtime call harness old
            ((directory.sessions.select (·.lastSeenAt < cutoff)).length + evicted) room,
            { id := id
              generation := nextGeneration old call.event.kind stale
              stale := stale
              duplicate := false }) := by
  unfold recordNewEvent
  simp only [Work.outcome_read_bind, Work.outcome_write_bind]
  rw [Work.outcome_bind, outcome_makeRoom]
  cases roomed capacity _ _ with
  | error | ok => rfl

variable {row : SessionRow}

/-- What is known of a session that has a row. -/
theorem known?_of_row (found : directory.sessions.find? id = some row) :
    directory.known? id = some row.known := by
  rw [Directory.known?, found]

/-- What is known of a session that has none. -/
theorem known?_of_noRow (absent : directory.sessions.find? id = none) :
    directory.known? id = (directory.ended.find? id).map EndedRow.known := by
  rw [Directory.known?, absent]

/-- The tombstone of an ended row says what the row says. -/
theorem tombstone_known (isEnded : row.lifecycle = .ended) : row.tombstone.known = row.known := by
  rw [SessionRow.known, isEnded]
  rfl

/-- A delete of aged rows leaves those that were seen since the cutoff. -/
private theorem find?_deleteAged {Row : Type} {keyOf : Row → String} {table : Table keyOf}
    {lastSeenAt : Row → Int} (id : String) :
    (table.delete fun row => lastSeenAt row < cutoff).find? id =
      (table.find? id).filter fun row => cutoff ≤ lastSeenAt row := by
  rw [Table.find?_delete]
  apply congrFun (congrArg Option.filter _)
  funext row
  rw [← decide_not]
  exact decide_eq_decide.mpr Int.not_lt

theorem find?_dropAged_sessions (id : String) :
    (dropAged cutoff directory).sessions.find? id =
      (directory.sessions.find? id).filter fun row => cutoff ≤ row.lastSeenAt :=
  find?_deleteAged id

theorem find?_dropAged_ended (id : String) :
    (dropAged cutoff directory).ended.find? id =
      (directory.ended.find? id).filter fun row => cutoff ≤ row.lastSeenAt :=
  find?_deleteAged id

section

variable (consistent : directory.Consistent)
include consistent

/-- Dropping what has aged keeps each row beside its tombstone. -/
theorem dropAged_consistent (cutoff : Int) : (dropAged cutoff directory).Consistent := by
  intro id row found
  rw [find?_dropAged_sessions, Option.filter_eq_some_iff] at found
  rw [find?_dropAged_ended, consistent id row found.1, SessionRow.tombstone?]
  split
  · exact if_pos found.2
  · rfl

/-- Dropping what has aged drops it from the book. -/
theorem dropAged_book (cutoff : Int) :
    (dropAged cutoff directory).book = directory.book.kept cutoff := by
  have known : ∀ id, (dropAged cutoff directory).known? id =
      (directory.known? id).filter fun known => cutoff ≤ known.lastSeenAt := by
    intro id
    cases found : directory.sessions.find? id with
    | none =>
        rw [known?_of_noRow found, known?_of_noRow (by rw [find?_dropAged_sessions, found]; rfl),
          find?_dropAged_ended, Option.filter_map]
        rfl
    | some row =>
        rw [known?_of_row found]
        by_cases isRecent : decide (cutoff ≤ row.lastSeenAt) = true
        · have kept : (dropAged cutoff directory).sessions.find? id = some row := by
            rw [find?_dropAged_sessions, found, Option.filter_some, if_pos isRecent]
          rw [known?_of_row kept, Option.filter_some]
          exact (if_pos isRecent).symm
        · have absent : (dropAged cutoff directory).sessions.find? id = none := by
            rw [find?_dropAged_sessions, found, Option.filter_some, if_neg isRecent]
          -- The tombstone beside an aged row has aged with it.
          have noTombstone : (dropAged cutoff directory).ended.find? id = none := by
            rw [find?_dropAged_ended, consistent id row found, SessionRow.tombstone?]
            split
            · rw [Option.filter_some]
              exact if_neg isRecent
            · rfl
          rw [known?_of_noRow absent, noTombstone, Option.filter_some]
          exact (if_neg isRecent).symm
  unfold Directory.book SessionBook.kept
  congr 1
  exact funext known

/-- An eviction keeps each row beside its tombstone. -/
theorem evict_consistent (row : SessionRow) : (evict row directory).Consistent := by
  intro id other found
  change (directory.sessions.delete _).find? id = _ at found
  change (directory.ended.upsert _).find? id = _
  rw [Table.find?_delete, Option.filter_eq_some_iff] at found
  have otherId : id ≠ row.tombstone.id := by
    change id ≠ row.id
    obtain ⟨-, rfl⟩ := Table.find?_some found.1
    simpa using found.2
  rw [Table.find?_upsert, if_neg otherId]
  exact consistent id other found.1

end

/-- An eviction of an ended session cannot be seen in the book. -/
theorem evict_book (found : directory.sessions.find? row.id = some row)
    (isEnded : row.lifecycle = .ended) : (evict row directory).book = directory.book := by
  unfold Directory.book
  congr 1
  funext id
  by_cases isRow : id = row.id
  · subst isRow
    have absent : (evict row directory).sessions.find? row.id = none := by
      change (directory.sessions.delete _).find? _ = _
      rw [Table.find?_delete, found, Option.filter_some, if_neg (by simp)]
    rw [known?_of_noRow absent, known?_of_row found]
    change ((directory.ended.upsert _).find? _).map _ = _
    have isOwn : row.id = row.tombstone.id := rfl
    rw [Table.find?_upsert, if_pos isOwn, Option.map_some, tombstone_known isEnded]
  · have sameRow : (evict row directory).sessions.find? id = directory.sessions.find? id := by
      change (directory.sessions.delete _).find? id = _
      rw [Table.find?_delete]
      cases foundOther : directory.sessions.find? id with
      | none => rfl
      | some other =>
          obtain ⟨-, rfl⟩ := Table.find?_some foundOther
          rw [Option.filter_some, if_pos (by simpa using isRow)]
    have otherId : id ≠ row.tombstone.id := isRow
    cases foundOther : directory.sessions.find? id with
    | some other => rw [known?_of_row (sameRow.trans foundOther), known?_of_row foundOther]
    | none =>
        rw [known?_of_noRow (sameRow.trans foundOther), known?_of_noRow foundOther]
        change ((directory.ended.upsert _).find? _).map _ = _
        rw [Table.find?_upsert, if_neg otherId]

/-- An upsert leaves one row that says what was written. -/
theorem find?_upsertSession (row : SessionRow) (kind : DiscoveryKind)
    (sessions : Table SessionRow.id) :
    ∃ stored : SessionRow, stored.known = row.known ∧ stored.tombstone = row.tombstone ∧
      ∀ id, (upsertSession row kind sessions).find? id =
        if id = row.id then some stored else sessions.find? id := by
  unfold upsertSession
  cases found : sessions.find? row.id with
  | none => exact ⟨row, rfl, rfl, fun id => Table.find?_upsert id⟩
  | some old =>
      have oldId : old.id = row.id := (Table.find?_some found).2
      refine ⟨old.merge row kind, rfl, ?_, fun id => ?_⟩
      · unfold SessionRow.tombstone
        congr 1
      · have mergedId : (old.merge row kind).id = row.id := oldId
        rw [Table.find?_upsert, mergedId]

/-- The tombstones after an event that is stored. -/
theorem find?_storeSession_ended (id : String) :
    (storeSession call row directory).ended.find? id =
      if id = row.id then (if call.event.kind = .end_ then some row.tombstone else none)
      else directory.ended.find? id := by
  have ofRow : row.tombstone.id = row.id := rfl
  simp only [storeSession]
  by_cases ends : call.event.kind = .end_
  · rw [if_pos ends, if_pos ends, Table.find?_upsert, ofRow]
  · rw [if_neg ends, if_neg ends, Table.find?_delete]
    cases found : directory.ended.find? id with
    | none => simp
    | some tombstone =>
        obtain ⟨-, rfl⟩ := Table.find?_some found
        rw [Option.filter_some]
        simp

/-- Storing an event keeps each row beside its tombstone. -/
theorem storeSession_consistent (consistent : directory.Consistent)
    (lifecycle : row.lifecycle = call.event.kind.lifecycle) :
    (storeSession call row directory).Consistent := by
  obtain ⟨stored, sameKnown, sameTombstone, read⟩ :=
    find?_upsertSession row call.event.kind directory.sessions
  intro id other found
  change (upsertSession row call.event.kind directory.sessions).find? id = _ at found
  rw [read] at found
  rw [find?_storeSession_ended]
  by_cases isRow : id = row.id
  · rw [if_pos isRow] at found ⊢
    obtain rfl := Option.some.inj found
    have sameLifecycle : stored.lifecycle = row.lifecycle := congrArg Known.lifecycle sameKnown
    rw [SessionRow.tombstone?, sameTombstone, sameLifecycle, lifecycle]
    cases call.event.kind with
    | start | activity | end_ => rfl
  · rw [if_neg isRow] at found ⊢
    exact consistent id other found

/-- Storing an event writes its session into the book. -/
theorem storeSession_book :
    (storeSession call row directory).book =
      { directory.book with
        known := Function.update directory.book.known row.id (some row.known) } := by
  obtain ⟨stored, sameKnown, -, read⟩ :=
    find?_upsertSession row call.event.kind directory.sessions
  have readStored : ∀ id, (storeSession call row directory).sessions.find? id = _ := read
  unfold Directory.book
  congr 1
  funext id
  by_cases isRow : id = row.id
  · have found := readStored id
    rw [if_pos isRow] at found
    rw [known?_of_row found, sameKnown, isRow, Function.update_self]
  · have found := readStored id
    rw [if_neg isRow] at found
    rw [Function.update_of_ne isRow, Directory.known?, found, find?_storeSession_ended,
      if_neg isRow]
    rfl

/-- The row that is evicted is the stored row of an ended session. -/
theorem longestEnded?_some {sessions : Table SessionRow.id}
    (isLongest : longestEnded? sessions = some row) :
    sessions.find? row.id = some row ∧ row.lifecycle = .ended := by
  have member := List.mem_of_head? isLongest
  rw [List.mem_mergeSort, Table.mem_select] at member
  exact ⟨member.1, of_decide_eq_true member.2⟩

/-- Making room cannot be seen in the book. -/
theorem roomed_ok {room : Directory} {evicted : Nat} (consistent : directory.Consistent)
    (isRoom : roomed capacity isNew directory = .ok (room, evicted)) :
    room.Consistent ∧ room.book = directory.book := by
  unfold roomed at isRoom
  split at isRoom
  · split at isRoom
    · cases isRoom
    next row isLongest =>
      obtain ⟨found, isEnded⟩ := longestEnded?_some isLongest
      obtain ⟨rfl, -⟩ := pair_ok isRoom
      exact ⟨evict_consistent consistent row, evict_book found isEnded⟩
  · obtain ⟨rfl, -⟩ := pair_ok isRoom
    exact ⟨consistent, rfl⟩

/-- `directory_full`. -/
def directoryFull : MessagingError :=
  ⟨.directoryFull, "Session directory is full"⟩

/-- Only a directory with a capacity can be full. -/
theorem roomed_error {error : MessagingError}
    (threw : roomed capacity isNew directory = .error error) :
    error = directoryFull ∧ capacity.isSome := by
  unfold roomed at threw
  split at threw
  next isFull =>
    split at threw
    · obtain rfl := Except.error.inj threw
      refine ⟨rfl, ?_⟩
      cases capacity with
      | none => simp at isFull
      | some limit => rfl
    · cases threw
  · cases threw

/-- Pruning after removals keeps what is seen of the sessions. -/
theorem pruned_consistent (consistent : directory.Consistent) (removed : Nat) :
    (if 0 < removed then pruneOrphanedSessionState directory else directory).Consistent := by
  split
  · exact consistent
  · exact consistent

theorem pruned_book (removed : Nat) :
    (if 0 < removed then pruneOrphanedSessionState directory else directory).book =
      directory.book := by
  split
  · rfl
  · rfl

/-- An event that is not stale is stored in its session's row, a stale one is not. -/
theorem stored_book (consistent : directory.Consistent) (stale : Bool) (row : SessionRow)
    (lifecycle : row.lifecycle = call.event.kind.lifecycle) :
    (if stale then directory else storeSession call row directory).Consistent ∧
      (if stale then directory else storeSession call row directory).book =
        { directory.book with
          known := if stale then directory.book.known
            else Function.update directory.book.known row.id (some row.known) } := by
  cases stale with
  | true => exact ⟨consistent, rfl⟩
  | false => exact ⟨storeSession_consistent consistent lifecycle, storeSession_book⟩

/-- What an event writes behind its room is what the book records. -/
theorem written_book (consistent : directory.Consistent) (removed : Nat) :
    (written runtime call harness (directory.known? (call.address runtime harness)) removed
        directory).Consistent ∧
      (written runtime call harness (directory.known? (call.address runtime harness)) removed
        directory).book = (directory.book.record runtime call harness).2 := by
  let old := directory.known? (call.address runtime harness)
  let stale := isStale old call.event.kind call.event.observedAt
  obtain ⟨storedConsistent, storedBook⟩ := stored_book consistent stale
    (call.row runtime harness (nextGeneration old call.event.kind stale)) rfl
  let answered : DiscoveryEventRow :=
    { eventId := call.event.eventId
      digest := call.digest
      result :=
        { id := call.address runtime harness
          generation := nextGeneration old call.event.kind stale
          stale := stale
          duplicate := false }
      receivedAt := call.receivedAt }
  refine ⟨pruned_consistent storedConsistent removed, ?_⟩
  exact congrArg (fun book => SessionBook.mk book.known (book.events.upsert answered))
    ((pruned_book removed).trans storedBook)

/-- A directory of any capacity refines the book: an event is answered as in the
book and leaves the book's next state, unless the directory is full, which
changes nothing. -/
theorem recordDiscoveryEvent_refines (consistent : directory.Consistent)
    {answer : Outcome DiscoveryResult} {after : Directory}
    (performed : (recordDiscoveryEvent runtime capacity call).perform directory =
      (answer, after)) :
    (answer = .error directoryFull ∧ capacity.isSome ∧ after = directory) ∨
      (after.Consistent ∧ (answer, after.book) = bookStep runtime call directory.book) := by
  obtain rfl : _ = answer := congrArg Prod.fst performed
  obtain rfl : _ = after := congrArg Prod.snd performed
  clear performed
  unfold recordDiscoveryEvent bookStep
  cases call.event.harness? with
  | none => exact .inr ⟨consistent, rfl⟩
  | some harness =>
      dsimp only
      rw [Work.perform_transaction, Work.outcome_read_bind]
      cases found : directory.events.find? call.event.eventId with
      | some previous =>
          have inBook : directory.book.events.find? call.event.eventId = some previous := found
          rw [inBook]
          dsimp only
          rw [Work.outcome_demand_bind]
          by_cases sameDigest : previous.digest = call.digest
          · rw [require, if_pos sameDigest, if_pos sameDigest]
            exact .inr ⟨consistent, rfl⟩
          · rw [require, if_neg sameDigest, if_neg sameDigest]
            exact .inr ⟨consistent, rfl⟩
      | none =>
          have inBook : directory.book.events.find? call.event.eventId = none := found
          rw [inBook]
          dsimp only
          rw [outcome_recordNewEvent]
          dsimp only
          have keptConsistent := dropAged_consistent consistent (call.receivedAt - retentionMs)
          have keptBook := dropAged_book consistent (call.receivedAt - retentionMs)
          generalize dropAged (call.receivedAt - retentionMs) directory = kept
            at keptConsistent keptBook ⊢
          cases isRoom : roomed capacity
              ((kept.sessions.find? (call.address runtime harness)).isNone &&
                !isStale (kept.known? (call.address runtime harness)) call.event.kind
                  call.event.observedAt) kept with
          | error problem =>
              obtain ⟨rfl, bounded⟩ := roomed_error isRoom
              exact .inl ⟨rfl, bounded, rfl⟩
          | ok value =>
              obtain ⟨room, evicted⟩ := value
              obtain ⟨roomConsistent, roomBook⟩ := roomed_ok keptConsistent isRoom
              have sameKnown : kept.known? = room.known? := (congrArg SessionBook.known roomBook).symm
              dsimp only [Except.map]
              rw [sameKnown, ← keptBook, ← roomBook]
              obtain ⟨writtenConsistent, writtenBook⟩ := @written_book runtime call harness room
                roomConsistent ((directory.sessions.select
                  (·.lastSeenAt < call.receivedAt - retentionMs)).length + evicted)
              refine .inr ⟨writtenConsistent, ?_⟩
              rw [writtenBook]
              rfl

end

end Triangle.LocalMessaging
