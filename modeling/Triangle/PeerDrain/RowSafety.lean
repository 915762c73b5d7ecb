import Triangle.PeerDrain.Step

/-!
# What keeps a message from starting again

`RunsOnce` is what the service is for: the runner of a message starts at most
once, and once more for each operator retry, and never after a discard.
`RowSafe` says how a message's record guards that: a message without a record
that the engine lists may start, and so may one whose record waits for a retry;
the record of a discarded message is in no phase from which the runner starts.
Each statement of the journal and each event keeps it.
-/

namespace Triangle.PeerDrain

open Triangle.Std
open Triangle.Semantics (Machine)

/-- The message may start: it has a start left and was not discarded. -/
def MayStart (log : List DrainEvent) (key : MessageKey) : Prop :=
  log.count (.started key) ≤ log.count (.retried key) ∧ .discarded key ∉ log

instance (log : List DrainEvent) (key : MessageKey) : Decidable (MayStart log key) :=
  inferInstanceAs (Decidable (_ ∧ _))

/-- One start, one more for each accepted retry, and none after a discard. -/
structure RunsOnce (log : List DrainEvent) (key : MessageKey) : Prop where
  atMost : log.count (.started key) ≤ 1 + log.count (.retried key)
  notAfterDiscard : ∀ before after, log = before ++ .discarded key :: after → .started key ∉ after

/-- The engine lists an item of the message. -/
def DrainWorld.Lists (world : DrainWorld) (key : MessageKey) : Prop :=
  ∃ item ∈ world.inbox, item.key = key

instance (world : DrainWorld) (key : MessageKey) : Decidable (world.Lists key) :=
  inferInstanceAs (Decidable (∃ item ∈ _, _))

/-- The step is a retention sweep that deletes the record of a message which the
engine still lists and which may not start again. -/
def ForgetsListed (world : DrainWorld) : DrainLabel → Prop
  | .advance _ =>
      world.flight.map Flight.point = some .retention ∧
        ∃ row ∈ world.journal.records.rows, row.isExpired world.clock = true ∧
          world.Lists row.key ∧ ¬ MayStart world.log row.key
  | _ => False

instance (world : DrainWorld) : (label : DrainLabel) → Decidable (ForgetsListed world label)
  | .advance _ => inferInstanceAs (Decidable (_ ∧ ∃ row ∈ _, _))
  | .step _ | .abort | .answer _ | .runnerStarts | .runnerEnds _ | .runnerSettles _
  | .engineLists _ | .engineAcks _ | .enginePolls | .resolve _ | .consumeReply _
  | .writeOutbound _ | .setClock _ | .restart _ _ => inferInstanceAs (Decidable False)

/-- The phase of a message's record. -/
def DrainJournal.phase? (journal : DrainJournal) (key : MessageKey) : Option Phase :=
  (journal.getRow key).map Record.phase

/-- A phase from which the runner can come to start. -/
def Phase.leadsToStart (phase : Phase) : Bool :=
  phase = .held || phase = .retryPending || phase = .executing

/-- What holds of a message's record and history. -/
structure RowSafe (phase : Option Phase) (arrived listed : Prop) (log : List DrainEvent)
    (key : MessageKey) : Prop where
  runsOnce : RunsOnce log key
  unseen : ¬ arrived → phase = none ∧ MayStart log key
  listedArrived : listed → arrived
  fresh : phase = none → listed → MayStart log key
  retry : phase = some .retryPending → MayStart log key
  dead : .discarded key ∈ log → phase.all (fun phase => !phase.leadsToStart) = true

/-- What the step in flight relies on about a message. -/
def Point.Safe (phase : Option Phase) (arrived mayStart : Prop) (key : MessageKey) : Point → Prop
  | .polling (some (some item)) => item.key = key → arrived ∧ (phase = none → mayStart)
  | .insertExecuting work => work.key = key → arrived ∧ (phase = none → mayStart)
  | .reject item _ => item.key = key → arrived
  | .closeOutbound item _ _ => item.key = key → arrived
  | .storeReply item _ _ => item.key = key → arrived
  | .rerun work => work.key = key → phase = some .retryPending
  | .executing work => work.key = key → phase = some .executing ∧ mayStart
  | .notStarted work => work.key = key → phase = some .executing ∧ mayStart
  | .running work started =>
      work.key = key → phase = some .executing ∧ (started = false → mayStart)
  | .hold work _ => work.key = key → phase = some .executing
  | .storeResult work _ => work.key = key → phase = some .executing
  | _ => True

/-- The service is safe about a message. -/
structure DrainSafe (world : DrainWorld) (key : MessageKey) : Prop where
  row : RowSafe (world.journal.phase? key) (key ∈ world.arrived) (world.Lists key) world.log key
  point : ∀ flight, world.flight = some flight →
    flight.point.Safe (world.journal.phase? key) (key ∈ world.arrived) (MayStart world.log key) key

/-! ## The journal's statements -/

section

variable {journal : DrainJournal} {key : MessageKey}

variable {selected : Record → Bool} {change : Record → Record}

/-- A statement that does not set the phase leaves the phases. -/
theorem phase?_updateWhere_same (keeps : ∀ row, (change row).phase = row.phase) :
    (journal.updateWhere selected change).phase? key = journal.phase? key := by
  unfold DrainJournal.phase?
  rw [DrainJournal.getRow_updateWhere, Option.map_map]
  congr 1
  funext row
  by_cases chosen : selected row = true
  · simp [chosen, keeps]
  · simp [chosen]

/-- A statement that sets the phase of one record. -/
theorem phase?_updateRow {named : MessageKey} {phase : Phase}
    (sets : ∀ row, (change row).phase = phase) :
    (journal.updateRow named change).phase? key =
      if named = key then (journal.phase? key).map fun _ => phase else journal.phase? key := by
  unfold DrainJournal.updateRow DrainJournal.phase?
  rw [DrainJournal.getRow_updateWhere]
  cases found : journal.getRow key with
  | none => simp
  | some row =>
      obtain ⟨-, rfl⟩ := Table.find?_some found
      by_cases same : named = row.key
      · simp [same, sets]
      · simp [same, Ne.symm same]

/-- A statement that sets the phase of the records in some phase. -/
theorem phase?_updateWhere {selected : Record → Bool} {change : Record → Record} {phase : Phase}
    (sets : ∀ row, (change row).phase = phase) :
    (journal.updateWhere selected change).phase? key = journal.phase? key ∨
      (∃ row, journal.getRow key = some row ∧ selected row = true) ∧
        (journal.updateWhere selected change).phase? key = some phase := by
  unfold DrainJournal.phase?
  rw [DrainJournal.getRow_updateWhere]
  cases found : journal.getRow key with
  | none => exact .inl rfl
  | some row =>
      by_cases chosen : selected row = true
      · exact .inr ⟨⟨row, rfl, chosen⟩, by simp [chosen, sets]⟩
      · exact .inl (by simp [chosen])

/-- An insert that succeeds had its key free. -/
theorem phase?_insertRow {row : Record} {inserted : DrainJournal}
    (isInserted : journal.insertRow row = some inserted) :
    journal.phase? row.key = none ∧
      inserted.phase? key = if key = row.key then some row.phase else journal.phase? key := by
  unfold DrainJournal.insertRow at isInserted
  split at isInserted
  next free =>
    cases isInserted
    unfold DrainJournal.phase? DrainJournal.getRow
    rw [Table.find?_insert, free]
    refine ⟨rfl, ?_⟩
    split <;> rfl
  · cases isInserted

/-- A delete leaves a record or takes it away. -/
theorem phase?_deleteWhere {selected : Record → Bool} :
    (journal.deleteWhere selected).phase? key = journal.phase? key ∨
      (∃ row, journal.getRow key = some row ∧ selected row = true) ∧
        (journal.deleteWhere selected).phase? key = none := by
  unfold DrainJournal.phase? DrainJournal.getRow DrainJournal.deleteWhere
  rw [Table.find?_delete]
  cases found : journal.records.find? key with
  | none => exact .inl rfl
  | some row =>
      by_cases chosen : selected row = true
      · exact .inr ⟨⟨row, rfl, chosen⟩, by simp [Option.filter_some, chosen]⟩
      · exact .inl (by simp [Option.filter_some, chosen])

/-- What a query finds is a record of the journal that was asked for. -/
theorem oldest_some {tie : Nat} {row : Record} (found : oldest journal tie selected = some row) :
    journal.getRow row.key = some row ∧ selected row = true := by
  unfold oldest at found
  have member : row ∈ journal.records.select selected := by
    rcases Option.or_eq_some_iff.mp found with isTie | ⟨-, isFirst⟩
    · exact List.mem_of_mem_filter (List.mem_of_getElem? isTie)
    · exact List.mem_of_mem_filter (List.mem_of_mem_head? isFirst)
  exact Table.mem_select.mp member

end

/-! ## A message's record and history -/

section

variable {phase : Option Phase} {arrived listed : Prop} {log : List DrainEvent} {key : MessageKey}

/-- Where an event splits a log that grew by one event. -/
theorem append_singleton_split {α : Type} {log before after : List α} {event mark : α}
    (same : log ++ [event] = before ++ mark :: after) :
    after = [] ∨ ∃ earlier, after = earlier ++ [event] ∧ log = before ++ mark :: earlier := by
  rcases List.eq_nil_or_concat after with rfl | ⟨earlier, last, rfl⟩
  · exact .inl rfl
  · refine .inr ⟨earlier, ?_⟩
    have regrouped : log ++ [event] = (before ++ mark :: earlier) ++ [last] := by simpa using same
    obtain ⟨sameLog, sameLast⟩ := List.append_inj' regrouped rfl
    cases sameLast
    exact ⟨by simp, sameLog⟩

/-- An event that is not a start after a discard keeps the order of events. -/
theorem RunsOnce.append (once : RunsOnce log key) {event : DrainEvent}
    (atMost : (log ++ [event]).count (.started key) ≤ 1 + (log ++ [event]).count (.retried key))
    (allowed : event = .started key → .discarded key ∉ log) : RunsOnce (log ++ [event]) key := by
  refine ⟨atMost, fun before after same => ?_⟩
  rcases append_singleton_split same with rfl | ⟨earlier, rfl, isLog⟩
  · exact List.not_mem_nil
  · intro member
    rcases List.mem_append.mp member with inEarlier | isLast
    · exact once.notAfterDiscard before earlier isLog inEarlier
    · refine allowed (List.mem_singleton.mp isLast).symm ?_
      rw [isLog]
      exact List.mem_append_right _ List.mem_cons_self

/-- An event about another message changes nothing for this one. -/
theorem mayStart_append_other {event : DrainEvent} (notStarted : event ≠ .started key)
    (notRetried : event ≠ .retried key) (notDiscarded : event ≠ .discarded key) :
    MayStart (log ++ [event]) key ↔ MayStart log key := by
  unfold MayStart
  rw [List.count_append, List.count_append, List.count_singleton, List.count_singleton]
  simp [notStarted, notRetried, Ne.symm notDiscarded]

namespace RowSafe

section

variable (safe : RowSafe phase arrived listed log key)
include safe

theorem setPhase (next : Phase) (alive : next.leadsToStart = true → .discarded key ∉ log)
    (retry : next = .retryPending → MayStart log key) :
    RowSafe (phase.map fun _ => next) arrived listed log key where
  runsOnce := safe.runsOnce
  unseen := fun unknown => by
    obtain ⟨isNone, mayStart⟩ := safe.unseen unknown
    exact ⟨by rw [isNone]; rfl, mayStart⟩
  listedArrived := safe.listedArrived
  fresh := fun isNone => safe.fresh (Option.map_eq_none_iff.mp isNone)
  retry := fun isRetry => by
    obtain ⟨_, -, isNext⟩ := Option.map_eq_some_iff.mp isRetry
    exact retry isNext
  dead := fun isDiscarded => by
    cases phase with
    | none => rfl
    | some phase =>
        cases leads : next.leadsToStart with
        | false => simp [leads]
        | true => exact absurd isDiscarded (alive leads)

theorem insert (isArrived : arrived) {next : Phase}
    (alive : next.leadsToStart = true → .discarded key ∉ log) (notRetry : next ≠ .retryPending) :
    RowSafe (some next) arrived listed log key where
  runsOnce := safe.runsOnce
  unseen := fun unknown => absurd isArrived unknown
  listedArrived := safe.listedArrived
  fresh := fun isNone => (nomatch isNone)
  retry := fun isRetry => absurd (Option.some.inj isRetry) notRetry
  dead := fun isDiscarded => by
    cases leads : next.leadsToStart with
    | false => simp [leads]
    | true => exact absurd isDiscarded (alive leads)

theorem forget (mayStart : listed → MayStart log key) : RowSafe none arrived listed log key where
  runsOnce := safe.runsOnce
  unseen := fun unknown => ⟨rfl, (safe.unseen unknown).2⟩
  listedArrived := safe.listedArrived
  fresh := fun _ => mayStart
  retry := fun isRetry => (nomatch isRetry)
  dead := fun _ => rfl

/-- The runner starts a turn that may start. -/
theorem start (isExecuting : phase = some .executing) (mayStart : MayStart log key) :
    RowSafe phase arrived listed (log ++ [.started key]) key where
  runsOnce := by
    refine safe.runsOnce.append ?_ fun _ => mayStart.2
    have used := mayStart.1
    simp only [List.count_append, List.count_singleton]
    simp
    omega
  unseen := fun unknown => by
    rw [(safe.unseen unknown).1] at isExecuting
    cases isExecuting
  listedArrived := safe.listedArrived
  fresh := fun isNone => by
    rw [isNone] at isExecuting
    cases isExecuting
  retry := fun isRetry => by
    rw [isRetry] at isExecuting
    cases isExecuting
  dead := fun isDiscarded => by
    rcases List.mem_append.mp isDiscarded with before | isLast
    · exact absurd before mayStart.2
    · cases List.mem_singleton.mp isLast

end

/-- An operator retries a held record. -/
theorem retried (safe : RowSafe phase arrived listed log key) (isHeld : phase = some .held) :
    RowSafe (some .retryPending) arrived listed (log ++ [.retried key]) key := by
  have notDiscarded : .discarded key ∉ log ++ [.retried key] := by
    intro isDiscarded
    rcases List.mem_append.mp isDiscarded with before | isLast
    · have dead := safe.dead before
      rw [isHeld] at dead
      cases dead
    · cases List.mem_singleton.mp isLast
  have atMost := safe.runsOnce.atMost
  have mayStart : MayStart (log ++ [.retried key]) key := by
    refine ⟨?_, notDiscarded⟩
    simp only [List.count_append, List.count_singleton]
    simp
    omega
  refine ⟨safe.runsOnce.append ?_ (fun isStart => (nomatch isStart)), fun unknown => ?_,
    safe.listedArrived, fun isNone => (nomatch isNone), fun _ => mayStart,
    fun isDiscarded => absurd isDiscarded notDiscarded⟩
  · have used := mayStart.1
    omega
  · rw [(safe.unseen unknown).1] at isHeld
    cases isHeld

/-- An operator discards a record. -/
theorem discarded (safe : RowSafe phase arrived listed log key) (isRow : phase ≠ none) :
    RowSafe (some .discarded) arrived listed (log ++ [.discarded key]) key where
  runsOnce := by
    refine safe.runsOnce.append ?_ (fun isStart => (nomatch isStart))
    have atMost := safe.runsOnce.atMost
    simp only [List.count_append, List.count_singleton]
    simp
    omega
  unseen := fun unknown => absurd (safe.unseen unknown).1 isRow
  listedArrived := safe.listedArrived
  fresh := fun isNone => (nomatch isNone)
  retry := fun isRetry => (nomatch isRetry)
  dead := fun _ => rfl

/-- An event about another message. -/
theorem otherEvent (safe : RowSafe phase arrived listed log key) {event : DrainEvent}
    (notStarted : event ≠ .started key) (notRetried : event ≠ .retried key)
    (notDiscarded : event ≠ .discarded key) :
    RowSafe phase arrived listed (log ++ [event]) key := by
  have same := @mayStart_append_other log key event notStarted notRetried notDiscarded
  refine ⟨safe.runsOnce.append ?_ (fun isStart => absurd isStart notStarted), fun unknown => ?_,
    safe.listedArrived, fun isNone isListed => same.mpr (safe.fresh isNone isListed),
    fun isRetry => same.mpr (safe.retry isRetry), fun isDiscarded => ?_⟩
  · have atMost := safe.runsOnce.atMost
    simp only [List.count_append, List.count_singleton]
    simp [notStarted, notRetried]
    exact atMost
  · obtain ⟨isNone, mayStart⟩ := safe.unseen unknown
    exact ⟨isNone, same.mpr mayStart⟩
  · rcases List.mem_append.mp isDiscarded with before | isLast
    · exact safe.dead before
    · exact absurd (List.mem_singleton.mp isLast).symm notDiscarded

end RowSafe

end

end Triangle.PeerDrain
