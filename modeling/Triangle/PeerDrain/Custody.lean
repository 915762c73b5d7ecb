import Triangle.PeerDrain.Subject

/-!
# The service acks only what it has decided

An item leaves the engine's inbox when the engine handles an ack that the service
asked for. From that request on the journal has a record of the message which
says what became of it, until the retention sweep removes the record: a turn
that the runner never started, whose record is deleted, was not acked.

`requested` and `consumed` are not state of the program: they are the messages
that the service asked an ack of, and those of them whose item the engine has
consumed, since the sweep last removed their record.
-/

namespace Triangle.PeerDrain

open Triangle.Std
open Triangle.Semantics (Machine)

/-- An operator has sent the record back to work: a retry of a held record counts
an execution more, a resend of a failed reply counts a resend more. -/
def Record.IsReopened (row : Record) : Prop :=
  1 < row.executionAttempt ∨ 0 < row.resendAttempt

/-- The record says what became of the message, or the service works on it again. -/
def Record.IsDecided (row : Record) : Prop :=
  row.phase ∈ [.held, .rejected, .replyFailed, .replyReceived, .discarded, .retryPending,
      .resendPending, .acked, .admitted] ∨
    (row.phase = .executing ∨ row.phase = .result) ∧ row.IsReopened

/-- The messages that a step asks an ack of. -/
def asked (before after : DrainWorld) : List MessageKey :=
  after.acksSent.take (after.acksSent.length - before.acksSent.length)

/-- The step is a retention sweep that removes the record of a message. -/
def sweeps (world : DrainWorld) (label : DrainLabel) (key : MessageKey) : Bool :=
  match label with
  | .advance _ => world.flight.map Flight.point = some .retention &&
      (world.journal.getRow key).any (Record.isExpired world.clock)
  | _ => false

/-- The messages whose item the engine consumes in a step. -/
def consumes (world : DrainWorld) (requested : List MessageKey) : DrainLabel → List MessageKey
  | .engineAcks key =>
      if requested.contains key && world.inbox.any (fun item => item.key = key) then [key] else []
  | _ => []

structure CustodyState where
  world : DrainWorld
  requested : List MessageKey
  consumed : List MessageKey

section

variable (digest : String → String)

/-- A step beside an engine that may list any item at any time. -/
def openStep (world : DrainWorld) : DrainLabel → DrainWorld
  | .engineLists item =>
      { world with
        inbox := world.inbox ++ [item]
        arrived := item.key :: world.arrived }
  | label => drainStep digest world label

def custodyStep (state : CustodyState) (label : DrainLabel) : CustodyState :=
  let next := openStep digest state.world label
  let remembered := fun key => !sweeps state.world label key
  { world := next
    requested := (asked state.world next ++ state.requested).filter remembered
    consumed := (consumes state.world state.requested label ++ state.consumed).filter remembered }

/-- The service from an empty state directory, with what the engine has consumed. -/
def custodyMachine : Machine CustodyState DrainLabel where
  initial := ⟨(drainMachine digest).initial, [], []⟩
  step := custodyStep digest

end

/-! ## What a step relies on -/

/-- The counts of a record that an operator has sent back to work. -/
structure Record.CountsFit (row : Record) : Prop where
  executed : 1 ≤ row.executionAttempt
  retried : row.phase = .retryPending → 1 < row.executionAttempt
  resent : row.phase = .resendPending → 0 < row.resendAttempt

/-- What the step in flight relies on about the record of a message. -/
def Point.Relies (row : Option Record) (requested : Prop) (key : MessageKey) : Point → Prop
  | .resume named => named = key → ∃ stored, row = some stored ∧ stored.phase = .resendPending
  | .rerun work => work.key = key → work.isNew = false ∧
      ∃ stored, row = some stored ∧ stored.phase = .retryPending
  | .deliver reply | .sending reply | .checking reply => reply.key = key → HasReply row
  | .failReply named _ | .markAdmitted named | .resultStored named => named = key → HasReply row
  | .admitted named => named = key → ∃ stored, row = some stored ∧ stored.phase = .admitted
  | .ack named _ => named = key → ∃ stored, row = some stored ∧ stored.IsDecided
  | .insertExecuting work => work.key = key → work.executionAttempt = 1
  | .executing work | .running work _ | .notStarted work | .hold work _ | .storeResult work _ =>
      work.key = key → (work.isNew = true → ¬ requested) ∧
        ∃ stored, row = some stored ∧ stored.phase = .executing
  | _ => True
where
  /-- A record with a reply that is to be delivered. -/
  HasReply (row : Option Record) : Prop :=
    ∃ stored, row = some stored ∧ (stored.phase = .result ∨ stored.phase = .admitted)

/-- The record of a message answers for its acks. -/
structure RowCustody (row : Option Record) (requested : Prop) : Prop where
  counts : ∀ stored, row = some stored → stored.CountsFit
  decided : requested → ∃ stored, row = some stored ∧ stored.IsDecided

/-- The journal answers for the acks of a message. -/
structure Custody (world : DrainWorld) (requested : Prop) (key : MessageKey) : Prop where
  row : RowCustody (world.journal.getRow key) requested
  point : ∀ flight, world.flight = some flight →
    flight.point.Relies (world.journal.getRow key) requested key

section

variable {world after : DrainWorld} {journal : DrainJournal} {key : MessageKey} {requested : Prop}
  {digest : String → String}

variable {point : Point} {row : Option Record} {stored : Record}

theorem Point.relies_elsewhere (different : point.subject ≠ some key) :
    point.Relies row requested key := by
  have other : ∀ {named : MessageKey}, some named ≠ some key → named ≠ key :=
    fun different same => different (by rw [same])
  cases point with
  | retention | sweepOutbound | choose | polling | replyAcked | acking | markAcked | close
  | stampTerminal | outcome | sendingOutcome | markOutcome | reject | closeOutbound
  | storeReply => trivial
  | _ => exact fun same => absurd same (other different)

/-- A message of which no ack was asked needs less. -/
theorem Custody.mono {weaker : Prop} (custody : Custody world requested key)
    (implies : weaker → requested) : Custody world weaker key := by
  refine ⟨⟨custody.row.counts, fun isRequested => custody.row.decided (implies isRequested)⟩,
    fun flight isFlight => ?_⟩
  have relies := custody.point flight isFlight
  generalize flight.point = point at relies
  cases point with
  | executing | running | notStarted | hold | storeResult =>
      intro same
      obtain ⟨notRequested, isStored⟩ := relies same
      exact ⟨fun isNew isRequested => notRequested isNew (implies isRequested), isStored⟩
  | _ => exact relies

theorem asked_not (asksNot : AsksNot key world after) : key ∉ asked world after := by
  unfold asked
  rcases asksNot with same | ⟨other, different, isCons⟩
  · simp [same]
  · simp [isCons, Ne.symm different]

/-- Custody of a change that leaves the message alone. -/
theorem Custody.elsewhere (custody : Custody world requested key)
    (elsewhere : Elsewhere key world after) : Custody after requested key := by
  refine ⟨?_, fun flight isFlight => Point.relies_elsewhere (elsewhere.flight flight isFlight)⟩
  rw [elsewhere.row]
  exact custody.row

/-- The step goes on at another point. -/
theorem RowCustody.goTo (row : RowCustody (world.journal.getRow key) requested) {point : Point}
    (relies : point.Relies (world.journal.getRow key) requested key) :
    Custody (world.goTo point) requested key := by
  refine ⟨row, fun flight isFlight => ?_⟩
  unfold DrainWorld.goTo at isFlight
  obtain ⟨before, -, rfl⟩ := Option.map_eq_some_iff.mp isFlight
  exact relies

theorem RowCustody.finish (row : RowCustody (world.journal.getRow key) requested) :
    Custody world.finish requested key :=
  ⟨row, fun _ isFlight => (nomatch isFlight)⟩

/-- A statement, and where the step goes on. -/
theorem RowCustody.write (row : RowCustody (journal.getRow key) requested)
    (relies : point.Relies (journal.getRow key) requested key) :
    Custody ((world.write journal).goTo point) requested key :=
  @RowCustody.goTo (world.write journal) key requested row point relies

theorem RowCustody.writeLast (row : RowCustody (journal.getRow key) requested) :
    Custody (world.write journal).finish requested key :=
  @RowCustody.finish (world.write journal) key requested row

/-! ## Statements -/

/-- A statement changes no count. -/
def KeepsCounts (change : Record → Record) : Prop :=
  ∀ row, (change row).executionAttempt = row.executionAttempt ∧
    (change row).resendAttempt = row.resendAttempt

theorem Record.CountsFit.change {row : Record} (fit : row.CountsFit) {change : Record → Record}
    (keeps : KeepsCounts change) (notRetry : (change row).phase ≠ .retryPending)
    (notResend : (change row).phase ≠ .resendPending) : (row.setColumns (change row)).CountsFit where
  executed := by
    change 1 ≤ (change row).executionAttempt
    rw [(keeps row).1]
    exact fit.executed
  retried isRetry := absurd isRetry notRetry
  resent isResend := absurd isResend notResend

section

variable (custody : RowCustody (journal.getRow key) requested)
include custody

/-- A statement that decides about the message. -/
theorem RowCustody.decide {change : Record → Record} (keeps : KeepsCounts change) (phase : Phase)
    (sets : ∀ row, (change row).phase = phase)
    (isDecided : phase ∈ [.held, .rejected, .replyFailed, .replyReceived, .discarded, .acked,
      .admitted]) : RowCustody ((journal.updateRow key change).getRow key) requested := by
  have pending : phase ≠ .retryPending ∧ phase ≠ .resendPending := by
    constructor
    · rintro rfl
      simp at isDecided
    · rintro rfl
      simp at isDecided
  cases found : journal.getRow key with
  | none =>
      rw [found] at custody
      rw [getRow_updateRow_none found]
      exact custody
  | some stored =>
      rw [getRow_updateRow_self found]
      refine ⟨fun other isOther => ?_, fun _ => ⟨_, rfl, .inl ?_⟩⟩
      · cases isOther
        refine (custody.counts stored found).change keeps ?_ ?_
        · rw [sets]
          exact pending.1
        · rw [sets]
          exact pending.2
      · rw [Record.setColumns_phase, sets]
        revert isDecided
        cases phase <;> decide

/-- A statement that does not set the phase. -/
theorem RowCustody.annotate {change : Record → Record} (keeps : KeepsCounts change)
    (same : ∀ row, (change row).phase = row.phase) :
    RowCustody ((journal.updateRow key change).getRow key) requested := by
  cases found : journal.getRow key with
  | none =>
      rw [found] at custody
      rw [getRow_updateRow_none found]
      exact custody
  | some stored =>
      rw [getRow_updateRow_self found]
      obtain ⟨executed, resent⟩ := keeps stored
      refine ⟨fun other isOther => ?_, fun isRequested => ⟨_, rfl, ?_⟩⟩
      · cases isOther
        have fit := custody.counts stored found
        refine ⟨?_, ?_, ?_⟩
        · change 1 ≤ (change stored).executionAttempt
          rw [executed]
          exact fit.executed
        · change (change stored).phase = _ → 1 < (change stored).executionAttempt
          rw [same, executed]
          exact fit.retried
        · change (change stored).phase = _ → 0 < (change stored).resendAttempt
          rw [same, resent]
          exact fit.resent
      · obtain ⟨other, isOther, isDecided⟩ := custody.decided isRequested
        cases found.symm.trans isOther
        unfold Record.IsDecided Record.IsReopened at isDecided ⊢
        rw [Record.setColumns_phase, same]
        change _ ∨ _ ∧ (1 < (change stored).executionAttempt ∨ 0 < (change stored).resendAttempt)
        rw [executed, resent]
        exact isDecided

/-- A statement that puts the record to work. -/
theorem RowCustody.work (found : journal.getRow key = some stored) {change : Record → Record}
    (keeps : KeepsCounts change) (sets : (change stored).phase = .executing ∨
      (change stored).phase = .result) (isReopened : requested → stored.IsReopened) :
    RowCustody ((journal.updateRow key change).getRow key) requested := by
  rw [getRow_updateRow_self found]
  obtain ⟨executed, resent⟩ := keeps stored
  refine ⟨fun other isOther => ?_, fun isRequested => ⟨_, rfl, .inr ⟨sets, ?_⟩⟩⟩
  · cases isOther
    refine (custody.counts stored found).change keeps ?_ ?_
    · intro isRetry
      rw [isRetry] at sets
      simp at sets
    · intro isResend
      rw [isResend] at sets
      simp at sets
  · unfold Record.IsReopened
    change 1 < (change stored).executionAttempt ∨ 0 < (change stored).resendAttempt
    rw [executed, resent]
    exact isReopened isRequested

end

/-- Work on an acked message has been reopened. -/
theorem RowCustody.reopened (custody : RowCustody row requested) (found : row = some stored)
    (works : stored.phase = .executing ∨ stored.phase = .result) (isRequested : requested) :
    stored.IsReopened := by
  obtain ⟨other, isOther, isDecided⟩ := custody.decided isRequested
  cases found.symm.trans isOther
  rcases isDecided with settled | ⟨-, isReopened⟩
  · rcases works with isPhase | isPhase
    · rw [isPhase] at settled
      simp at settled
    · rw [isPhase] at settled
      simp at settled
  · exact isReopened

/-- A new record that decides about the message, or that no ack was asked for. -/
theorem RowCustody.insert {inserted : DrainJournal} {row : Record}
    (isInserted : journal.insertRow row = some inserted) (isKey : row.key = key)
    (executed : row.executionAttempt = 1) (phase : row.phase ∈ [.rejected, .replyReceived, .executing])
    (decided : requested → row.phase ≠ .executing) :
    RowCustody (inserted.getRow key) requested := by
  rw [(getRow_insertRow isInserted).2, if_pos isKey.symm]
  refine ⟨fun other isOther => ?_, fun isRequested => ⟨row, rfl, .inl ?_⟩⟩
  · cases isOther
    refine ⟨by omega, fun isRetry => ?_, fun isResend => ?_⟩
    · rw [isRetry] at phase
      simp at phase
    · rw [isResend] at phase
      simp at phase
  · have notExecuting := decided isRequested
    revert phase notExecuting
    cases row.phase <;> simp

end

end Triangle.PeerDrain
