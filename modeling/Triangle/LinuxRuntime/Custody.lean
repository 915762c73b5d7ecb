import Triangle.LinuxRuntime.Contract

/-!
# The custody invariant

What the world keeps while processes run cycles and retries: the log counts at
most one start beyond the recorded failures, so that the starts of a delivery
are bounded by its retries; the record in the journal names an event of its
room; what was acknowledged has a reason among the events. Steps that leave the
journal alone are `Calm`, and those that acknowledge nothing `Quiet`.
-/

namespace Triangle.LinuxRuntime

open Triangle.Std Triangle.Semantics

/-! ## Counting starts -/

def Entry.isStart (deliveryId : Int) : Entry → Bool
  | .started other _ => other = deliveryId
  | _ => false

/-- How often the runner was started for a delivery. -/
def starts (deliveryId : Int) (log : List Entry) : Nat :=
  log.countP (Entry.isStart deliveryId)

/-- How many retries of a delivery were accepted. -/
def retries (deliveryId : Int) (log : List Entry) : Nat :=
  log.count (.retried deliveryId)

/-- An entry after which the runner may be started again. -/
def Entry.Settles (deliveryId : Int) (entry : Entry) : Prop :=
  entry = .knownFailure deliveryId ∨ entry = .retried deliveryId

/-- Between two starts of a delivery there is a known failure or a retry. -/
def Spaced (deliveryId : Int) (log : List Entry) : Prop :=
  ∀ first middle last begun again,
    log = first ++ .started deliveryId begun :: middle ++ .started deliveryId again :: last →
    ∃ entry ∈ middle, entry.Settles deliveryId

/-- The last start of the delivery has neither failed nor been retried. -/
def Pending (deliveryId : Int) (log : List Entry) : Prop :=
  ∃ first begun last, log = first ++ .started deliveryId begun :: last ∧
    ∀ entry ∈ last, ¬ entry.Settles deliveryId

section

variable {deliveryId : Int} {log : List Entry} {entry : Entry} {begun : Option Phase}

/-- Nothing is pending where nothing was started. -/
theorem not_pending_of_no_start (none : starts deliveryId log = 0) : ¬ Pending deliveryId log := by
  rintro ⟨first, begun, last, rfl, -⟩
  simp [starts, Entry.isStart] at none

theorem Pending.of_snoc (pending : Pending deliveryId (log ++ [entry])) :
    (∃ begun, entry = .started deliveryId begun) ∨
      Pending deliveryId log ∧ ¬ entry.Settles deliveryId := by
  obtain ⟨first, begun, last, same, unsettled⟩ := pending
  rcases List.eq_nil_or_concat' last with rfl | ⟨rest, final, rfl⟩
  · obtain ⟨-, isEntry⟩ := List.append_inj' same rfl
    exact .inl ⟨begun, List.head_eq_of_cons_eq isEntry⟩
  · rw [← List.cons_append, ← List.append_assoc] at same
    obtain ⟨rfl, isEntry⟩ := List.append_inj' same rfl
    obtain rfl := List.head_eq_of_cons_eq isEntry
    refine .inr ⟨⟨first, begun, rest, rfl, fun other member => ?_⟩, ?_⟩
    · exact unsettled other (List.mem_append_left _ member)
    · exact unsettled entry (List.mem_append_right _ List.mem_cons_self)

/-- A log stays spaced when nothing is started while a start is pending. -/
theorem Spaced.snoc (spaced : Spaced deliveryId log)
    (allowed : ∀ begun, entry = .started deliveryId begun → ¬ Pending deliveryId log) :
    Spaced deliveryId (log ++ [entry]) := by
  intro first middle last begun again same
  rcases List.eq_nil_or_concat' last with rfl | ⟨rest, final, rfl⟩
  · obtain ⟨rfl, isEntry⟩ := List.append_inj' same rfl
    by_contra unsettled
    rw [not_exists] at unsettled
    refine allowed again (List.head_eq_of_cons_eq isEntry) ⟨first, begun, middle, rfl, ?_⟩
    exact fun other member settles => unsettled other ⟨member, settles⟩
  · rw [← List.cons_append, ← List.append_assoc] at same
    obtain ⟨earlier, -⟩ := List.append_inj' same rfl
    exact spaced first middle rest begun again earlier

variable {entries : List Entry}

/-- The entries of one step that starts nothing for this delivery. -/
theorem Spaced.append (spaced : Spaced deliveryId log)
    (none : ∀ entry ∈ entries, entry.isStart deliveryId = false) :
    Spaced deliveryId (log ++ entries) := by
  induction entries generalizing log with
  | nil => simpa using spaced
  | cons entry rest ih =>
      rw [← List.singleton_append, ← List.append_assoc]
      refine ih (spaced.snoc ?_) fun other member =>
        none other (List.mem_cons_of_mem _ member)
      rintro begun rfl
      have isStart := none _ List.mem_cons_self
      simp [Entry.isStart] at isStart

section

variable (none : ∀ entry ∈ entries, entry.isStart deliveryId = false)
include none

/-- Entries that start nothing leave nothing new pending. -/
theorem Pending.of_append (pending : Pending deliveryId (log ++ entries)) :
    Pending deliveryId log := by
  induction entries generalizing log with
  | nil => simpa using pending
  | cons entry rest ih =>
      rw [← List.singleton_append, ← List.append_assoc] at pending
      rcases (ih (fun other member => none other (List.mem_cons_of_mem _ member))
        pending).of_snoc with ⟨begun, rfl⟩ | ⟨earlier, -⟩
      · have isStart := none _ List.mem_cons_self
        simp [Entry.isStart] at isStart
      · exact earlier

theorem starts_append : starts deliveryId (log ++ entries) = starts deliveryId log := by
  have noneCounted : entries.countP (Entry.isStart deliveryId) = 0 := by
    apply List.countP_eq_zero.mpr
    intro entry member isStart
    rw [none entry member] at isStart
    cases isStart
  rw [starts, List.countP_append, noneCounted]
  rfl

end

end

/-! ## The world -/

/-- The events of a room come in order, and no key of a sender comes twice. -/
structure Ordered (events : List Event) : Prop where
  rising : events.Pairwise fun first second =>
    first.roomId = second.roomId → first.sequence < second.sequence
  positive : ∀ event ∈ events, positive event.sequence = true
  unique : events.Pairwise fun first second => ¬ World.SameKey first second

/-- A room holds the event that is named. -/
def Named (events : List Event) (eventId roomId : String) (sequence : Int) : Prop :=
  ∃ event ∈ events, event.id = eventId ∧ event.roomId = roomId ∧ event.sequence = sequence

section

variable (custodian : Custodian)

/-- The room holds the delivered event, one the runner may be given. -/
def Handed (events : List Event) (record : Record) : Prop :=
  ∃ event ∈ events, IsInbound custodian record event

/-- The room holds the delivered event, and it asks for no reply. -/
def IsReceipt (events : List Event) (record : Record) : Prop :=
  ∃ event ∈ events, IsInbound custodian record event ∧ event.replyRequired = .flag false

/-- The room holds the reply of the record, with the journalled text. -/
def IsAnswered (events : List Event) (record : Record) : Prop :=
  ∃ event ∈ events, IsReply custodian record event

/-- What holds of the record in the journal. A start is allowed for in the phases
that come after one. -/
structure Journalled (world : World) (record : Record) : Prop where
  checked : record.Checked custodian
  spent : starts record.deliveryId world.log ≤
    min record.failureCount 2 + (if record.phase.isOpen = true then 0 else 1) +
      retries record.deliveryId world.log
  settled : record.phase.isOpen = true → ¬ Pending record.deliveryId world.log
  receipt : record.receiptOnly = some true → IsReceipt custodian world.events record
  handed : record.phase ≠ .prepared → record.phase ≠ .claimed →
    Handed custodian world.events record
  named : Named world.events record.eventId record.roomId record.roomSequence

/-- An entry that neither starts nor settles anything. -/
def Entry.IsInert : Entry → Prop
  | .started _ _ => False
  | .knownFailure _ => False
  | .retried _ => False
  | _ => True

/-- What an entry of the log says is so. -/
def Entry.IsSound (events : List Event) : Entry → Prop
  | .started _ begun => MayStart begun
  | .knownFailure _ => True
  | .retried _ => True
  | .claimed deliveryId claimId => claimId = custodian.deriveTrustedClaimId deliveryId
  | .replied deliveryId replyKey => replyKey = custodian.deriveTrustedReplyIdempotencyKey deliveryId
  | .acked sent journal => journal = some sent ∧ sent.IsBound custodian ∧
      (sent.receiptOnly = some true ∧ IsReceipt custodian events sent ∨
        IsAnswered custodian events sent)

/-- The invariant of the world. -/
structure Kept (world : World) : Prop where
  journal : ∀ record, world.journal = some record → Journalled custodian world record
  fresh : ∀ deliveryId, deliveryId ∉ world.acked →
    (∀ record, world.journal = some record → record.deliveryId ≠ deliveryId) →
    starts deliveryId world.log = 0
  bounded : ∀ deliveryId, starts deliveryId world.log ≤ 3 + retries deliveryId world.log
  spaced : ∀ deliveryId, Spaced deliveryId world.log
  sound : ∀ entry ∈ world.log, entry.IsSound custodian world.events
  lease : ∀ lease, world.lease = some lease → lease.record.IsBound custodian
  ordered : Ordered world.events
  deliveries : ∀ delivery ∈ world.deliveries, delivery.IsValid ∧
    Named world.events delivery.eventId delivery.roomId delivery.roomSequence

/-- The runner may be started for the admitted execution of this record. -/
structure Ready (world : World) (record : Record) (begun : Option Phase) : Prop where
  executing : record.phase = .executing
  mayStart : MayStart begun
  spent : starts record.deliveryId world.log ≤
    min record.failureCount 2 + retries record.deliveryId world.log
  settled : ¬ Pending record.deliveryId world.log

/-- What a process holds is so. -/
def HoldsIn (world : World) : Hold → Prop
  | .outside => True
  | .unread => True
  | .empty => world.journal = none ∧ world.begun = none
  | .choosing delivery => world.journal = none ∧ world.begun = none ∧
      delivery ∈ world.deliveries ∧ delivery.deliveryId ∉ world.acked
  | .journal record begun ready => world.journal = some record ∧ world.begun = begun ∧
      (ready = true → Ready world record begun)

/-- What a fact says. -/
def Fact.Holds (world : World) : Fact → Prop
  | .event posted => posted ∈ world.events
  | .acked deliveryId => deliveryId ∈ world.acked

/-- What a process knows holds; a process that holds something has the lock. -/
structure Knows (process : Nat) (world : World) (known : Known) : Prop where
  holder : Held known → world.holder = some process
  hold : HoldsIn world known.hold
  facts : ∀ fact ∈ known.facts, fact.Holds world

/-- A step that leaves the journal alone, and may add events, deliveries,
acknowledgements and entries that neither start nor settle anything. -/
structure Calm (world after : World) : Prop where
  journal : after.journal = world.journal
  begun : after.begun = world.begun
  acked : world.acked ⊆ after.acked
  events : world.events ⊆ after.events
  log : ∃ entries, after.log = world.log ++ entries ∧
    ∀ entry ∈ entries, entry.IsInert ∧ entry.IsSound custodian after.events
  lease : ∀ lease, after.lease = some lease → lease.record.IsBound custodian
  ordered : Ordered after.events
  offered : world.deliveries ⊆ after.deliveries
  deliveries : ∀ delivery ∈ after.deliveries, delivery.IsValid ∧
    Named after.events delivery.eventId delivery.roomId delivery.roomSequence

/-- A calm step without acknowledgements and of the same holder. -/
structure Quiet (world after : World) : Prop extends Calm custodian world after where
  unacked : after.acked = world.acked
  holder : after.holder = world.holder

end

section

variable {custodian : Custodian} {world after : World} {record : Record} {known : Known}

/-! ## Growing events -/

variable {events later : List Event}

theorem Named.grow {eventId roomId : String} {sequence : Int}
    (named : Named events eventId roomId sequence) (grows : events ⊆ later) :
    Named later eventId roomId sequence := by
  obtain ⟨event, member, same⟩ := named
  exact ⟨event, grows member, same⟩

theorem Handed.grow (handed : Handed custodian events record) (grows : events ⊆ later) :
    Handed custodian later record := by
  obtain ⟨event, member, isInbound⟩ := handed
  exact ⟨event, grows member, isInbound⟩

theorem IsReceipt.grow (receipt : IsReceipt custodian events record) (grows : events ⊆ later) :
    IsReceipt custodian later record := by
  obtain ⟨event, member, isInbound⟩ := receipt
  exact ⟨event, grows member, isInbound⟩

variable {entry : Entry} {event : Event}

theorem Entry.IsSound.grow (sound : entry.IsSound custodian events) (grows : events ⊆ later) :
    entry.IsSound custodian later := by
  cases entry with
  | acked sent journal =>
      obtain ⟨same, bound, reason⟩ := sound
      refine ⟨same, bound, reason.imp ?_ ?_⟩
      · exact fun ⟨isOnly, receipt⟩ => ⟨isOnly, receipt.grow grows⟩
      · exact fun ⟨event, member, isReply⟩ => ⟨event, grows member, isReply⟩
  | started | knownFailure | retried | claimed | replied => exact sound

/-- An event can be handed for every record of the delivery. -/
theorem IsInbound.same {other : Record} {event : Event} (same : record.SameDelivery other)
    (isInbound : IsInbound custodian record event) : IsInbound custodian other event := by
  obtain ⟨-, -, -, -, room, id, sequence, -, -⟩ := same
  exact ⟨by rw [isInbound.id, id], by rw [isInbound.room, room], by rw [isInbound.sequence, sequence],
    isInbound.type, isInbound.sender, isInbound.foreign, isInbound.text, isInbound.replyRequired⟩

/-- The event of a delivery is named by all its records. -/
theorem Named.same {events : List Event} {other : Record} (same : record.SameDelivery other)
    (named : Named events record.eventId record.roomId record.roomSequence) :
    Named events other.eventId other.roomId other.roomSequence := by
  obtain ⟨-, -, -, -, room, id, sequence, -, -⟩ := same
  rw [id, room, sequence]
  exact named

/-- A new event that fits keeps the order. -/
theorem Ordered.snoc (ordered : Ordered world.events) (fits : world.Fits event) :
    Ordered (world.events ++ [event]) where
  rising := by
    rw [List.pairwise_append]
    refine ⟨ordered.rising, List.pairwise_singleton _ _, fun first member second isLast same => ?_⟩
    obtain rfl := List.mem_singleton.mp isLast
    exact fits.1.2 first member same
  positive other member := by
    rcases List.mem_append.mp member with old | new
    · exact ordered.positive other old
    · obtain rfl := List.mem_singleton.mp new
      exact fits.1.1
  unique := by
    rw [List.pairwise_append]
    refine ⟨ordered.unique, List.pairwise_singleton _ _, fun first member second isLast => ?_⟩
    obtain rfl := List.mem_singleton.mp isLast
    exact fits.2 first member

/-! ## Quiet steps -/

theorem Entry.IsInert.isStart (inert : entry.IsInert) (deliveryId : Int) :
    entry.isStart deliveryId = false := by
  cases entry with
  | started other begun => cases inert
  | _ => rfl

section

variable (calm : Calm custodian world after)
include calm

theorem Calm.starts (deliveryId : Int) :
    LinuxRuntime.starts deliveryId after.log = LinuxRuntime.starts deliveryId world.log := by
  obtain ⟨entries, same, inert⟩ := calm.log
  rw [same]
  exact starts_append fun entry member => (inert entry member).1.isStart deliveryId

theorem Calm.retries (deliveryId : Int) :
    LinuxRuntime.retries deliveryId after.log = LinuxRuntime.retries deliveryId world.log := by
  obtain ⟨entries, same, inert⟩ := calm.log
  have none : entries.count (.retried deliveryId) = 0 :=
    List.count_eq_zero_of_not_mem fun member => (inert _ member).1
  rw [same, LinuxRuntime.retries, List.count_append, none]
  rfl

theorem Calm.pending {deliveryId : Int} (pending : Pending deliveryId after.log) :
    Pending deliveryId world.log := by
  obtain ⟨entries, same, inert⟩ := calm.log
  rw [same] at pending
  exact pending.of_append fun entry member => (inert entry member).1.isStart deliveryId

end

theorem Journalled.calm (journalled : Journalled custodian world record)
    (calm : Calm custodian world after) : Journalled custodian after record where
  checked := journalled.checked
  spent := by
    rw [calm.starts, calm.retries]
    exact journalled.spent
  settled isOpen pending := journalled.settled isOpen (calm.pending pending)
  receipt isOnly := (journalled.receipt isOnly).grow calm.events
  handed notPrepared notClaimed := (journalled.handed notPrepared notClaimed).grow calm.events
  named := journalled.named.grow calm.events

theorem Kept.calm (kept : Kept custodian world) (calm : Calm custodian world after) :
    Kept custodian after where
  journal record isJournal := (kept.journal record (calm.journal ▸ isJournal)).calm calm
  fresh deliveryId unacked isOther := by
    rw [calm.starts]
    rw [calm.journal] at isOther
    exact kept.fresh deliveryId (fun isAcked => unacked (calm.acked isAcked)) isOther
  bounded deliveryId := by
    rw [calm.starts, calm.retries]
    exact kept.bounded deliveryId
  spaced deliveryId := by
    obtain ⟨entries, same, inert⟩ := calm.log
    rw [same]
    exact (kept.spaced deliveryId).append fun entry member => (inert entry member).1.isStart deliveryId
  sound entry member := by
    obtain ⟨entries, same, inert⟩ := calm.log
    rw [same] at member
    rcases List.mem_append.mp member with old | new
    · exact (kept.sound entry old).grow calm.events
    · exact (inert entry new).2
  lease := calm.lease
  ordered := calm.ordered
  deliveries := calm.deliveries

/-- A journal that is held stays as it is. -/
theorem HoldsIn.calm {begun : Option Phase} {ready : Bool}
    (holds : HoldsIn world (.journal record begun ready)) (calm : Calm custodian world after) :
    HoldsIn after (.journal record begun ready) := by
  obtain ⟨isJournal, isBegun, isReady⟩ := holds
  refine ⟨calm.journal.trans isJournal, calm.begun.trans isBegun, fun started => ?_⟩
  obtain ⟨executing, mayStart, spent, settled⟩ := isReady started
  refine ⟨executing, mayStart, ?_, fun pending => settled (calm.pending pending)⟩
  rw [calm.starts, calm.retries]
  exact spent

theorem HoldsIn.quiet {hold : Hold} (holds : HoldsIn world hold)
    (quiet : Quiet custodian world after) : HoldsIn after hold := by
  cases hold with
  | outside | unread => trivial
  | empty => exact ⟨quiet.journal.trans holds.1, quiet.begun.trans holds.2⟩
  | choosing delivery =>
      obtain ⟨noJournal, notBegun, member, unacked⟩ := holds
      refine ⟨quiet.journal.trans noJournal, quiet.begun.trans notBegun, quiet.offered member, ?_⟩
      rw [quiet.unacked]
      exact unacked
  | journal record begun ready => exact HoldsIn.calm holds quiet.toCalm

theorem Fact.Holds.grow {fact : Fact} (holds : fact.Holds world)
    (events : world.events ⊆ after.events) (acked : world.acked ⊆ after.acked) :
    fact.Holds after := by
  cases fact with
  | event posted => exact events holds
  | acked deliveryId => exact acked holds

section

variable (kept : Kept custodian world)
include kept

/-- A step that changes at most the lease. -/
theorem Kept.quiet_of_lease {lease : Option Lease}
    (bound : ∀ held, lease = some held → held.record.IsBound custodian) :
    Quiet custodian world { world with lease } where
  journal := rfl
  begun := rfl
  acked := List.Subset.refl _
  unacked := rfl
  holder := rfl
  events := List.Subset.refl _
  offered := List.Subset.refl _
  log := ⟨[], (List.append_nil _).symm, fun _ member => nomatch member⟩
  lease := bound
  ordered := kept.ordered
  deliveries := kept.deliveries

theorem Kept.quiet_refl : Quiet custodian world world :=
  kept.quiet_of_lease kept.lease

/-- An inert entry is added. -/
theorem Kept.quiet_note (inert : entry.IsInert) (sound : entry.IsSound custodian world.events) :
    Quiet custodian world (world.note [entry]) where
  journal := rfl
  begun := rfl
  acked := List.Subset.refl _
  unacked := rfl
  holder := rfl
  events := List.Subset.refl _
  offered := List.Subset.refl _
  log := ⟨[entry], rfl, fun other member => by
    obtain rfl := List.mem_singleton.mp member
    exact ⟨inert, sound⟩⟩
  lease := kept.lease
  ordered := kept.ordered
  deliveries := kept.deliveries

/-- An event that fits is posted. -/
theorem Kept.quiet_post (fits : world.Fits event) :
    Quiet custodian world { world with events := world.events ++ [event] } where
  journal := rfl
  begun := rfl
  acked := List.Subset.refl _
  unacked := rfl
  holder := rfl
  events := List.subset_append_left _ _
  offered := List.Subset.refl _
  log := ⟨[], (List.append_nil _).symm, fun _ member => nomatch member⟩
  lease := kept.lease
  ordered := kept.ordered.snoc fits
  deliveries delivery member :=
    ⟨(kept.deliveries delivery member).1,
      (kept.deliveries delivery member).2.grow (List.subset_append_left _ _)⟩

end

theorem Quiet.trans {last : World} (first : Quiet custodian world after)
    (second : Quiet custodian after last) : Quiet custodian world last where
  journal := second.journal.trans first.journal
  begun := second.begun.trans first.begun
  acked := List.Subset.trans first.acked second.acked
  unacked := second.unacked.trans first.unacked
  holder := second.holder.trans first.holder
  events := List.Subset.trans first.events second.events
  offered := List.Subset.trans first.offered second.offered
  log := by
    obtain ⟨entries, same, inert⟩ := first.log
    obtain ⟨others, again, moreInert⟩ := second.log
    refine ⟨entries ++ others, ?_, fun entry member => ?_⟩
    · rw [again, same, List.append_assoc]
    · rcases List.mem_append.mp member with old | new
      · exact ⟨(inert entry old).1, (inert entry old).2.grow second.events⟩
      · exact moreInert entry new
  lease := second.lease
  ordered := second.ordered
  deliveries := second.deliveries

section

variable (kept : Kept custodian world)
include kept

/-- An aborted lease is of the same record. -/
theorem Kept.quiet_abort : Quiet custodian world world.abortLease := by
  apply kept.quiet_of_lease
  intro held isLease
  obtain ⟨lease, isOld, rfl⟩ := Option.map_eq_some_iff.mp isLease
  exact kept.lease lease isOld

theorem Kept.quiet_schedule (bound : record.IsBound custodian) (leaseExpiresAt now : Int) :
    Quiet custodian world (world.scheduled record leaseExpiresAt now) := by
  apply kept.quiet_of_lease
  intro held isLease
  obtain rfl := Option.some.inj isLease
  exact bound

theorem postReply_quiet (record : Record) (text : String) (choice : Choice) :
    Quiet custodian world (postReply custodian world record text choice).1 := by
  rw [postReply]
  split
  · exact kept.quiet_refl
  · dsimp only
    split
    next fits => exact kept.quiet_post fits
    next => exact kept.quiet_refl

/-- What happens besides the processes is quiet. -/
theorem surroundings_quiet (label : CustodianLabel) :
    Quiet custodian world (surroundings world label) := by
  cases label with
  | renew choice =>
      change Quiet custodian world (renewLease world choice)
      cases isLease : world.lease with
      | none =>
          rw [renewLease, isLease]
          exact kept.quiet_refl
      | some lease =>
          have bound := kept.lease lease isLease
          have sends : Quiet custodian world
              (world.note [.claimed lease.record.deliveryId lease.record.claimId]) :=
            kept.quiet_note trivial bound.claim
          simp only [renewLease, isLease]
          split
          · exact kept.quiet_refl
          · split
            · exact sends.trans ((kept.calm sends.toCalm).quiet_schedule bound _ _)
            · exact sends.trans (kept.calm sends.toCalm).quiet_abort
  | expire => exact kept.quiet_abort
  | abort =>
      apply kept.quiet_of_lease
      intro held isLease
      obtain ⟨lease, isOld, rfl⟩ := Option.map_eq_some_iff.mp isLease
      exact kept.lease lease isOld
  | arrive delivery =>
      dsimp only [surroundings]
      split
      next arrives =>
        refine { kept.quiet_refl with offered := List.subset_append_left _ _, deliveries := ?_ }
        intro other member
        rcases List.mem_append.mp member with old | new
        · exact kept.deliveries other old
        · obtain rfl := List.mem_singleton.mp new
          exact arrives
      next => exact kept.quiet_refl
  | post event =>
      dsimp only [surroundings]
      split
      next fits => exact kept.quiet_post fits
      next => exact kept.quiet_refl
  | start | resume | crash => exact kept.quiet_refl

end

end

end Triangle.LinuxRuntime
