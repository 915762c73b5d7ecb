import Triangle.LinuxRuntime.Custody

/-!
# Crash safety of the custodian

Each call that a process is entitled to keeps the custody invariant, and so does
every run: starts are bounded and spaced by known failures and retries, a cycle
that begins after a start does not start again, identifiers are derived, and
what is acknowledged has been answered or asked for no answer.
-/

namespace Triangle.LinuxRuntime

open Triangle.Std Triangle.Semantics

section

variable {custodian : Custodian} {world : World} {record old : Record} {known : Known}

/-! ## Saving -/

variable {entry : Entry} {deliveryId : Int} {delivery : Delivery} {request : Call}

/-- What saving adds to the log settles, and starts nothing. -/
theorem transition_settles (before : Option Record)
    (member : entry ∈ World.transition before record) : entry.Settles record.deliveryId := by
  cases before with
  | none => cases member
  | some before =>
      rcases List.mem_append.mp member with failure | retry
      · split at failure
        · exact .inl (List.mem_singleton.mp failure)
        · cases failure
      · split at retry
        · exact .inr (List.mem_singleton.mp retry)
        · cases retry

theorem Entry.Settles.isStart (settles : entry.Settles deliveryId) (other : Int) :
    entry.isStart other = false := by
  rcases settles with rfl | rfl <;> rfl

theorem transition_same (failures : record.failureCount = old.failureCount)
    (phase : record.phase ≠ .prepared) : World.transition (some old) record = [] := by
  simp [World.transition, failures, phase]

theorem starts_saved (deliveryId : Int) :
    starts deliveryId (world.saved record).log = starts deliveryId world.log :=
  starts_append fun _ member => (transition_settles _ member).isStart deliveryId

theorem retries_saved (deliveryId : Int) :
    retries deliveryId (world.saved record).log = retries deliveryId world.log +
      (World.transition world.journal record).count (.retried deliveryId) :=
  List.count_append

theorem pending_saved (pending : Pending deliveryId (world.saved record).log) :
    Pending deliveryId world.log :=
  pending.of_append fun _ member => (transition_settles _ member).isStart deliveryId

/-- A saved record that is sound leaves the rest of the world as it was. -/
theorem Kept.saved (kept : Kept custodian world)
    (same : ∀ old, world.journal = some old → record.deliveryId = old.deliveryId)
    (journalled : Journalled custodian (world.saved record) record) :
    Kept custodian (world.saved record) where
  journal other isJournal := by
    obtain rfl := Option.some.inj isJournal
    exact journalled
  fresh deliveryId unacked isOther := by
    rw [starts_saved]
    refine kept.fresh deliveryId unacked fun old isOld => ?_
    rw [← same old isOld]
    exact isOther record rfl
  bounded deliveryId := by
    have before := kept.bounded deliveryId
    rw [starts_saved, retries_saved]
    omega
  spaced deliveryId := (kept.spaced deliveryId).append
    fun _ member => (transition_settles _ member).isStart deliveryId
  sound entry member := by
    rcases List.mem_append.mp member with earlier | new
    · exact kept.sound entry earlier
    · rcases transition_settles _ new with rfl | rfl <;> trivial
  lease := kept.lease
  ordered := kept.ordered
  deliveries := kept.deliveries

/-- The moves that count no failure and are no retry. -/
theorem Journalled.move (journalled : Journalled custodian world old)
    (isJournal : world.journal = some old) (same : old.SameDelivery record)
    (checked : record.Checked custodian) (failures : record.failureCount = old.failureCount)
    (phase : record.phase ≠ .prepared)
    (isOpen : record.phase.isOpen = true → old.phase.isOpen = true)
    (receipt : record.receiptOnly = some true →
      old.receiptOnly = some true ∨ IsReceipt custodian world.events old)
    (handed : record.phase ≠ .claimed → Handed custodian world.events old) :
    Journalled custodian (world.saved record) record := by
  have log : (world.saved record).log = world.log := by
    rw [World.saved, World.note, isJournal, transition_same failures phase]
    exact List.append_nil _
  have delivery : record.deliveryId = old.deliveryId := same.2.2.2.1
  constructor
  · exact checked
  · rw [log, delivery, failures]
    have spent := journalled.spent
    by_cases opened : record.phase.isOpen = true
    · rw [if_pos (isOpen opened)] at spent
      rw [if_pos opened]
      exact spent
    · rw [if_neg opened]
      split at spent <;> omega
  · intro opened
    rw [log, delivery]
    exact journalled.settled (isOpen opened)
  · intro isOnly
    have found : IsReceipt custodian world.events old :=
      (receipt isOnly).elim journalled.receipt fun isReceipt => isReceipt
    obtain ⟨event, member, isInbound, required⟩ := found
    exact ⟨event, member, isInbound.same same, required⟩
  · intro _ notClaimed
    obtain ⟨event, member, isInbound⟩ := handed notClaimed
    exact ⟨event, member, isInbound.same same⟩
  · exact journalled.named.same same

theorem saved_log (isJournal : world.journal = some old) :
    (world.saved record).log = world.log ++ World.transition (some old) record := by
  rw [← isJournal]
  rfl

/-- After what settles a start, none is pending. -/
theorem not_pending_of_settled {log : List Entry} (settles : entry.Settles deliveryId) :
    ¬ Pending deliveryId (log ++ [entry]) := by
  intro pending
  rcases pending.of_snoc with ⟨begun, rfl⟩ | ⟨-, unsettled⟩
  · rcases settles with same | same <;> cases same
  · exact unsettled settles

/-- A known failure is counted, and the start that failed is settled. -/
theorem Journalled.failed (journalled : Journalled custodian world old)
    (isJournal : world.journal = some old) (executing : old.phase = .executing)
    (same : old.SameDelivery record) (checked : record.Checked custodian)
    (failures : record.failureCount = old.failureCount + 1)
    (phase : record.phase = if 3 ≤ old.failureCount + 1 then .quarantined else .failed)
    (receipt : record.receiptOnly = old.receiptOnly) :
    Journalled custodian (world.saved record) record := by
  have delivery : record.deliveryId = old.deliveryId := same.2.2.2.1
  have notPrepared : record.phase ≠ .prepared := by
    rw [phase]
    split <;> exact nofun
  have log : (world.saved record).log = world.log ++ [.knownFailure record.deliveryId] := by
    rw [saved_log isJournal]
    simp [World.transition, failures, notPrepared]
  have spent := journalled.spent
  have notOpen : ¬ old.phase.isOpen = true := by
    rw [executing]
    decide
  rw [if_neg notOpen] at spent
  constructor
  · exact checked
  · have counted : starts record.deliveryId (world.saved record).log =
        starts old.deliveryId world.log := by
      rw [starts_saved, delivery]
    have retried : retries old.deliveryId world.log ≤
        retries record.deliveryId (world.saved record).log := by
      rw [retries_saved, delivery]
      omega
    rw [counted, failures]
    by_cases last : 3 ≤ old.failureCount + 1
    · have isQuarantined : ¬ record.phase.isOpen = true := by
        rw [phase, if_pos last]
        decide
      rw [if_neg isQuarantined]
      omega
    · omega
  · intro _
    rw [log]
    exact not_pending_of_settled (.inl rfl)
  · intro isOnly
    obtain ⟨event, member, isInbound, required⟩ := journalled.receipt (receipt ▸ isOnly)
    exact ⟨event, member, isInbound.same same, required⟩
  · intro _ _
    obtain ⟨event, member, isInbound⟩ := journalled.handed (executing ▸ nofun) (executing ▸ nofun)
    exact ⟨event, member, isInbound.same same⟩
  · exact journalled.named.same same

/-- A retry allows for one more start. -/
theorem Journalled.retried (journalled : Journalled custodian world old)
    (isJournal : world.journal = some old) (now : Int)
    (checked : (old.retried now).Checked custodian) :
    Journalled custodian (world.saved (old.retried now)) (old.retried now) := by
  have log : (world.saved (old.retried now)).log = world.log ++ [.retried old.deliveryId] := by
    rw [saved_log isJournal]
    simp [World.transition, Record.retried]
  have spent := journalled.spent
  constructor
  · exact checked
  · have counted : retries old.deliveryId (world.saved (old.retried now)).log =
        retries old.deliveryId world.log + 1 := by
      rw [log, retries, List.count_append, List.count_singleton_self]
      rfl
    change starts old.deliveryId _ ≤ min old.failureCount 2 + 0 + retries old.deliveryId _
    rw [starts_saved, counted]
    split at spent <;> omega
  · intro _
    change ¬ Pending old.deliveryId _
    rw [log]
    exact not_pending_of_settled (.inr rfl)
  · intro isOnly
    obtain ⟨event, member, isInbound, required⟩ := journalled.receipt isOnly
    exact ⟨event, member, isInbound.same (old.retried_same now), required⟩
  · exact fun notPrepared => absurd rfl notPrepared
  · exact journalled.named

/-- A delivery that was never started is prepared. -/
theorem Journalled.prepare (kept : Kept custodian world) (noJournal : world.journal = none)
    (isListed : delivery ∈ world.deliveries) (unacked : delivery.deliveryId ∉ world.acked)
    (createdAt updatedAt : Int)
    (checked : (custodian.prepared delivery createdAt updatedAt).Checked custodian) :
    Journalled custodian (world.saved (custodian.prepared delivery createdAt updatedAt))
      (custodian.prepared delivery createdAt updatedAt) := by
  have notStarted : starts delivery.deliveryId world.log = 0 := by
    apply kept.fresh delivery.deliveryId unacked
    intro old isOld
    rw [noJournal] at isOld
    cases isOld
  constructor
  · exact checked
  · rw [starts_saved]
    change starts delivery.deliveryId world.log ≤ _
    omega
  · exact fun _ pending => not_pending_of_no_start notStarted (pending_saved pending)
  · exact fun isOnly => nomatch isOnly
  · exact fun notPrepared => absurd rfl notPrepared
  · exact (kept.deliveries delivery isListed).2

/-- A record of a started delivery has an event that was handed. -/
theorem Journalled.handed_of_started (journalled : Journalled custodian world old)
    (started : old.phase ∈ [Phase.executing, .replying, .replied]) :
    Handed custodian world.events old := by
  have late : ∀ phase ∈ [Phase.executing, .replying, .replied],
      phase ≠ .prepared ∧ phase ≠ .claimed := by
    decide
  obtain ⟨notPrepared, notClaimed⟩ := late old.phase started
  exact journalled.handed notPrepared notClaimed

/-- The journal that a process holds. -/
theorem Hold.IsIn.journal {phases : List Phase} (isIn : known.hold.IsIn old phases)
    (holds : HoldsIn world known.hold) :
    world.journal = some old ∧ world.begun = known.hold.begun := by
  obtain ⟨begun, ready, hold⟩ := isIn.1
  rw [hold] at holds ⊢
  exact ⟨holds.1, holds.2.1⟩

/-- What each move leaves in the journal. -/
theorem Move.journalled (kept : Kept custodian world) (holds : HoldsIn world known.hold)
    (facts : ∀ fact ∈ known.facts, fact.Holds world) (move : Move custodian known record)
    (checked : record.Checked custodian) :
    Journalled custodian (world.saved record) record := by
  cases move with
  | prepare choosing createdAt updatedAt =>
      rw [choosing] at holds
      exact Journalled.prepare kept holds.1 holds.2.2.1 holds.2.2.2 createdAt updatedAt checked
  | @claimed old isIn now =>
      have isJournal := (isIn.journal holds).1
      refine (kept.journal old isJournal).move isJournal (old.enter_same _ now) checked rfl nofun
        (fun _ => ?_) .inl fun notClaimed => absurd rfl notClaimed
      simpa [Phase.isOpen] using isIn.2
  | @receipt old event isIn seen isInbound isReceipt now =>
      have isJournal := (isIn.journal holds).1
      have member := facts _ seen
      exact (kept.journal old isJournal).move isJournal (Record.enter_same _ _ now) checked rfl nofun
        nofun (fun _ => .inr ⟨event, member, isInbound, isReceipt⟩) fun _ => ⟨event, member, isInbound⟩
  | @executing old event isIn mayStart seen isInbound now =>
      have isJournal := (isIn.journal holds).1
      exact (kept.journal old isJournal).move isJournal (Record.enter_same _ _ now) checked rfl nofun
        nofun .inl fun _ => ⟨event, facts _ seen, isInbound⟩
  | @failed old isIn next now =>
      have isJournal := (isIn.journal holds).1
      exact (kept.journal old isJournal).failed isJournal (List.mem_singleton.mp isIn.2)
        (Record.enter_same _ _ now) checked rfl rfl rfl
  | @quarantined old isIn reason now =>
      have isJournal := (isIn.journal holds).1
      have journalled := kept.journal old isJournal
      exact journalled.move isJournal (Record.enter_same _ _ now) checked rfl nofun nofun .inl
        fun _ => journalled.handed_of_started isIn.2
  | @replying old isIn digest now =>
      have isJournal := (isIn.journal holds).1
      have journalled := kept.journal old isJournal
      have started : old.phase ∈ [Phase.executing, .replying, .replied] :=
        List.mem_singleton.mp isIn.2 ▸ List.mem_cons_self
      exact journalled.move isJournal (Record.enter_same _ _ now) checked rfl nofun nofun .inl
        fun _ => journalled.handed_of_started started
  | @replied old event isIn seen isReply now =>
      have isJournal := (isIn.journal holds).1
      have journalled := kept.journal old isJournal
      exact journalled.move isJournal (Record.enter_same _ _ now) checked rfl nofun nofun .inl
        fun _ => journalled.handed_of_started isIn.2
  | @retried old isIn now =>
      have isJournal := (isIn.journal holds).1
      exact (kept.journal old isJournal).retried isJournal now checked

/-- Saving keeps the delivery of the journal. -/
theorem Move.sameDelivery (holds : HoldsIn world known.hold) (move : Move custodian known record) :
    ∀ old, world.journal = some old → record.deliveryId = old.deliveryId := by
  intro other isOther
  have found : ∀ {old : Record} {phases : List Phase}, known.hold.IsIn old phases →
      old.deliveryId = other.deliveryId := by
    intro old phases isIn
    have isJournal := (isIn.journal holds).1
    rw [isOther] at isJournal
    rw [Option.some.inj isJournal]
  cases move with
  | prepare choosing createdAt updatedAt =>
      rw [choosing] at holds
      rw [holds.1] at isOther
      cases isOther
  | claimed isIn now =>
      have same := found isIn
      exact same
  | receipt isIn seen isInbound isReceipt now =>
      have same := found isIn
      exact same
  | executing isIn mayStart seen isInbound now =>
      have same := found isIn
      exact same
  | failed isIn next now =>
      have same := found isIn
      exact same
  | quarantined isIn reason now =>
      have same := found isIn
      exact same
  | replying isIn digest now =>
      have same := found isIn
      exact same
  | replied isIn seen isReply now =>
      have same := found isIn
      exact same
  | retried isIn now =>
      have same := found isIn
      exact same

/-- A save keeps the invariant. -/
theorem Move.kept (kept : Kept custodian world) (holds : HoldsIn world known.hold)
    (facts : ∀ fact ∈ known.facts, fact.Holds world) (move : Move custodian known record)
    (checked : record.Checked custodian) : Kept custodian (world.saved record) :=
  kept.saved (move.sameDelivery holds) (move.journalled kept holds facts checked)

section

variable (kept : Kept custodian world)
include kept

/-- What a process holds after a save: an execution that it admitted is ready. -/
theorem Move.holds (holds : HoldsIn world known.hold) (move : Move custodian known record) :
    HoldsIn (world.saved record)
      (.journal record known.hold.begun (record.phase = .executing)) := by
  have begun : world.begun = known.hold.begun := by
    cases hold : known.hold with
    | journal | choosing =>
        rw [hold] at holds
        exact holds.2.1
    | empty =>
        rw [hold] at holds
        exact holds.2
    | outside | unread => cases move <;> simp_all [Hold.IsIn]
  refine ⟨rfl, begun, fun isExecuting => ?_⟩
  have executing : record.phase = .executing := of_decide_eq_true isExecuting
  cases move with
  | @executing old event isIn mayStart seen isInbound now =>
      have isJournal := (isIn.journal holds).1
      have journalled := kept.journal old isJournal
      have claimed : old.phase = .claimed := List.mem_singleton.mp isIn.2
      have spent := journalled.spent
      rw [claimed] at spent
      refine ⟨executing, mayStart, ?_, fun pending => ?_⟩
      · rw [starts_saved, retries_saved]
        change starts old.deliveryId world.log ≤
          min old.failureCount 2 + (retries old.deliveryId world.log + _)
        change _ ≤ min old.failureCount 2 + 0 + _ at spent
        omega
      · exact journalled.settled (claimed ▸ rfl) (pending_saved pending)
  | @failed old isIn next now =>
      change (if 3 ≤ old.failureCount + 1 then Phase.quarantined else .failed) = _ at executing
      split at executing <;> cases executing
  | prepare | claimed | receipt | quarantined | replying | replied | retried => cases executing

/-! ## Starting, acknowledging, clearing -/

/-- A ready execution is started once. -/
theorem Kept.started {begun : Option Phase} (holds : HoldsIn world (.journal record begun true)) :
    Kept custodian (world.note [.started record.deliveryId world.begun]) := by
  obtain ⟨isJournal, isBegun, isReady⟩ := holds
  obtain ⟨executing, mayStart, spent, settled⟩ := isReady rfl
  have journalled := kept.journal record isJournal
  have mine : starts record.deliveryId (world.note [.started record.deliveryId world.begun]).log =
      starts record.deliveryId world.log + 1 := by
    simp [starts, World.note, Entry.isStart]
  have others : ∀ deliveryId, deliveryId ≠ record.deliveryId →
      starts deliveryId (world.note [.started record.deliveryId world.begun]).log =
        starts deliveryId world.log := by
    intro deliveryId other
    apply starts_append
    intro entry member
    obtain rfl := List.mem_singleton.mp member
    exact decide_eq_false fun same => other same.symm
  have retried : ∀ deliveryId,
      retries deliveryId (world.note [.started record.deliveryId world.begun]).log =
        retries deliveryId world.log := by
    intro deliveryId
    simp [retries, World.note]
  constructor
  · intro other isOther
    obtain rfl := Option.mem_unique isJournal isOther
    refine ⟨journalled.checked, ?_, ?_, journalled.receipt, journalled.handed, journalled.named⟩
    · rw [mine, retried, executing]
      change _ ≤ _ + 1 + _
      omega
    · intro isOpen
      rw [executing] at isOpen
      cases isOpen
  · intro deliveryId unacked isOther
    rw [others deliveryId (Ne.symm (isOther record isJournal))]
    exact kept.fresh deliveryId unacked isOther
  · intro deliveryId
    have before := kept.bounded deliveryId
    rw [retried]
    by_cases same : deliveryId = record.deliveryId
    · subst same
      rw [mine]
      omega
    · rw [others deliveryId same]
      exact before
  · intro deliveryId
    apply (kept.spaced deliveryId).snoc
    intro began same
    obtain ⟨rfl, -⟩ := Entry.started.inj same
    exact settled
  · intro entry member
    rcases List.mem_append.mp member with earlier | new
    · exact kept.sound entry earlier
    · obtain rfl := List.mem_singleton.mp new
      change MayStart world.begun
      rw [isBegun]
      exact mayStart
  · exact kept.lease
  · exact kept.ordered
  · exact kept.deliveries

/-- An acknowledgement that has a reason is sent. -/
theorem Kept.calm_ack (holds : HoldsIn world known.hold)
    (facts : ∀ fact ∈ known.facts, fact.Holds world) (bound : record.IsBound custodian)
    (isIn : known.hold.IsIn record [.replied]) (reason : AckReason custodian known record)
    {acked : List Int} (grows : world.acked ⊆ acked) :
    Calm custodian world { world.note [.acked record world.journal] with acked } where
  journal := rfl
  begun := rfl
  acked := grows
  events := List.Subset.refl _
  offered := List.Subset.refl _
  log := by
    refine ⟨[.acked record world.journal], rfl, fun entry member => ?_⟩
    obtain rfl := List.mem_singleton.mp member
    have isJournal := (isIn.journal holds).1
    refine ⟨trivial, isJournal, bound, ?_⟩
    rcases reason with isOnly | ⟨event, seen, isReply⟩
    · exact .inl ⟨isOnly, (kept.journal record isJournal).receipt isOnly⟩
    · exact .inr ⟨event, facts _ seen, isReply⟩
  lease := kept.lease
  ordered := kept.ordered
  deliveries := kept.deliveries

/-- The journal of an acknowledged delivery is cleared. -/
theorem Kept.cleared (isJournal : world.journal = some record)
    (acked : record.deliveryId ∈ world.acked) : Kept custodian { world with journal := none } where
  journal _ isOther := nomatch isOther
  fresh deliveryId unacked _ := by
    apply kept.fresh deliveryId unacked
    intro other isOther
    obtain rfl := Option.mem_unique isJournal isOther
    rintro rfl
    exact unacked acked
  bounded := kept.bounded
  spaced := kept.spaced
  sound := kept.sound
  lease := kept.lease
  ordered := kept.ordered
  deliveries := kept.deliveries

end

/-! ## One call -/

/-- The calls that leave the journal, the lock and the acknowledgements alone. -/
def Call.isQuiet : Call → Bool
  | .lock => false
  | .unlock => false
  | .readJournal => false
  | .writeJournal _ => false
  | .removeJournal => false
  | .ackDelivery _ => false
  | .run _ _ => false
  | _ => true

theorem perform_quiet (kept : Kept custodian world) (process : Nat) (request : Call)
    (choice : Choice) (allowed : Allowed custodian known request) (isQuiet : request.isQuiet = true) :
    Quiet custodian world (perform custodian process world request choice).1 := by
  have refl := kept.quiet_refl
  cases request with
  | lock | unlock | readJournal | writeJournal | removeJournal | ackDelivery | run => cases isQuiet
  | throwIfAborted | now | writeHealth | readHealth | verify | listMailbox | signals | history =>
      exact refl
  | claimDelivery record =>
      have bound : record.IsBound custodian := allowed
      exact kept.quiet_note trivial bound.claim
  | schedule record leaseExpiresAt => exact kept.quiet_schedule allowed _ _
  | endLease => exact kept.quiet_of_lease fun _ none => nomatch none
  | assertOwner =>
      dsimp only [perform]
      split
      · exact kept.quiet_abort
      · exact refl
  | postEvent record text =>
      have bound : record.IsBound custodian := allowed
      have sends : Quiet custodian world (world.note [.replied record.deliveryId record.replyKey]) :=
        kept.quiet_note trivial bound.reply
      dsimp only [perform]
      split
      · exact sends.trans (postReply_quiet (kept.calm sends.toCalm) record text choice)
      · exact sends

/-- Whoever is entitled to one of the other calls has the lock. -/
theorem held_of_allowed (allowed : Allowed custodian known request) (loud : request.isQuiet = false)
    (notLock : request ≠ .lock) : Held known := by
  cases request with
  | lock => exact absurd rfl notLock
  | unlock | readJournal => exact allowed
  | writeJournal record =>
      have held : ∀ {old : Record} {phases : List Phase}, known.hold.IsIn old phases → Held known := by
        rintro old phases ⟨⟨begun, ready, hold⟩, -⟩
        exact held_of_hold hold
      cases allowed.1 with
      | prepare choosing createdAt updatedAt =>
          rw [Held, choosing]
          rintro ⟨⟩
      | claimed isIn now => exact held isIn
      | receipt isIn seen isInbound isReceipt now => exact held isIn
      | executing isIn mayStart seen isInbound now => exact held isIn
      | failed isIn next now => exact held isIn
      | quarantined isIn reason now => exact held isIn
      | replying isIn digest now => exact held isIn
      | replied isIn seen isReply now => exact held isIn
      | retried isIn now => exact held isIn
  | removeJournal =>
      obtain ⟨record, begun, ready, hold, -⟩ := allowed
      exact held_of_hold hold
  | ackDelivery record =>
      obtain ⟨-, ⟨⟨begun, ready, hold⟩, -⟩, -⟩ := allowed
      exact held_of_hold hold
  | run record inbound =>
      obtain ⟨begun, hold⟩ := allowed
      exact held_of_hold hold
  | throwIfAborted | now | writeHealth | readHealth | verify | listMailbox | signals | history
  | claimDelivery | schedule | endLease | assertOwner | postEvent => cases loud

section

variable (kept : Kept custodian world)
include kept

/-- The lock, the lease and the phase that was read are not part of the invariant. -/
theorem Kept.relocked (holder : Option Nat) :
    Kept custodian { world with holder, lease := none } where
  journal record isJournal :=
    let journalled := kept.journal record isJournal
    ⟨journalled.checked, journalled.spent, journalled.settled, journalled.receipt,
      journalled.handed, journalled.named⟩
  fresh := kept.fresh
  bounded := kept.bounded
  spaced := kept.spaced
  sound := kept.sound
  lease _ isLease := nomatch isLease
  ordered := kept.ordered
  deliveries := kept.deliveries

theorem Kept.read (begun : Option Phase) :
    Kept custodian { world with begun } where
  journal record isJournal :=
    let journalled := kept.journal record isJournal
    ⟨journalled.checked, journalled.spent, journalled.settled, journalled.receipt,
      journalled.handed, journalled.named⟩
  fresh := kept.fresh
  bounded := kept.bounded
  spaced := kept.spaced
  sound := kept.sound
  lease := kept.lease
  ordered := kept.ordered
  deliveries := kept.deliveries

/-- An allowed call keeps the invariant of the world. -/
theorem Kept.perform {process : Nat} (knows : Knows process world known) (request : Call)
    (choice : Choice) (allowed : Allowed custodian known request) :
    Kept custodian (LinuxRuntime.perform custodian process world request choice).1 := by
  by_cases isQuiet : request.isQuiet = true
  · exact kept.calm (perform_quiet kept process request choice allowed isQuiet).toCalm
  · cases request with
    | lock =>
        dsimp only [LinuxRuntime.perform]
        split
        · exact kept.relocked _
        · exact kept
    | unlock => exact kept.relocked _
    | readJournal =>
        dsimp only [LinuxRuntime.perform]
        split
        · exact kept.read _
        · exact kept
    | writeJournal record =>
        have saved := allowed.1.kept kept knows.hold knows.facts allowed.2
        dsimp only [LinuxRuntime.perform]
        cases choice.fate with
        | success | failAfter => exact saved
        | failBefore => exact kept
    | removeJournal =>
        obtain ⟨record, begun, ready, hold, acked⟩ := allowed
        have holds := knows.hold
        rw [hold] at holds
        have cleared := kept.cleared holds.1 (knows.facts _ acked)
        dsimp only [LinuxRuntime.perform]
        cases choice.fate with
        | success | failAfter => exact cleared
        | failBefore => exact kept
    | ackDelivery record =>
        obtain ⟨bound, isIn, reason⟩ := allowed
        dsimp only [LinuxRuntime.perform]
        split
        · exact kept.calm
            (kept.calm_ack knows.hold knows.facts bound isIn reason (List.subset_cons_self _ _))
        · exact kept.calm
            (kept.calm_ack knows.hold knows.facts bound isIn reason (List.Subset.refl world.acked))
    | run record inbound =>
        obtain ⟨begun, hold⟩ := allowed
        have holds := knows.hold
        rw [hold] at holds
        exact kept.started holds
    | _ => exact absurd rfl isQuiet

end

/-- The events and the acknowledgements only grow. -/
theorem perform_grows (process : Nat) (request : Call) (choice : Choice) :
    world.events ⊆ (perform custodian process world request choice).1.events ∧
      world.acked ⊆ (perform custodian process world request choice).1.acked := by
  have refl : world.events ⊆ world.events ∧ world.acked ⊆ world.acked :=
    ⟨List.Subset.refl _, List.Subset.refl _⟩
  cases request with
  | lock | readJournal =>
      dsimp only [perform]
      split <;> exact refl
  | writeJournal | removeJournal =>
      dsimp only [perform]
      cases choice.fate <;> exact refl
  | assertOwner =>
      dsimp only [perform]
      split <;> exact refl
  | ackDelivery record =>
      dsimp only [perform]
      split
      · exact ⟨List.Subset.refl _, List.subset_cons_self _ _⟩
      · exact refl
  | postEvent record text =>
      dsimp only [perform]
      split
      · rw [postReply]
        split
        · exact refl
        · dsimp only
          split
          · exact ⟨List.subset_append_left _ _, List.Subset.refl _⟩
          · exact refl
      · exact refl
  | _ => exact refl

/-- Only taking and leaving the lock change its holder. -/
theorem perform_holder (kept : Kept custodian world) {process : Nat}
    (request : Call) (choice : Choice) (allowed : Allowed custodian known request)
    (notLock : request ≠ .lock) (notUnlock : request ≠ .unlock) :
    (perform custodian process world request choice).1.holder = world.holder := by
  by_cases isQuiet : request.isQuiet = true
  · exact (perform_quiet kept process request choice allowed isQuiet).holder
  · cases request with
    | lock => exact absurd rfl notLock
    | unlock => exact absurd rfl notUnlock
    | readJournal =>
        dsimp only [perform]
        split <;> rfl
    | writeJournal | removeJournal =>
        dsimp only [perform]
        cases choice.fate <;> rfl
    | ackDelivery record =>
        dsimp only [perform]
        split <;> rfl
    | run record inbound => rfl
    | _ => exact absurd rfl isQuiet

/-- A delivery that is listed was not acknowledged. -/
theorem mem_listed (member : delivery ∈ world.listed) :
    delivery ∈ world.deliveries ∧ delivery.deliveryId ∉ world.acked := by
  have isPending := List.mem_of_mem_take member
  rw [List.mem_filter, decide_eq_true_eq] at isPending
  exact isPending

/-- The facts in an answer hold. -/
theorem facts_hold (process : Nat) (request : Call) (choice : Choice) :
    ∀ fact ∈ factsOf request (perform custodian process world request choice).2,
      fact.Holds (perform custodian process world request choice).1 := by
  intro fact member
  cases request with
  | history record after limit =>
      cases network : choice.network with
      | failed arrives problem => simp [perform, network, Network.answer, factsOf] at member
      | answered =>
          simp only [perform, network, Network.answer, factsOf, List.mem_map] at member
          obtain ⟨event, inPage, rfl⟩ := member
          have filtered := List.mem_of_mem_take inPage
          exact (List.mem_filter.mp filtered).1
  | postEvent record text =>
      cases network : choice.network with
      | failed arrives problem =>
          cases arrives <;> simp [perform, network, Network.answer, Network.arrives, factsOf] at member
      | answered =>
          simp only [perform, network, Network.arrives, if_true, Network.answer] at member ⊢
          rw [postReply] at member ⊢
          split at member
          next event found =>
            obtain rfl := List.mem_singleton.mp member
            exact List.mem_of_find?_eq_some found
          next =>
            dsimp only at member ⊢
            split at member
            next fits =>
              obtain rfl := List.mem_singleton.mp member
              rw [if_pos fits]
              exact List.mem_append_right _ List.mem_cons_self
            next => cases member
  | ackDelivery record =>
      cases network : choice.network with
      | failed arrives problem =>
          cases arrives <;> simp [perform, network, Network.answer, Network.arrives, factsOf] at member
      | answered =>
          simp only [perform, network, Network.arrives, if_true, Network.answer, factsOf,
            List.mem_singleton] at member ⊢
          subst member
          exact List.mem_cons_self
  | _ => cases member

/-- What the process holds after its call. -/
theorem holds_after (kept : Kept custodian world) {process : Nat}
    (knows : Knows process world known) (request : Call) (choice : Choice)
    (allowed : Allowed custodian known request) :
    HoldsIn (perform custodian process world request choice).1
      (holdAfter known.hold request (perform custodian process world request choice).2) := by
  have holds := knows.hold
  by_cases isQuiet : request.isQuiet = true
  · have quiet := perform_quiet kept process request choice allowed isQuiet
    have still := HoldsIn.quiet holds quiet
    cases request with
    | listMailbox =>
        change HoldsIn world (holdAfter known.hold .listMailbox (choice.network.answer world.listed))
        cases choice.network with
        | failed arrives problem => exact holds
        | answered =>
            cases listed : world.listed with
            | nil => exact holds
            | cons delivery rest =>
                have isListed := mem_listed (listed ▸ List.mem_cons_self : delivery ∈ world.listed)
                cases hold : known.hold with
                | empty =>
                    rw [hold] at holds
                    exact ⟨holds.1, holds.2, isListed⟩
                | outside | unread => trivial
                | choosing other =>
                    rw [hold] at holds
                    exact holds
                | journal record begun ready =>
                    rw [hold] at holds
                    exact holds
    | lock | unlock | readJournal | writeJournal | removeJournal | ackDelivery | run =>
        cases isQuiet
    | throwIfAborted | now | writeHealth | readHealth | verify | signals | history
    | claimDelivery | schedule | endLease | assertOwner | postEvent => exact still
  · cases request with
    | lock =>
        have outside : known.hold = .outside := allowed
        dsimp only [perform]
        split
        · trivial
        · rw [outside]
          trivial
    | unlock => trivial
    | readJournal =>
        dsimp only [perform]
        split
        · cases world.journal with
          | none => exact ⟨rfl, rfl⟩
          | some record => exact ⟨rfl, rfl, nofun⟩
        · exact holds
    | writeJournal record =>
        have saved := allowed.1.holds kept holds
        dsimp only [perform]
        cases choice.fate with
        | success => exact saved
        | failAfter | failBefore => trivial
    | removeJournal =>
        cases (perform custodian process world .removeJournal choice).2 <;> trivial
    | ackDelivery record =>
        obtain ⟨bound, isIn, reason⟩ := allowed
        obtain ⟨begun, ready, hold⟩ := isIn.1
        have same : ∀ answer, holdAfter known.hold (.ackDelivery record) answer = known.hold := by
          intro answer
          cases answer <;> rfl
        rw [same]
        rw [hold] at holds ⊢
        dsimp only [perform]
        split
        · exact HoldsIn.calm holds (kept.calm_ack knows.hold knows.facts bound isIn reason
            (List.subset_cons_self _ _))
        · exact HoldsIn.calm holds (kept.calm_ack knows.hold knows.facts bound isIn reason
            (List.Subset.refl world.acked))
    | run record inbound =>
        obtain ⟨begun, hold⟩ := allowed
        rw [hold] at holds ⊢
        exact ⟨holds.1, holds.2.1, nofun⟩
    | _ => exact absurd rfl isQuiet

/-- A quiet call takes no lock. -/
theorem holdAfter_outside (isQuiet : request.isQuiet = true) (answer : Answer request) :
    holdAfter .outside request answer = .outside := by
  cases request with
  | lock | unlock | readJournal | writeJournal | removeJournal | ackDelivery | run => cases isQuiet
  | listMailbox => rcases answer with problem | _ | ⟨delivery, rest⟩ <;> rfl
  | _ => rfl

/-- What the caller knows after its call holds. -/
theorem Knows.perform (kept : Kept custodian world) {process : Nat}
    (knows : Knows process world known) (request : Call) (choice : Choice)
    (allowed : Allowed custodian known request) :
    Knows process (LinuxRuntime.perform custodian process world request choice).1
      (learn known request (LinuxRuntime.perform custodian process world request choice).2) where
  holder held := by
    by_cases isLock : request = .lock
    · subst isLock
      have outside : known.hold = .outside := allowed
      dsimp only [LinuxRuntime.perform] at held ⊢
      split
      · rfl
      next notFree =>
        rw [if_neg notFree] at held
        exact absurd outside held
    · by_cases isUnlock : request = .unlock
      · subst isUnlock
        exact absurd rfl held
      · rw [perform_holder kept request choice allowed isLock isUnlock]
        apply knows.holder
        by_cases isQuiet : request.isQuiet = true
        · rintro outside
          apply held
          change holdAfter known.hold request _ = _
          rw [outside]
          exact holdAfter_outside isQuiet _
        · exact held_of_allowed allowed (by simpa using isQuiet) isLock
  hold := holds_after kept knows request choice allowed
  facts fact member := by
    rcases List.mem_append.mp member with new | old
    · exact facts_hold process request choice fact new
    · obtain ⟨events, acked⟩ := @perform_grows custodian world process request choice
      exact (knows.facts fact old).grow events acked

/-- A call takes nothing from what another process knows. -/
theorem Knows.others (kept : Kept custodian world) {process other : Nat}
    (knows : Knows process world known) {otherKnown : Known}
    (otherKnows : Knows other world otherKnown) (different : other ≠ process) (request : Call)
    (choice : Choice) (allowed : Allowed custodian known request) :
    Knows other (LinuxRuntime.perform custodian process world request choice).1 otherKnown := by
  obtain ⟨events, acked⟩ := @perform_grows custodian world process request choice
  have facts : ∀ fact ∈ otherKnown.facts,
      fact.Holds (LinuxRuntime.perform custodian process world request choice).1 :=
    fun fact member => (otherKnows.facts fact member).grow events acked
  by_cases held : Held otherKnown
  · have isHolder := otherKnows.holder held
    -- The lock is with the other process, so this one can only do what is quiet.
    by_cases isQuiet : request.isQuiet = true
    · have quiet := perform_quiet kept process request choice allowed isQuiet
      refine ⟨fun _ => ?_, HoldsIn.quiet otherKnows.hold quiet, facts⟩
      rw [quiet.holder]
      exact isHolder
    · by_cases isLock : request = .lock
      · subst isLock
        have same : (LinuxRuntime.perform custodian process world .lock choice).1 = world := by
          simp [LinuxRuntime.perform, isHolder]
        rw [same]
        exact otherKnows
      · have isMine := knows.holder (held_of_allowed allowed (by simpa using isQuiet) isLock)
        rw [isHolder] at isMine
        exact absurd (Option.some.inj isMine) different
  · have outside : otherKnown.hold = .outside := not_not.mp held
    refine ⟨fun isHeld => absurd isHeld held, ?_, facts⟩
    rw [outside]
    trivial

/-- The store answers with errors of its own. -/
theorem perform_possible (process : Nat) (request : Call) (choice : Choice) :
    Possible request (perform custodian process world request choice).2 := by
  cases request with
  | readJournal =>
      dsimp only [perform]
      split
      · trivial
      · exact nofun
  | writeJournal | removeJournal =>
      dsimp only [perform]
      cases choice.fate with
      | success => trivial
      | failAfter | failBefore => exact nofun
  | writeHealth state =>
      dsimp only [perform]
      split
      · trivial
      · exact nofun
  | _ => trivial

end

/-! ## A run -/

section

variable {custodian : Custodian} {state : ProcessState}

/-- What a process knows at the start. -/
def Known.nothing : Known :=
  ⟨.outside, []⟩

/-- The invariant of the processes. -/
abbrev Safe (custodian : Custodian) (state : ProcessState) : Prop :=
  Interleaving.Sound (Allowed custodian) Possible learn (Kept custodian) Knows state

theorem knows_nothing (process : Nat) (world : World) : Knows process world Known.nothing where
  holder held := absurd rfl held
  hold := trivial
  facts _ member := nomatch member

/-- No condition on the steps of a process. -/
abbrev AnyStep (_ : ProcessState) (_ : Interleaving.Event Nat Command Choice) : Prop :=
  True

/-- A step of a process keeps the invariant. -/
theorem Safe.process {event : Interleaving.Event Nat Command Choice} (any : AnyStep state event)
    (safe : Safe custodian state) : Safe custodian ((processes custodian).step state event) := by
  refine Interleaving.Sound.step Known.nothing ?_ ?_ ?_ ?_ ?_ ?_ any safe
  · exact fun command => Program.Meets.imp (fun _ _ _ => trivial) (code_fine command rfl)
  · exact fun _ _ kept => kept
  · exact fun process world _ => knows_nothing process world
  · exact fun _ _ _ _ _ knows => knows
  · intro state process request next choice known _ _ kept knows allowed
    exact ⟨kept.perform knows request choice allowed, perform_possible process request choice,
      knows.perform kept request choice allowed⟩
  · intro state process other request next choice known otherKnown _ _ different kept knows allowed
      otherKnows
    exact knows.others kept otherKnows different request choice allowed

/-- What happens besides the processes keeps the invariant. -/
theorem Safe.surroundings (safe : Safe custodian state) (label : CustodianLabel) :
    Safe custodian { state with world := LinuxRuntime.surroundings state.world label } := by
  have quiet := surroundings_quiet safe.world label
  refine ⟨safe.world.calm quiet.toCalm, fun process program isRunning => ?_⟩
  obtain ⟨known, knows, contract⟩ := safe.contract process program isRunning
  refine ⟨known, ⟨fun held => ?_, HoldsIn.quiet knows.hold quiet, fun fact member => ?_⟩, contract⟩
  · rw [quiet.holder]
    exact knows.holder held
  · exact (knows.facts fact member).grow quiet.events quiet.acked

/-- A process that is killed loses the lock and nothing else. -/
theorem Safe.crash (safe : Safe custodian state) (process : Nat) :
    Safe custodian (custodianStep custodian state (.crash process)) := by
  have gone := safe.forget process
  by_cases isHolder : state.world.holder = some process
  · simp only [custodianStep, if_pos isHolder]
    refine ⟨safe.world.relocked none, fun other program isRunning => ?_⟩
    obtain ⟨known, knows, contract⟩ := gone.contract other program isRunning
    have different : other ≠ process := by
      rintro rfl
      simp at isRunning
    have notHeld : ¬ Held known := by
      intro held
      have isOther := knows.holder held
      change state.world.holder = some other at isOther
      rw [isHolder] at isOther
      exact different (Option.some.inj isOther).symm
    refine ⟨known, ⟨fun held => absurd held notHeld, ?_, knows.facts⟩, contract⟩
    rw [not_not.mp notHeld]
    trivial
  · simp only [custodianStep, if_neg isHolder]
    exact gone

/-- Every step keeps the invariant. -/
theorem Safe.step (safe : Safe custodian state) (label : CustodianLabel) :
    Safe custodian (custodianStep custodian state label) := by
  cases label with
  | start process command => exact @Safe.process custodian state (.start process command) trivial safe
  | resume process choice => exact @Safe.process custodian state (.resume process choice) trivial safe
  | crash process => exact safe.crash process
  | renew choice => exact safe.surroundings (.renew choice)
  | expire => exact safe.surroundings .expire
  | abort => exact safe.surroundings .abort
  | arrive delivery => exact safe.surroundings (.arrive delivery)
  | post event => exact safe.surroundings (.post event)

end

/-- The guarantees of the custodian. -/
structure CrashSafe (custodian : Custodian) (world : World) : Prop where
  starts_bounded : ∀ deliveryId, starts deliveryId world.log ≤ 3 + retries deliveryId world.log
  starts_spaced : ∀ deliveryId, Spaced deliveryId world.log
  recovery_starts_nothing : ∀ deliveryId begun, Entry.started deliveryId begun ∈ world.log →
    begun ∉ [some Phase.executing, some .replying, some .replied, some .quarantined]
  claims_derived : ∀ deliveryId claimId, Entry.claimed deliveryId claimId ∈ world.log →
    claimId = custodian.deriveTrustedClaimId deliveryId
  replies_derived : ∀ deliveryId replyKey, Entry.replied deliveryId replyKey ∈ world.log →
    replyKey = custodian.deriveTrustedReplyIdempotencyKey deliveryId
  acks_derived : ∀ sent journal, Entry.acked sent journal ∈ world.log →
    sent.claimId = custodian.deriveTrustedClaimId sent.deliveryId ∧
      sent.replyKey = custodian.deriveTrustedReplyIdempotencyKey sent.deliveryId
  acks_justified : ∀ sent journal, Entry.acked sent journal ∈ world.log →
    journal = some sent ∧
      (sent.receiptOnly = some true ∧ IsReceipt custodian world.events sent ∨
        IsAnswered custodian world.events sent)

theorem Kept.crashSafe {custodian : Custodian} {world : World} (kept : Kept custodian world) :
    CrashSafe custodian world where
  starts_bounded := kept.bounded
  starts_spaced := kept.spaced
  recovery_starts_nothing deliveryId begun member := by
    have mayStart : MayStart begun := kept.sound _ member
    intro isRecovery
    cases begun with
    | none => simp at isRecovery
    | some phase =>
        have isOpen := mayStart phase rfl
        cases phase with
        | prepared | claimed | failed => simp at isRecovery
        | executing | replying | replied | quarantined => cases isOpen
  claims_derived deliveryId claimId member := kept.sound _ member
  replies_derived deliveryId replyKey member := kept.sound _ member
  acks_derived sent journal member :=
    ⟨(kept.sound _ member).2.1.claim, (kept.sound _ member).2.1.reply⟩
  acks_justified sent journal member := ⟨(kept.sound _ member).1, (kept.sound _ member).2.2⟩

/-- The empty world keeps the invariant. -/
theorem safe_initial (custodian : Custodian) :
    Safe custodian (custodianMachine custodian).initial := by
  constructor
  · constructor
    · exact fun _ isJournal => nomatch isJournal
    · exact fun _ _ _ => rfl
    · exact fun _ => Nat.zero_le _
    · intro deliveryId first middle last begun again same
      cases first <;> cases same
    · exact fun _ member => nomatch member
    · exact fun _ isLease => nomatch isLease
    · exact ⟨List.Pairwise.nil, fun _ member => (nomatch member), List.Pairwise.nil⟩
    · exact fun _ member => nomatch member
  · exact fun _ _ isRunning => nomatch isRunning

/-- Every run keeps the invariant. -/
theorem safe_run (custodian : Custodian) (labels : List CustodianLabel) :
    Safe custodian ((custodianMachine custodian).run labels) :=
  @Machine.invariant_runFrom _ _ (custodianMachine custodian) (Safe custodian)
    (fun _ label safe => safe.step label) _ (safe_initial custodian) labels

/-- In every state of every run of cycles and retries, with crashes, failing
files and requests, renewals and lost leases wherever they strike: the runner is
started at most three times and once more for each retry, never again before a
known failure or a retry, and by no cycle that begins after a start; identifiers
are derived; and an acknowledgement is sent only for the delivery in the journal,
one that asks for no reply or whose reply is in the room. -/
theorem custodian_crashSafe (custodian : Custodian) (labels : List CustodianLabel) :
    CrashSafe custodian ((custodianMachine custodian).run labels).world :=
  (safe_run custodian labels).world.crashSafe

end Triangle.LinuxRuntime
