import Mathlib.Logic.Function.Iterate
import Triangle.LinuxRuntime.Recovery

/-!
# Which records wedge

From a journal that the processes can leave, with the lock free and a working
environment, the record in hand is cleared by cycles, or quarantined by them and
cleared after a retry, exactly when it is `Recoverable`. What is not recoverable
stays so under every cycle and every retry: the delivered event can never be
handed, or the room holds another reply under the key.
-/

namespace Triangle.LinuxRuntime

open Triangle.Std Triangle.Semantics

section

variable (custodian : Custodian) (works : Works)

/-- The record that the next cycle works on: the one in the journal, or one of the first
delivery of the mailbox. -/
def InHand (world : World) (record : Record) : Prop :=
  world.journal = some record ∨
    world.journal = none ∧
      ∃ delivery ∈ world.listed, record = custodian.prepared delivery works.now works.now

/-- The delivery is acknowledged, and the journal is not of it. -/
structure IsDone (world : World) (deliveryId : Int) : Prop where
  acked : deliveryId ∈ world.acked
  journal : ∀ record, world.journal = some record → record.deliveryId ≠ deliveryId

/-- The journal is of the delivery, and quarantined. -/
def IsQuarantined (world : World) (deliveryId : Int) : Prop :=
  ∃ record, world.journal = some record ∧ record.deliveryId = deliveryId ∧
    record.phase = .quarantined

/-- Finitely many cycles clear the record, or quarantine it so that a retry and finitely
many cycles clear it. -/
def NeverWedges (world : World) (deliveryId : Int) : Prop :=
  (∃ cycles, IsDone ((cycled custodian works)^[cycles] world) deliveryId) ∨
    ∃ cycles, IsQuarantined ((cycled custodian works)^[cycles] world) deliveryId ∧
      ∃ more, IsDone ((cycled custodian works)^[more]
        (retriedBy custodian works deliveryId ((cycled custodian works)^[cycles] world))) deliveryId

/-- The record can be confirmed by a recovery, or delivered by an execution. -/
def Recoverable (world : World) (record : Record) : Prop :=
  record.phase.isRecovery = true ∧ Confirms custodian world.events record ∨
    Delivers custodian works world record

end

section

variable {custodian : Custodian} {works : Works} {world : World} {record : Record}

/-- A record in the journal that is not recoverable. -/
structure Stuck (custodian : Custodian) (works : Works) (deliveryId : Int) (world : World) : Prop where
  free : world.holder = none
  journal : ∃ record, world.journal = some record ∧ record.deliveryId = deliveryId ∧
    Served custodian works world record ∧ Rested works record ∧
    ¬ Recoverable custodian works world record

theorem Record.SameDelivery.symm {other : Record} (same : record.SameDelivery other) :
    other.SameDelivery record := by
  obtain ⟨a, b, c, d, e, f, g, h, i⟩ := same
  exact ⟨a.symm, b.symm, c.symm, d.symm, e.symm, f.symm, g.symm, h.symm, i.symm⟩

variable {after : World} {deliveryId : Int} {delivery : Delivery}

theorem Recoverable.of_events (recoverable : Recoverable custodian works world record)
    (events : after.events = world.events) : Recoverable custodian works after record := by
  refine recoverable.imp (And.imp_right fun confirms => ?_) fun delivers => ?_
  · exact events ▸ confirms
  · exact delivers.of_same record.same_refl events

/-- A record before the start is recoverable by an execution only. -/
theorem recoverable_iff_delivers (isOpen : record.phase.isRecovery = false) :
    Recoverable custodian works world record ↔ Delivers custodian works world record := by
  simp [Recoverable, isOpen]

section

variable (free : after.holder = none) (served : Served custodian works world record)
  (notRecoverable : ¬ Recoverable custodian works world record)
include free served notRecoverable

/-- What a cycle or a retry leaves of a stuck record is stuck. -/
theorem Stuck.leave {left : Record} (isJournal : after.journal = some left)
    (same : record.SameDelivery left) (checked : left.Checked custodian)
    (events : after.events = world.events) (isOpen : left.phase.isRecovery = false)
    (notFailed : left.phase ≠ .failed) : Stuck custodian works record.deliveryId after := by
  refine ⟨free, left, isJournal, same.2.2.2.1, served.of_same same checked events,
    fun isFailed => absurd isFailed notFailed, ?_⟩
  rw [recoverable_iff_delivers isOpen]
  intro delivers
  exact notRecoverable (.inr (delivers.of_same same.symm events.symm))

/-- A cycle that does not clear a record leaves it stuck. -/
theorem Stuck.of_ends {clears : Prop} (ends : CycleEnds custodian world record clears after)
    (doesNot : ¬ clears) : Stuck custodian works record.deliveryId after := by
  cases ends with
  | cleared does isClear => exact absurd does doesNot
  | stopped _ leaves | blocked _ _ leaves =>
      obtain ⟨left, isLeft, same, isPhase, checked⟩ := leaves.journal
      exact Stuck.leave free served notRecoverable isLeft same checked leaves.events
        (by rw [isPhase]; rfl) (by rw [isPhase]; nofun)

end

theorem Completes.recoverable (completes : Completes custodian works world record) :
    Recoverable custodian works world record := by
  rw [Completes] at completes
  split at completes
  · exact .inl ⟨‹_›, completes⟩
  · exact .inr completes

/-- A cycle keeps a stuck record stuck. -/
theorem Stuck.after_cycle (hex : HexDigests custodian)
    (stuck : Stuck custodian works deliveryId world) :
    Stuck custodian works deliveryId (cycled custodian works world) := by
  obtain ⟨free, record, isJournal, rfl, served, rested, notRecoverable⟩ := stuck
  by_cases isQuarantined : record.phase = .quarantined
  · obtain ⟨stays, events, freed⟩ :=
      @cycled_quarantined custodian works world record free served.checked isJournal isQuarantined
    exact Stuck.leave freed served notRecoverable stays record.same_refl served.checked events
      (by rw [isQuarantined]; rfl) (by rw [isQuarantined]; nofun)
  · obtain ⟨ends, freed⟩ := cycled_ends free served hex isJournal rested isQuarantined
    exact Stuck.of_ends freed served notRecoverable ends fun completes =>
      notRecoverable completes.recoverable

/-- A retry keeps a stuck record stuck. -/
theorem Stuck.after_retry {deliveryId other : Int} (stuck : Stuck custodian works deliveryId world) :
    Stuck custodian works deliveryId (retriedBy custodian works other world) := by
  obtain ⟨free, record, isJournal, rfl, served, rested, notRecoverable⟩ := stuck
  obtain ⟨left, events, freed⟩ :=
    @retriedBy_journal custodian works world record free served.checked isJournal other
  by_cases eligible : record.IsEligible other
  · rw [if_pos eligible] at left
    exact Stuck.leave freed served notRecoverable left (record.retried_same _)
      (served.checked.retried _) events rfl nofun
  · rw [if_neg eligible] at left
    exact ⟨freed, record, left, rfl, served.of_same record.same_refl served.checked events, rested,
      fun recoverable => notRecoverable (recoverable.of_events events.symm)⟩

/-- However many cycles are run, a stuck record stays stuck. -/
theorem Stuck.iterate (hex : HexDigests custodian) (stuck : Stuck custodian works deliveryId world)
    (cycles : Nat) :
    Stuck custodian works deliveryId ((cycled custodian works)^[cycles] world) := by
  induction cycles with
  | zero => exact stuck
  | succ cycles ih =>
      rw [Function.iterate_succ_apply']
      exact ih.after_cycle hex

theorem Stuck.not_done (stuck : Stuck custodian works deliveryId world) :
    ¬ IsDone world deliveryId := by
  obtain ⟨-, record, isJournal, same, -⟩ := stuck
  exact fun done => done.journal record isJournal same

/-- A stuck record wedges. -/
theorem Stuck.wedges (hex : HexDigests custodian) (stuck : Stuck custodian works deliveryId world) :
    ¬ NeverWedges custodian works world deliveryId := by
  rintro (⟨cycles, done⟩ | ⟨cycles, -, more, done⟩)
  · exact (stuck.iterate hex cycles).not_done done
  · exact ((stuck.iterate hex cycles).after_retry.iterate hex more).not_done done

theorem Clears.isDone (clears : Clears record world) : IsDone world record.deliveryId :=
  ⟨clears.acked, fun _ isJournal => nomatch clears.journal.symm.trans isJournal⟩

section

variable (free : world.holder = none) (served : Served custodian works world record)
  (hex : HexDigests custodian) (isJournal : world.journal = some record)
include free served hex isJournal

/-- A quarantined record is cleared by a retry and a cycle, when an execution delivers. -/
theorem clears_after_retry (isQuarantined : record.phase = .quarantined)
    (delivers : Delivers custodian works world record) :
    IsDone (cycled custodian works (retriedBy custodian works record.deliveryId world))
      record.deliveryId := by
  obtain ⟨left, events, freed⟩ := @retriedBy_journal custodian works world record free served.checked
    isJournal record.deliveryId
  rw [if_pos ⟨rfl, .inr isQuarantined⟩] at left
  have same : record.SameDelivery (record.retried works.now) := record.retried_same _
  obtain ⟨ends, -⟩ := cycled_ends freed (served.of_same same (served.checked.retried _) events) hex left
    (fun isFailed => nomatch isFailed) (fun quarantined => nomatch quarantined)
  have completes : Completes custodian works
      (retriedBy custodian works record.deliveryId world) (record.retried works.now) :=
    delivers.of_same same events
  cases ends with
  | cleared does isClear => exact (isClear.of_same same).isDone
  | stopped doesNot leaves => exact absurd completes doesNot
  | blocked doesNot notHanded leaves => exact absurd completes doesNot

/-- A recoverable record in the journal does not wedge. -/
theorem neverWedges_of_recoverable (rested : Rested works record)
    (handed : record.phase.isRecovery = true → Handed custodian world.events record)
    (recoverable : Recoverable custodian works world record) :
    NeverWedges custodian works world record.deliveryId := by
  by_cases isQuarantined : record.phase = .quarantined
  · have delivers : Delivers custodian works world record := by
      rwa [recoverable_iff_delivers (by rw [isQuarantined]; rfl)] at recoverable
    exact .inr ⟨0, ⟨record, isJournal, rfl, isQuarantined⟩, 1,
      clears_after_retry free served hex isJournal isQuarantined delivers⟩
  obtain ⟨ends, freed⟩ := cycled_ends free served hex isJournal rested isQuarantined
  cases ends with
  | cleared does isClear => exact .inl ⟨1, isClear.isDone⟩
  | stopped doesNot leaves =>
      obtain ⟨left, isLeft, same, isPhase, checked⟩ := leaves.journal
      have delivers : Delivers custodian works world record := by
        refine recoverable.resolve_left ?_
        rintro ⟨isRecovery, confirms⟩
        rw [Completes, if_pos isRecovery] at doesNot
        exact doesNot confirms
      have delivery : left.deliveryId = record.deliveryId := same.2.2.2.1
      refine .inr ⟨1, ⟨left, isLeft, delivery, isPhase⟩, 1, ?_⟩
      rw [← delivery]
      exact clears_after_retry freed (served.of_same same checked leaves.events) hex isLeft isPhase
        (delivers.of_same same leaves.events)
  | blocked doesNot notHanded leaves =>
      exfalso
      rw [Completes] at doesNot
      split at doesNot
      · exact notHanded (handed ‹_›)
      · exact doesNot (recoverable.resolve_left fun both => absurd both.1 ‹_›)

end

/-- The journal of a kept world is served. -/
theorem Kept.served (kept : Kept custodian world) (hex : HexDigests custodian)
    (isJournal : world.journal = some record) (follows : world.Follows record.roomId works.sequence) :
    Served custodian works world record := by
  have journalled := kept.journal record isJournal
  exact ⟨journalled.checked, journalled.checked.bound.transmits hex, kept.ordered, journalled.named,
    follows⟩

/-- The first delivery of a kept world is served. -/
theorem Kept.served_listed (kept : Kept custodian world) (hex : HexDigests custodian)
    (isListed : delivery ∈ world.listed) (follows : world.Follows delivery.roomId works.sequence) :
    Served custodian works world (custodian.prepared delivery works.now works.now) := by
  obtain ⟨isOffered, -⟩ := mem_listed isListed
  obtain ⟨valid, named⟩ := kept.deliveries delivery isOffered
  have checked := @prepared_checked custodian delivery valid works.now works.now
  exact ⟨checked, checked.bound.transmits hex, kept.ordered, named, follows⟩

theorem listed_eq (isListed : delivery ∈ world.listed) : world.listed = [delivery] := by
  have short : world.listed.length ≤ 1 := List.length_take_le 1 _
  cases isList : world.listed with
  | nil =>
      rw [isList] at isListed
      cases isListed
  | cons first rest =>
      rw [isList, List.length_cons] at short
      obtain rfl : rest = [] := List.eq_nil_of_length_eq_zero (by omega)
      rw [isList] at isListed
      rw [List.mem_singleton.mp isListed]

/-- A delivery that the next cycle takes up wedges exactly when it cannot be delivered. -/
theorem neverWedges_listed (kept : Kept custodian world) (hex : HexDigests custodian)
    (free : world.holder = none) (isJournal : world.journal = none)
    (isListed : delivery ∈ world.listed) (follows : world.Follows delivery.roomId works.sequence) :
    NeverWedges custodian works world delivery.deliveryId ↔
      Delivers custodian works world (custodian.prepared delivery works.now works.now) := by
  let record := custodian.prepared delivery works.now works.now
  have served : Served custodian works world record := kept.served_listed hex isListed follows
  obtain ⟨isOffered, notAcked⟩ := mem_listed isListed
  obtain ⟨ends, freed⟩ := cycled_take free (kept.deliveries delivery isOffered).1 isJournal
    (listed_eq isListed) served hex
  constructor
  · intro never
    by_contra notDelivers
    have notRecoverable : ¬ Recoverable custodian works world record := by
      rwa [recoverable_iff_delivers rfl]
    have stuck : Stuck custodian works record.deliveryId (cycled custodian works world) :=
      Stuck.of_ends freed served notRecoverable ends notDelivers
    obtain ⟨cycles, done⟩ | ⟨cycles, isQuarantined, more, done⟩ := never
    · cases cycles with
      | zero => exact notAcked done.acked
      | succ cycles => exact (stuck.iterate hex cycles).not_done done
    · cases cycles with
      | zero =>
          obtain ⟨other, isOther, -⟩ := isQuarantined
          exact nomatch isJournal.symm.trans isOther
      | succ cycles => exact ((stuck.iterate hex cycles).after_retry.iterate hex more).not_done done
  · intro delivers
    cases ends with
    | cleared does isClear => exact .inl ⟨1, isClear.isDone⟩
    | stopped doesNot leaves => exact absurd delivers doesNot
    | blocked doesNot notHanded leaves => exact absurd delivers doesNot

end

/-- In every state that the processes can reach, with the lock free and the environment
working again, the record in hand is cleared by finitely many cycles, or quarantined by
them and cleared after a retry, exactly when a recovery confirms it or the delivered event
can be handed and its reply is accepted. -/
theorem custodian_neverWedges_iff (custodian : Custodian) (hex : HexDigests custodian)
    (labels : List CustodianLabel) (works : Works) (record : Record)
    (free : ((custodianMachine custodian).run labels).world.holder = none)
    (inHand : InHand custodian works ((custodianMachine custodian).run labels).world record)
    (rested : Rested works record)
    (follows : ((custodianMachine custodian).run labels).world.Follows record.roomId
      works.sequence) :
    NeverWedges custodian works ((custodianMachine custodian).run labels).world record.deliveryId ↔
      Recoverable custodian works ((custodianMachine custodian).run labels).world record := by
  have kept := (safe_run custodian labels).world
  obtain isJournal | ⟨isJournal, delivery, isListed, rfl⟩ := inHand
  · have served := kept.served hex isJournal follows
    constructor
    · intro never
      by_contra notRecoverable
      exact Stuck.wedges hex ⟨free, record, isJournal, rfl, served, rested, notRecoverable⟩ never
    · refine neverWedges_of_recoverable free served hex isJournal rested fun isRecovery => ?_
      refine (kept.journal record isJournal).handed ?_ ?_
      · rintro isPrepared
        rw [isPrepared] at isRecovery
        cases isRecovery
      · rintro isClaimed
        rw [isClaimed] at isRecovery
        cases isRecovery
  · rw [recoverable_iff_delivers rfl]
    exact neverWedges_listed kept hex free isJournal isListed follows

/-! ## A message to itself -/

/-- SHA-256 on the identifiers of the delivery 41 and on the text `done`. -/
def sampleDigest (text : String) : String :=
  let framed (domain : String) : String :=
    domain ++ "\x00" ++ "f60589223b4d21d5815ec5301c853cfe204774b7bc930fcd971e461ad5040dbc" ++
      "\x00" ++ "41"
  if text = framed "triangle-claim-v1" then
    "719a7ae30db6d26648245f12197237ef0b92eb7e5c4380c2e6db600d225c4345"
  else if text = framed "triangle-reply-v1" then
    "0f7745eb5800f32f567531d0c6bfdb32cb7be34b8052702835c034617bf50bdd"
  else if text = "done" then
    "a4c3ed04a95a3da14a9d235c83d868bed7c0f45cf7f3faa751ee8f50598d2211"
  else "0000000000000000000000000000000000000000000000000000000000000000"

theorem sampleInstance_valid :
    Text.isHex64 "f60589223b4d21d5815ec5301c853cfe204774b7bc930fcd971e461ad5040dbc" = true := by
  decide +kernel

def sampleCustodian : Custodian where
  sha256Hex := sampleDigest
  agentId := "agent_aaaaaaaaaaaaaaaaaaaaaaaaaaaaaaaa"
  instanceId :=
    ⟨"f60589223b4d21d5815ec5301c853cfe204774b7bc930fcd971e461ad5040dbc", sampleInstance_valid⟩
  isAgent := by decide +kernel

theorem sampleDigest_hex : HexDigests sampleCustodian := by
  intro text
  simp only [sampleCustodian, sampleDigest]
  split
  · decide +kernel
  · split
    · decide +kernel
    · split
      · decide +kernel
      · decide +kernel

/-- A message of this sender in the room of the delivery 41. -/
def sampleMessage (senderAgentId : String) : Event where
  id := "event_cccccccccccccccccccccccccccccccc"
  roomId := "room_0123456789abcdef0123456789abcdef"
  sequence := 7
  type := "message.created"
  senderAgentId := senderAgentId
  idempotency_key := none
  idempotencyKey := none
  text := some "hello"
  replyRequired := .missing
  inReplyToEventId := none

def sampleDelivery : Delivery where
  deliveryId := 41
  roomId := "room_0123456789abcdef0123456789abcdef"
  eventId := "event_cccccccccccccccccccccccccccccccc"
  roomSequence := 7

def sampleWorks : Works where
  text := "done"
  eventId := "event_dddddddddddddddddddddddddddddddd"
  sequence := 8
  now := 0
  leaseExpiresAt := 60000
  bounded := by decide +kernel
  isEvent := by decide +kernel
  held := by decide

/-- The message is posted, and delivered. -/
def sampleRun (senderAgentId : String) : List CustodianLabel :=
  [.post (sampleMessage senderAgentId), .arrive sampleDelivery]

/-- A message of another agent is answered and acknowledged. -/
theorem custodian_neverWedges_iff_delivered :
    NeverWedges sampleCustodian sampleWorks
        ((custodianMachine sampleCustodian).run
          (sampleRun "agent_bbbbbbbbbbbbbbbbbbbbbbbbbbbbbbbb")).world 41 ↔
      Recoverable sampleCustodian sampleWorks
        ((custodianMachine sampleCustodian).run
          (sampleRun "agent_bbbbbbbbbbbbbbbbbbbbbbbbbbbbbbbb")).world
        (sampleCustodian.prepared sampleDelivery 0 0) := by
  have facts : ((custodianMachine sampleCustodian).run
        (sampleRun "agent_bbbbbbbbbbbbbbbbbbbbbbbbbbbbbbbb")).world.holder = none ∧
      ((custodianMachine sampleCustodian).run
        (sampleRun "agent_bbbbbbbbbbbbbbbbbbbbbbbbbbbbbbbb")).world.journal = none ∧
      sampleDelivery ∈ ((custodianMachine sampleCustodian).run
        (sampleRun "agent_bbbbbbbbbbbbbbbbbbbbbbbbbbbbbbbb")).world.listed ∧
      ((custodianMachine sampleCustodian).run
        (sampleRun "agent_bbbbbbbbbbbbbbbbbbbbbbbbbbbbbbbb")).world.Follows
          sampleDelivery.roomId sampleWorks.sequence := by
    decide +kernel
  exact custodian_neverWedges_iff sampleCustodian sampleDigest_hex
    (sampleRun "agent_bbbbbbbbbbbbbbbbbbbbbbbbbbbbbbbb") sampleWorks
    (sampleCustodian.prepared sampleDelivery 0 0) facts.1
    (.inr ⟨facts.2.1, sampleDelivery, facts.2.2.1, rfl⟩) (fun isFailed => nomatch isFailed) facts.2.2.2

/-- A message of the agent to itself makes every cycle throw, for ever. -/
theorem custodian_wedges :
    ¬ ∀ (labels : List CustodianLabel) (works : Works) (record : Record),
      ((custodianMachine sampleCustodian).run labels).world.holder = none →
      InHand sampleCustodian works ((custodianMachine sampleCustodian).run labels).world record →
      Rested works record →
      ((custodianMachine sampleCustodian).run labels).world.Follows record.roomId works.sequence →
      NeverWedges sampleCustodian works ((custodianMachine sampleCustodian).run labels).world
        record.deliveryId := by
  intro never
  have facts : ((custodianMachine sampleCustodian).run
        (sampleRun sampleCustodian.agentId)).world.holder = none ∧
      ((custodianMachine sampleCustodian).run
        (sampleRun sampleCustodian.agentId)).world.journal = none ∧
      sampleDelivery ∈ ((custodianMachine sampleCustodian).run
        (sampleRun sampleCustodian.agentId)).world.listed ∧
      ((custodianMachine sampleCustodian).run
        (sampleRun sampleCustodian.agentId)).world.Follows
          sampleDelivery.roomId sampleWorks.sequence ∧
      ∀ event ∈ ((custodianMachine sampleCustodian).run
        (sampleRun sampleCustodian.agentId)).world.events,
        event.senderAgentId = sampleCustodian.agentId := by
    decide +kernel
  obtain ⟨free, isJournal, isListed, follows, own⟩ := facts
  have wedged := never (sampleRun sampleCustodian.agentId) sampleWorks
    (sampleCustodian.prepared sampleDelivery 0 0) free
    (.inr ⟨isJournal, sampleDelivery, isListed, rfl⟩) (fun isFailed => nomatch isFailed) follows
  have delivers := (neverWedges_listed (safe_run sampleCustodian _).world sampleDigest_hex free
    isJournal isListed follows).mp wedged
  obtain ⟨event, member, isInbound, -⟩ := delivers
  exact isInbound.foreign (own event member)

end Triangle.LinuxRuntime
