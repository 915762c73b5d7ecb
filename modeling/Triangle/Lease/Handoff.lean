import Triangle.Lease.Effects

/-!
# Leaving a handoff

A transfer generation ends by commit or rollback, a freeze by an explicit
recovery. `acquire`, `renew` and `beginTransfer` check for both states;
`replaceExpiredIdle` looks at generation, expiry and idleness only, so it turns
an expired handoff back into an owned, admitting lease. `ReplacesHandoff` is
that one case, and `handoffRule_iff` says that nothing else breaks the rule.
-/

namespace Triangle.Lease

open Triangle.Std Triangle.Semantics

/-- The calls that may end the transfer of `record`: its own generation is named. -/
def SettlesTransfer (record : ProfileRecord) : LeaseCall → Prop
  | .commitTransfer args => args.expectedTransferGeneration = record.ownerGeneration
  | .rollbackTransfer args => args.expectedTransferGeneration = record.ownerGeneration
  | _ => False

/-- The calls that may end the freeze of `record`: its owner and generation are named. -/
def RecoversFrozen (record : ProfileRecord) : LeaseCall → Prop
  | .clearAdmissionFreezeForRecover args =>
      args.expectedOwnerInstanceId = record.ownerInstanceId ∧
        args.expectedGeneration = record.ownerGeneration
  | _ => False

/-- The step is a call that `allowed` accepts. -/
def IsCall (allowed : LeaseCall → Prop) : LeaseLabel → Prop
  | .call _ operation _ _ => allowed operation
  | .conversations _ => False

/-- A step leaves a transfer and a freeze as they are, or is one of the calls
that end them. -/
def HandoffRule (store : ProfileStore) (label : LeaseLabel) : Prop :=
  ∀ record, store.profile = some record →
    (record.ownershipState = .transferring →
      (∃ next, (leaseStep store label).profile = some next ∧
        next.ownershipState = .transferring ∧
        next.ownerGeneration = record.ownerGeneration) ∨
      IsCall (SettlesTransfer record) label) ∧
    (record.admissionFrozen = true →
      (∃ next, (leaseStep store label).profile = some next ∧ next.admissionFrozen = true) ∨
      IsCall (RecoversFrozen record) label)

/-- The checks `replaceExpiredIdle` does make, all of which pass. -/
structure ReplaceAccepted (manager : LeaseManager) (args : ReplaceArgs) (clock : Clock)
    (atomicWriteJson : ProfileRecord → Bool) (store : ProfileStore) (record : ProfileRecord) :
    Prop where
  validGeneration : isSafeInteger args.expectedGeneration = true ∧ 1 ≤ args.expectedGeneration
  readable : readProfile store args.profileInstanceId = .ok (some record)
  clockSane : record.leaseRenewedAt - clock.sane ≤ manager.maxClockSkewMs
  matching : (record.ownerGeneration : Int) = args.expectedGeneration
  expired : isExpired record clock.expiry = true
  idle : listNonIdle store = []
  writable : ∃ next, commitFreshLease atomicWriteJson manager args.profileInstanceId
    (record.ownerGeneration + 1) record.runtimeMode args.activeMeshRoomId clock.renewed = .ok next

/-- The step is an accepted `replaceExpiredIdle` of a transferring or frozen record. -/
def ReplacesHandoff (store : ProfileStore) (label : LeaseLabel) : Prop :=
  ∃ manager args clock atomicWriteJson record,
    label = .call manager (.replaceExpiredIdle args) clock atomicWriteJson ∧
    (record.ownershipState = .transferring ∨ record.admissionFrozen = true) ∧
    ReplaceAccepted manager args clock atomicWriteJson store record

variable {store : ProfileStore}

/-- `replaceExpiredIdle` succeeds exactly when its checks pass. -/
theorem replaceExpiredIdle_ok_iff {manager : LeaseManager} {args : ReplaceArgs} {clock : Clock}
    {atomicWriteJson : ProfileRecord → Bool} {record : ProfileRecord}
    (held : store.profile = some record) :
    (∃ next, replaceExpiredIdle atomicWriteJson manager args clock store = .ok next) ↔
      ReplaceAccepted manager args clock atomicWriteJson store record := by
  constructor
  · rintro ⟨next, succeeded⟩
    simp only [replaceExpiredIdle, requirePositive, bind_ok (readProfile _ _),
      bind_ok (requireLease _ _), bind_ok (assertClockSane _ _ _), require_bind_ok] at succeeded
    obtain ⟨valid, found, read, existing, present, _, sane, matching, expired, idle, written⟩ :=
      succeeded
    obtain rfl := requireLease_ok present
    obtain rfl := Option.some.inj ((readProfile_ok read).symm.trans held)
    refine ⟨valid, read, ?_, matching, expired, idle, next, written⟩
    by_contra insane
    rw [assertClockSane, require, if_neg insane] at sane
    cases sane
  · rintro ⟨valid, read, sane, matching, expired, idle, next, written⟩
    refine ⟨next, ?_⟩
    simp only [replaceExpiredIdle, requirePositive, bind_ok (readProfile _ _),
      bind_ok (requireLease _ _), bind_ok (assertClockSane _ _ _), require_bind_ok]
    exact ⟨valid, _, read, record, rfl, (), by rw [assertClockSane, require, if_pos sane],
      matching, expired, idle, written⟩

/-- A frozen record is owned: a freeze needs an owned record, and no transfer
begins on a frozen one. -/
def FrozenOwned (store : ProfileStore) : Prop :=
  ∀ record, store.profile = some record → record.admissionFrozen = true →
    record.ownershipState = .owned

theorem leaseStep_frozenOwned (store : ProfileStore) (label : LeaseLabel)
    (before : FrozenOwned store) : FrozenOwned (leaseStep store label) := by
  intro record held frozen
  rcases leaseStep_cases store label with same | ⟨_, _, _, _, after, -, -, effect, stored⟩
  · exact before record (same.symm.trans held) frozen
  · obtain rfl := Option.mem_unique stored held
    cases effect with
    | first _ _ _ unfrozen | keep _ _ _ _ unfrozen | steal _ _ _ _ _ _ unfrozen
    | replace _ _ _ _ _ unfrozen | begin _ _ _ _ _ _ unfrozen =>
        rw [unfrozen] at frozen
        cases frozen
    | commit _ _ _ _ _ nowOwned | rollback _ _ _ _ nowOwned => exact nowOwned
    | freeze _ owned same | recover _ owned _ _ same => exact same.2.2.trans owned

/-- Every reachable frozen record is owned. -/
theorem reachable_frozenOwned (reached : leaseMachine.Reachable store) : FrozenOwned store :=
  reached.invariant (fun _ held => by cases held) leaseStep_frozenOwned

/-- An effect other than a replacement keeps to the handoff rule. -/
theorem LeaseEffect.handoffRule {operation : LeaseCall} {record after : ProfileRecord}
    (effect : LeaseEffect store operation after) (held : store.profile = some record)
    (frozenOwned : FrozenOwned store) (notReplace : ∀ args, operation = .replaceExpiredIdle args →
      record.ownershipState ≠ .transferring ∧ record.admissionFrozen ≠ true) :
    (record.ownershipState = .transferring → SettlesTransfer record operation) ∧
      (record.admissionFrozen = true →
        after.admissionFrozen = true ∨ RecoversFrozen record operation) := by
  cases effect with
  | first absent => rw [absent] at held; cases held
  | keep found owned unfrozen | steal found owned unfrozen | begin found owned unfrozen =>
      obtain rfl := Option.mem_unique found held
      simp [owned, unfrozen]
  | replace found =>
      obtain ⟨notTransferring, notFrozen⟩ := notReplace _ rfl
      exact ⟨fun transferring => absurd transferring notTransferring,
        fun frozen => absurd frozen notFrozen⟩
  | commit found transferring matching | rollback found transferring matching =>
      obtain rfl := Option.mem_unique found held
      refine ⟨fun _ => matching.symm, fun frozen => ?_⟩
      rw [frozenOwned _ found frozen] at transferring
      cases transferring
  | freeze found owned same nowFrozen =>
      obtain rfl := Option.mem_unique found held
      simp [owned, nowFrozen]
  | recover found owned owner matching same =>
      obtain rfl := Option.mem_unique found held
      exact ⟨by simp [owned], fun _ => .inr ⟨owner.symm, matching.symm⟩⟩

/-- A step that is not a replacement of a handoff keeps to the rule. -/
theorem handoffRule_of_not_replacesHandoff {label : LeaseLabel} (frozenOwned : FrozenOwned store)
    (spared : ¬ ReplacesHandoff store label) : HandoffRule store label := by
  intro record held
  rcases leaseStep_cases store label with
    same | ⟨manager, operation, clock, atomicWriteJson, after, rfl, succeeded, effect, stored⟩
  · rw [same]
    exact ⟨fun transferring => .inl ⟨record, held, transferring, rfl⟩,
      fun frozen => .inl ⟨record, held, frozen⟩⟩
  · rw [stored]
    have notReplace : ∀ args, operation = .replaceExpiredIdle args →
        record.ownershipState ≠ .transferring ∧ record.admissionFrozen ≠ true := by
      rintro args rfl
      have accepted := (replaceExpiredIdle_ok_iff held).mp ⟨after, succeeded⟩
      refine ⟨fun transferring => spared ?_, fun frozen => spared ?_⟩
      · exact ⟨manager, args, clock, atomicWriteJson, record, rfl, .inl transferring, accepted⟩
      · exact ⟨manager, args, clock, atomicWriteJson, record, rfl, .inr frozen, accepted⟩
    obtain ⟨settles, recovers⟩ := effect.handoffRule held frozenOwned notReplace
    refine ⟨fun transferring => .inr (settles transferring), fun frozen => ?_⟩
    rcases recovers frozen with stillFrozen | recovered
    · exact .inl ⟨after, rfl, stillFrozen⟩
    · exact .inr recovered

/-- A replacement of a handoff breaks the rule. -/
theorem not_handoffRule_of_replacesHandoff {label : LeaseLabel}
    (replaces : ReplacesHandoff store label) : ¬ HandoffRule store label := by
  obtain ⟨manager, args, clock, atomicWriteJson, record, rfl, handoff, accepted⟩ := replaces
  have held := readProfile_ok accepted.readable
  obtain ⟨next, succeeded⟩ := (replaceExpiredIdle_ok_iff held).mpr accepted
  have stored : (leaseStep store (.call manager (.replaceExpiredIdle args) clock
      atomicWriteJson)).profile = some next := by
    simp [leaseStep, LeaseCall.perform, succeeded]
  have nowOwned : next.ownershipState = .owned ∧ next.admissionFrozen = false := by
    cases replaceExpiredIdle_effect succeeded with
    | keep _ _ _ _ _ admits => simp at admits
    | replace _ _ _ _ owned unfrozen => exact ⟨owned, unfrozen⟩
  intro rule
  obtain ⟨transferRule, freezeRule⟩ := rule record held
  rw [stored] at transferRule freezeRule
  rcases handoff with transferring | frozen
  · rcases transferRule transferring with ⟨kept, same, stays, -⟩ | settles
    · obtain rfl := Option.some.inj same
      rw [nowOwned.1] at stays
      cases stays
    · exact settles
  · rcases freezeRule frozen with ⟨kept, same, stays⟩ | recovers
    · obtain rfl := Option.some.inj same
      rw [nowOwned.2] at stays
      cases stays
    · exact recovers

/-- After every run, a step keeps to the handoff rule exactly when it is not an
accepted replacement of a transferring or frozen record. -/
theorem handoffRule_iff (labels : List LeaseLabel) (label : LeaseLabel) :
    HandoffRule (leaseMachine.run labels) label ↔
      ¬ ReplacesHandoff (leaseMachine.run labels) label :=
  ⟨fun rule replaces => not_handoffRule_of_replacesHandoff replaces rule,
    handoffRule_of_not_replacesHandoff (reachable_frozenOwned ⟨labels, rfl⟩)⟩

section

private def sampleProfile : String :=
  "00112233445566778899aabbccddeeff00112233445566778899aabbccddeeff"

private def sampleManager (owner : String) (nonempty : owner ≠ "" := by decide) : LeaseManager where
  ownerInstanceId := owner
  leaseDurationMs := 60000
  maxClockSkewMs := 5000
  ownerNonempty := nonempty
  durationBound := by decide

private def sampleCall (owner : String) (operation : LeaseCall) (now : Int)
    (nonempty : owner ≠ "" := by decide) : LeaseLabel :=
  .call (sampleManager owner nonempty) operation ⟨now, now, now⟩ fun _ => true

/-- A second owner replaces the expired lease of a handoff in progress, and
likewise that of a frozen profile. -/
theorem replaceExpiredIdle_leaves_handoff :
    ¬ HandoffRule
        (leaseMachine.run
          [sampleCall "headless" (.acquire { profileInstanceId := sampleProfile }) 0,
            sampleCall "headless" (.beginTransfer ⟨sampleProfile, 1, "desktop", .desktop⟩) 1])
        (sampleCall "other" (.replaceExpiredIdle ⟨sampleProfile, 2, none⟩) 70000) ∧
      ¬ HandoffRule
        (leaseMachine.run
          [sampleCall "headless" (.acquire { profileInstanceId := sampleProfile }) 0,
            sampleCall "headless" (.freezeAdmissionAfterCommit ⟨sampleProfile, 1⟩) 1])
        (sampleCall "other" (.replaceExpiredIdle ⟨sampleProfile, 1, none⟩) 70000) := by
  constructor
  · intro rule
    have broken := (rule _ rfl).1 rfl
    rcases broken with ⟨next, stored, stays, -⟩ | settles
    · obtain rfl := Option.some.inj stored
      cases stays
    · exact settles
  · intro rule
    have broken := (rule _ rfl).2 rfl
    rcases broken with ⟨next, stored, stays⟩ | recovers
    · obtain rfl := Option.some.inj stored
      cases stays
    · exact recovers

end

end Triangle.Lease
