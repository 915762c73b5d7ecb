import Triangle.LocalMessaging.WakeEffects

/-!
# Safety of the wake protocol

For one target: a delivery is idle exactly without an active wake, a hold ends
by an explicit call, and an acknowledged wake stays acknowledged.

The second part fails. A rebind to `stale_held` keeps the active wake id, and
`setWakeAccepted` and `setWakeUncertain` select their row by that id alone, so
the late result of the old submission takes the binding out of the hold.
`reportInteractiveWakeResult`, the same report from an interactive session,
refuses a held binding. `wakeSafe_iff` says that this is the only way a run goes
wrong.
-/

namespace Triangle.LocalMessaging

open Triangle.Std Triangle.Semantics

/-- `wakeId` is the active wake of the target. -/
def Outstanding (state : WakeState) (target wakeId : String) : Prop :=
  ∃ binding, state.binding target = some binding ∧ binding.activeWakeId = some wakeId

/-- Idle without an active wake, under way only with one. -/
def DeliveryMatchesWake (state : WakeState) (target : String) : Prop :=
  ∀ binding, state.binding target = some binding →
    (binding.deliveryState = .idle → binding.activeWakeId = none) ∧
    (binding.deliveryState = .submitting ∨ binding.deliveryState = .acceptedAwaitingAck ∨
        binding.deliveryState = .uncertain →
      binding.activeWakeId ≠ none)

section

variable (runtime : WakeRuntime)

/-- The step takes a held binding out of its hold. -/
def LeavesHold (state : WakeState) (label : WakeLabel) (target : String) : Prop :=
  ∃ before after, state.binding target = some before ∧ before.deliveryState = .staleHeld ∧
    (wakeStep runtime state label).binding target = some after ∧ after.deliveryState ≠ .staleHeld

/-- The step is an acknowledgement that leaves the target idle with `wakeId`
as its last acknowledged wake. -/
def AcknowledgesWake (state : WakeState) (label : WakeLabel) (target wakeId : String) : Prop :=
  (∃ operation now, label = .call operation now ∧ operation.Acknowledges target wakeId) ∧
    ∃ binding, (wakeStep runtime state label).binding target = some binding ∧
      binding.deliveryState = .idle ∧ binding.lastAcknowledgedWakeId = some wakeId

/-- The three safety properties over every state and step of one run. -/
structure WakeSafe (target : String) (labels : List WakeLabel) : Prop where
  deliveryMatches : ∀ before after, labels = before ++ after →
    DeliveryMatchesWake ((wakeMachine runtime).run before) target
  holdEndsExplicitly : ∀ before label after, labels = before ++ label :: after →
    LeavesHold runtime ((wakeMachine runtime).run before) label target →
    ∃ operation now, label = .call operation now ∧ operation.EndsHold target
  acknowledgedStays : ∀ before label later after wakeId,
    labels = before ++ label :: (later ++ after) →
    AcknowledgesWake runtime ((wakeMachine runtime).run before) label target wakeId →
    (∀ operation now, .call operation now ∈ later → ¬ operation.Submits target wakeId) →
    ¬ Outstanding ((wakeMachine runtime).run (before ++ label :: later)) target wakeId

/-- A notifier result for the active wake of a held binding. -/
def LateResultOnHold (state : WakeState) (label : WakeLabel) (target : String) : Prop :=
  ∃ binding wakeId operation now, state.binding target = some binding ∧
    binding.deliveryState = .staleHeld ∧ binding.activeWakeId = some wakeId ∧
    label = .call operation now ∧ operation.SetsResult target wakeId

variable {runtime}

/-- Delivery is idle exactly without an active wake. -/
def IdleIffInactive (target : String) (state : WakeState) : Prop :=
  ∀ binding, state.binding target = some binding →
    (binding.deliveryState = .idle ↔ binding.activeWakeId = none)

variable {target : String} {state : WakeState} {label : WakeLabel}

theorem WakeMove.idleIffInactive {operation : WakeCall} {before after : Option WakeBinding}
    (move : WakeMove target operation before after) (holds : ∀ binding, before = some binding →
      (binding.deliveryState = .idle ↔ binding.activeWakeId = none)) :
    ∀ binding, after = some binding →
      (binding.deliveryState = .idle ↔ binding.activeWakeId = none) := by
  intro binding isAfter
  cases move with
  | stay => exact holds binding isAfter
  | create idle inactive | release _ idle inactive | acknowledge _ _ _ idle inactive =>
      obtain rfl := Option.some.inj isAfter
      simp [idle, inactive]
  | rebind state active =>
      obtain rfl := Option.some.inj isAfter
      have previous := holds _ rfl
      rw [active, ← previous, state, DeliveryState.afterRebind]
      split <;> simp_all
  | inherit state active =>
      obtain rfl := Option.some.inj isAfter
      rw [state, active]
      exact holds _ rfl
  | submit wakeId _ _ state active =>
      obtain rfl := Option.some.inj isAfter
      simp [state, active]
  | result wakeId outstanding _ state active =>
      obtain rfl := Option.some.inj isAfter
      rw [active, outstanding]
      rcases state with state | state
      · simp [state]
      · simp [state]
  | interrupt submitting state active =>
      obtain rfl := Option.some.inj isAfter
      have previous := holds _ rfl
      rw [active, ← previous, submitting, state]
      simp
  | prune => cases isAfter

theorem wakeStep_idleIffInactive (target : String) (state : WakeState) (label : WakeLabel)
    (holds : IdleIffInactive target state) :
    IdleIffInactive target (wakeStep runtime state label) := by
  rcases @wakeStep_move runtime state label target with same | ⟨operation, now, -, move⟩
  · unfold IdleIffInactive
    rw [same]
    exact holds
  · exact move.idleIffInactive holds

theorem run_idleIffInactive (target : String) (labels : List WakeLabel) :
    IdleIffInactive target ((wakeMachine runtime).run labels) :=
  Machine.invariant_runFrom (wakeStep_idleIffInactive target)
    (fun _ held => by cases held) labels

theorem DeliveryMatchesWake.of_idleIffInactive (holds : IdleIffInactive target state) :
    DeliveryMatchesWake state target := by
  intro binding found
  have iff := holds binding found
  refine ⟨iff.mp, fun underWay inactive => ?_⟩
  rw [iff.mpr inactive] at underWay
  simp at underWay

/-- A wake that is not active becomes active by its own submission only. -/
theorem wakeStep_not_outstanding {target wakeId : String}
    (inactive : ¬ Outstanding state target wakeId)
    (notSubmitted : ∀ operation now, label = .call operation now →
      ¬ operation.Submits target wakeId) :
    ¬ Outstanding (wakeStep runtime state label) target wakeId := by
  rintro ⟨binding, found, active⟩
  rcases @wakeStep_move runtime state label target with same | ⟨operation, now, isCall, move⟩
  · exact inactive ⟨binding, same.symm.trans found, active⟩
  · rw [found] at move
    generalize earlier : state.binding target = row at move
    cases move with
    | stay => exact inactive ⟨binding, earlier, active⟩
    | create _ none | release _ _ none | acknowledge _ _ _ _ none =>
        rw [none] at active
        cases active
    | rebind _ same | inherit _ same | result _ _ _ _ same | interrupt _ _ same =>
        exact inactive ⟨_, earlier, same.symm.trans active⟩
    | submit submitted submits _ _ isActive =>
        obtain rfl := Option.mem_unique isActive active
        exact notSubmitted operation now isCall submits

/-- Without a submission of its own, an inactive wake stays inactive over a run. -/
theorem runFrom_not_outstanding {target wakeId : String} {labels : List WakeLabel}
    (inactive : ¬ Outstanding state target wakeId)
    (notSubmitted : ∀ operation now, .call operation now ∈ labels →
      ¬ operation.Submits target wakeId) :
    ¬ Outstanding ((wakeMachine runtime).runFrom state labels) target wakeId := by
  induction labels generalizing state with
  | nil => exact inactive
  | cons label rest ih =>
      rw [Machine.runFrom_cons]
      apply ih
      · apply wakeStep_not_outstanding inactive
        rintro operation now rfl
        exact notSubmitted operation now List.mem_cons_self
      · intro operation now member
        exact notSubmitted operation now (List.mem_cons_of_mem _ member)

/-- A step that takes a binding out of its hold is an explicit release or a
late notifier result. -/
theorem leavesHold_cases (leaves : LeavesHold runtime state label target) :
    (∃ operation now, label = .call operation now ∧ operation.EndsHold target) ∨
      LateResultOnHold state label target := by
  obtain ⟨before, after, found, held, foundAfter, notHeld⟩ := leaves
  rcases @wakeStep_move runtime state label target with same | ⟨operation, now, rfl, move⟩
  · obtain rfl := Option.some.inj ((same.trans found).symm.trans foundAfter)
    exact absurd held notHeld
  · rw [found, foundAfter] at move
    cases move with
    | stay => exact absurd held notHeld
    | rebind state => simp [state, DeliveryState.afterRebind, held] at notHeld
    | inherit state => exact absurd (state.trans held) notHeld
    | release ends => exact .inl ⟨operation, now, rfl, ends⟩
    | submit _ _ idle => rw [idle] at held; cases held
    | result wakeId outstanding fenced =>
        rcases fenced with notStale | sets
        · exact absurd held notStale
        · exact .inr ⟨before, wakeId, operation, now, found, held, outstanding, rfl, sets⟩
    | acknowledge _ _ notStale => exact absurd held notStale
    | interrupt submitting => rw [submitting] at held; cases held

section

variable (late : LateResultOnHold state label target)
include late

/-- A late notifier result takes the binding out of its hold. -/
theorem leavesHold_of_lateResult : LeavesHold runtime state label target := by
  obtain ⟨binding, wakeId, operation, now, found, held, outstanding, rfl, sets⟩ := late
  unfold WakeState.binding at found
  cases operation with
  | setWakeAccepted target' wakeId' receipt =>
      obtain ⟨rfl, rfl⟩ := sets
      refine ⟨binding, { binding with
          deliveryState := .acceptedAwaitingAck
          receiptQueuedId := some receipt.queuedId
          receiptThreadId := some receipt.threadId
          updatedAt := now }, found, held, ?_, by simp⟩
      simp [wakeStep, WakeCall.perform, setWakeAccepted, WakeState.binding,
        find?_updateBinding, found, outstanding]
  | setWakeUncertain target' wakeId' =>
      obtain ⟨rfl, rfl⟩ := sets
      refine ⟨binding, { binding with deliveryState := .uncertain, updatedAt := now },
        found, held, ?_, by simp⟩
      simp [wakeStep, WakeCall.perform, setWakeUncertain, WakeState.binding,
        find?_updateBinding, found, outstanding]
  | _ => exact absurd sets id

/-- No explicit release is a notifier result. -/
theorem not_endsHold_of_lateResult :
    ¬ ∃ operation now, label = .call operation now ∧ operation.EndsHold target := by
  obtain ⟨-, wakeId, operation, now, -, -, -, rfl, sets⟩ := late
  rintro ⟨other, at_, same, ends⟩
  obtain ⟨rfl, -⟩ := WakeLabel.call.inj same
  cases operation with
  | setWakeAccepted | setWakeUncertain => exact ends
  | _ => exact sets

end

/-- A run is safe for a target exactly when none of its steps is a notifier
result for the active wake of the target's held binding. -/
theorem wakeSafe_iff (runtime : WakeRuntime) (target : String) (labels : List WakeLabel) :
    WakeSafe runtime target labels ↔
      ∀ before label after, labels = before ++ label :: after →
        ¬ LateResultOnHold ((wakeMachine runtime).run before) label target := by
  constructor
  · intro safe before label after split late
    exact not_endsHold_of_lateResult late
      (safe.holdEndsExplicitly before label after split (leavesHold_of_lateResult late))
  · intro noLate
    refine ⟨fun before _ _ => ?_, fun before label after split leaves => ?_,
      fun before label later _ wakeId _ acknowledged notSubmitted => ?_⟩
    · exact .of_idleIffInactive (run_idleIffInactive target before)
    · rcases leavesHold_cases leaves with explicit | late
      · exact explicit
      · exact absurd late (noLate before label after split)
    · obtain ⟨-, binding, found, idle, -⟩ := acknowledged
      have inactive : ¬ Outstanding (wakeStep runtime ((wakeMachine runtime).run before) label)
          target wakeId := by
        rintro ⟨other, foundOther, active⟩
        obtain rfl := Option.mem_unique found foundOther
        have iff := wakeStep_idleIffInactive target _ label (run_idleIffInactive target before)
          binding found
        rw [iff.mp idle] at active
        cases active
      rw [Machine.run, Machine.runFrom_append, Machine.runFrom_cons]
      exact runFrom_not_outstanding inactive notSubmitted

/-- Rebinding a target while its wake is submitted, then the adapter's late
answer: the hold ends although nothing released it. -/
theorem lateResult_leaves_hold :
    ¬ WakeSafe ⟨fun _ => "", String.toLower⟩ "desktop"
      [.call (.initWakeBinding
          { targetIdentity := "desktop", threadId := "thread-1", randomUUID := "id-1" }) 1,
        .call (.setWakeSubmitting "desktop" "wake-1" (.v2 ["item"])) 2,
        .call (.initWakeBinding
          { targetIdentity := "desktop", threadId := "thread-2", randomUUID := "id-2" }) 3,
        .call (.setWakeAccepted "desktop" "wake-1" ⟨"queued-1", "thread-1"⟩) 4] := by
  intro safe
  suffices late : LateResultOnHold _ _ "desktop" from
    not_endsHold_of_lateResult late
      (safe.holdEndsExplicitly [_, _, _] _ [] rfl (leavesHold_of_lateResult late))
  exact ⟨_, "wake-1", _, _, rfl, rfl, rfl, rfl, rfl, rfl⟩

end

end Triangle.LocalMessaging
