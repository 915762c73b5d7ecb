import Triangle.LocalMessaging.Wake
import Triangle.Semantics.Machine

/-!
# What one wake operation does to one binding

`WakeMove` lists the moves of a single target's row, each with the calls that
can make it. `wakeStep_move` takes the operations apart once; results about runs
use the list.
-/

namespace Triangle.LocalMessaging

open Triangle.Std Triangle.Semantics

/-- One call of a wake operation, or the other events that touch the wake tables. -/
inductive WakeCall
  | initWakeBinding (args : InitWakeBindingArgs)
  | initInteractiveWakeBinding (args : SessionArgs)
  | bindAttachedSessionWake (args : SessionArgs)
  | reserveInteractiveWake (args : SessionArgs) (reservationId : String)
  | reportInteractiveWakeResult (args : SessionArgs) (wakeId : String) (accepted : Bool)
  | ackInteractiveWake (args : SessionArgs) (wakeId : String)
  | setWakeSubmitting (targetIdentity wakeId : String) (fingerprint : Fingerprint)
  | setWakeAccepted (targetIdentity wakeId : String) (receipt : WakeReceipt)
  | setWakeUncertain (targetIdentity wakeId : String)
  | reconcileStaleWake (args : ReconcileStaleWakeArgs)
  | ackWake (requester wakeId : String) (generation : Int)
  | reopen
  | pruneOrphaned (liveSessions : List String)

/-- A step: a call at some time, or other messages and replies in the journal. -/
inductive WakeLabel
  | call (operation : WakeCall) (now : Int)
  | obligations (journal : Journal)

/-- The wake tables beside the messages and replies that are wake obligations. -/
structure WakeState where
  store : WakeStore
  journal : Journal

/-- The row of a target. -/
def WakeState.binding (state : WakeState) (target : String) : Option WakeBinding :=
  state.store.bindings.find? target

section

variable (runtime : WakeRuntime)

/-- The wake tables after a call; a call that throws leaves them. -/
def WakeCall.perform (now : Int) (state : WakeState) : WakeCall → Outcome WakeStore
  | .initWakeBinding args => LocalMessaging.initWakeBinding runtime args now state.store
  | .initInteractiveWakeBinding args =>
      LocalMessaging.initInteractiveWakeBinding runtime args now state.store
  | .bindAttachedSessionWake args =>
      LocalMessaging.bindAttachedSessionWake runtime args now state.store
  | .reserveInteractiveWake args reservationId =>
      (LocalMessaging.reserveInteractiveWake runtime args reservationId now state.journal
        state.store).map (·.1)
  | .reportInteractiveWakeResult args wakeId accepted =>
      (LocalMessaging.reportInteractiveWakeResult runtime args wakeId accepted now
        state.store).map (·.1)
  | .ackInteractiveWake args wakeId =>
      (LocalMessaging.ackInteractiveWake runtime args wakeId now state.store).map (·.1)
  | .setWakeSubmitting target wakeId fingerprint =>
      LocalMessaging.setWakeSubmitting target wakeId fingerprint now state.store
  | .setWakeAccepted target wakeId receipt =>
      .ok (LocalMessaging.setWakeAccepted target wakeId receipt now state.store)
  | .setWakeUncertain target wakeId =>
      .ok (LocalMessaging.setWakeUncertain target wakeId now state.store)
  | .reconcileStaleWake args => LocalMessaging.reconcileStaleWake args now state.store
  | .ackWake requester wakeId generation =>
      LocalMessaging.ackWake requester wakeId generation now state.store
  | .reopen => .ok (recoverWakes now state.store)
  | .pruneOrphaned liveSessions => .ok (pruneOrphanedWakes liveSessions state.store)

/-- One step of the wake protocol. -/
def wakeStep (state : WakeState) : WakeLabel → WakeState
  | .call operation now =>
      match operation.perform runtime now state with
      | .ok store => { state with store := store }
      | .error _ => state
  | .obligations journal => { state with journal := journal }

/-- The wake protocol from empty tables. -/
def wakeMachine : Machine WakeState WakeLabel where
  initial :=
    { store := { bindings := .empty, history := .empty }
      journal :=
        { messages := .empty
          replies := .empty
          reconciliations := .empty
          pairAdmissions := .empty } }
  step := wakeStep runtime

end

/-- The call puts `wakeId` under way for the target. -/
def WakeCall.Submits (target wakeId : String) : WakeCall → Prop
  | .setWakeSubmitting target' wakeId' _ => target' = target ∧ wakeId' = wakeId
  | .reserveInteractiveWake args reservationId =>
      args.targetIdentity = target ∧ reservationId = wakeId
  | _ => False

/-- The call reports the adapter's result for `wakeId` without a look at the state. -/
def WakeCall.SetsResult (target wakeId : String) : WakeCall → Prop
  | .setWakeAccepted target' wakeId' _ => target' = target ∧ wakeId' = wakeId
  | .setWakeUncertain target' wakeId' => target' = target ∧ wakeId' = wakeId
  | _ => False

/-- The call acknowledges `wakeId`. -/
def WakeCall.Acknowledges (target wakeId : String) : WakeCall → Prop
  | .ackWake requester wakeId' _ => requester = target ∧ wakeId' = wakeId
  | .ackInteractiveWake args wakeId' => args.targetIdentity = target ∧ wakeId' = wakeId
  | _ => False

/-- The call ends a hold explicitly. -/
def WakeCall.EndsHold (target : String) : WakeCall → Prop
  | .reconcileStaleWake args => args.requester = target
  | .bindAttachedSessionWake args => args.targetIdentity = target
  | _ => False

/-- The moves of one target's row. -/
inductive WakeMove (target : String) (operation : WakeCall) :
    Option WakeBinding → Option WakeBinding → Prop
  | stay {row} : WakeMove target operation row row
  | create {after} (idle : after.deliveryState = .idle) (inactive : after.activeWakeId = none) :
      WakeMove target operation none (some after)
  | rebind {before after} (state : after.deliveryState = before.deliveryState.afterRebind)
      (active : after.activeWakeId = before.activeWakeId) :
      WakeMove target operation (some before) (some after)
  | inherit {before after} (state : after.deliveryState = before.deliveryState)
      (active : after.activeWakeId = before.activeWakeId) :
      WakeMove target operation (some before) (some after)
  | release {before after} (ends : operation.EndsHold target)
      (idle : after.deliveryState = .idle) (inactive : after.activeWakeId = none) :
      WakeMove target operation (some before) (some after)
  | submit {before after} (wakeId : String) (submits : operation.Submits target wakeId)
      (idle : before.deliveryState = .idle) (state : after.deliveryState = .submitting)
      (active : after.activeWakeId = some wakeId) :
      WakeMove target operation (some before) (some after)
  | result {before after} (wakeId : String) (outstanding : before.activeWakeId = some wakeId)
      (fenced : before.deliveryState ≠ .staleHeld ∨ operation.SetsResult target wakeId)
      (state : after.deliveryState = .acceptedAwaitingAck ∨ after.deliveryState = .uncertain)
      (active : after.activeWakeId = before.activeWakeId) :
      WakeMove target operation (some before) (some after)
  | acknowledge {before after} (wakeId : String) (acks : operation.Acknowledges target wakeId)
      (notStale : before.deliveryState ≠ .staleHeld) (idle : after.deliveryState = .idle)
      (inactive : after.activeWakeId = none) :
      WakeMove target operation (some before) (some after)
  | interrupt {before after} (submitting : before.deliveryState = .submitting)
      (state : after.deliveryState = .uncertain)
      (active : after.activeWakeId = before.activeWakeId) :
      WakeMove target operation (some before) (some after)
  | prune {before} : WakeMove target operation (some before) none

variable {store : WakeStore} {target : String}

/-- A change of one target's row is read back at that target only. -/
theorem find?_updateBinding {target changed : String} {change : WakeBinding → WakeBinding}
    {keeps : ∀ binding, (change binding).targetIdentity = binding.targetIdentity} :
    (store.updateBinding changed change keeps).bindings.find? target =
      if target = changed then (store.bindings.find? target).map change
      else store.bindings.find? target := by
  rw [WakeStore.updateBinding, Table.find?_update]
  cases found : store.bindings.find? target with
  | none => simp
  | some row =>
      obtain ⟨-, rfl⟩ := Table.find?_some found
      by_cases same : row.targetIdentity = changed
      · simp [same]
      · simp [same]

/-- A new binding is read back at its target only. -/
theorem find?_insertBinding {binding : WakeBinding} :
    (store.insertBinding binding).bindings.find? target =
      if target = binding.targetIdentity then some binding else store.bindings.find? target := by
  rw [WakeStore.insertBinding, Table.find?_upsert]

/-- `requireBinding` returns the row of its target. -/
theorem requireBinding_ok {error : MessagingError} {binding : WakeBinding}
    (found : store.requireBinding target error = .ok binding) :
    store.bindings.find? target = some binding := by
  unfold WakeStore.requireBinding at found
  cases held : store.bindings.find? target with
  | none => rw [held] at found; cases found
  | some row =>
      rw [held] at found
      exact congrArg some (Except.ok.inj found)

section

variable {runtime : WakeRuntime} {target : String} {now : Int} {store after : WakeStore}

variable {operation : WakeCall} {args : SessionArgs}

variable {changed wakeId : String} {change : WakeBinding → WakeBinding}

/-- A change of one row moves every target as `moved` says for the changed one. -/
private theorem move_of_updateBinding {existing : WakeBinding}
    (found : store.bindings.find? changed = some existing)
    (keeps : ∀ binding, (change binding).targetIdentity = binding.targetIdentity)
    (moved : changed = target → WakeMove target operation (some existing) (some (change existing))) :
    WakeMove target operation (store.bindings.find? target)
      ((store.updateBinding changed change keeps).bindings.find? target) := by
  rw [find?_updateBinding]
  by_cases same : target = changed
  · subst same
    rw [if_pos rfl, found]
    exact moved rfl
  · rw [if_neg same]
    exact .stay

/-- A new row moves only its own target, from nothing. -/
private theorem move_of_insertBinding {binding : WakeBinding}
    (absent : store.bindings.find? binding.targetIdentity = none)
    (idle : binding.deliveryState = .idle) (inactive : binding.activeWakeId = none) :
    WakeMove target operation (store.bindings.find? target)
      ((store.insertBinding binding).bindings.find? target) := by
  rw [find?_insertBinding]
  by_cases same : target = binding.targetIdentity
  · subst same
    rw [if_pos rfl, absent]
    exact .create idle inactive
  · rw [if_neg same]
    exact .stay

theorem initWakeBinding_move {args : InitWakeBindingArgs}
    (succeeded : initWakeBinding runtime args now store = .ok after) :
    WakeMove target (.initWakeBinding args) (store.bindings.find? target)
      (after.bindings.find? target) := by
  simp only [initWakeBinding, require_bind_ok] at succeeded
  obtain ⟨-, rest⟩ := succeeded
  split at rest
  next absent =>
    obtain rfl := Except.ok.inj rest
    exact move_of_insertBinding absent rfl rfl
  next existing found =>
    split at rest
    · obtain rfl := Except.ok.inj rest
      refine move_of_updateBinding found (fun row => ?_) fun _ => ?_
      · rfl
      · exact .rebind rfl rfl
    · obtain rfl := Except.ok.inj rest
      exact .stay

theorem initInteractiveWakeBinding_move
    (succeeded : initInteractiveWakeBinding runtime args now store = .ok after) :
    WakeMove target (.initInteractiveWakeBinding args) (store.bindings.find? target)
      (after.bindings.find? target) := by
  simp only [initInteractiveWakeBinding, require_bind_ok] at succeeded
  obtain ⟨-, rest⟩ := succeeded
  split at rest
  next absent =>
    obtain rfl := Except.ok.inj rest
    exact move_of_insertBinding absent rfl rfl
  next existing found =>
    split at rest
    · obtain rfl := Except.ok.inj rest
      refine move_of_updateBinding found (fun row => ?_) fun _ => ?_
      · rfl
      · exact .rebind rfl rfl
    · obtain rfl := Except.ok.inj rest
      exact .stay

theorem bindAttachedSessionWake_move
    (succeeded : bindAttachedSessionWake runtime args now store = .ok after) :
    WakeMove target (.bindAttachedSessionWake args) (store.bindings.find? target)
      (after.bindings.find? target) := by
  simp only [bindAttachedSessionWake, require_bind_ok] at succeeded
  obtain ⟨-, rest⟩ := succeeded
  split at rest
  next absent =>
    obtain rfl := Except.ok.inj rest
    exact move_of_insertBinding absent rfl rfl
  next existing found =>
    split at rest
    · obtain rfl := Except.ok.inj rest
      exact .stay
    · split at rest
      · split at rest
        · cases rest
        · obtain rfl := Except.ok.inj rest
          refine move_of_updateBinding found (fun row => ?_) fun _ => ?_
          · rfl
          · exact .inherit rfl rfl
      · obtain rfl := Except.ok.inj rest
        refine move_of_updateBinding found (fun row => ?_) fun same => ?_
        · rfl
        · exact .release same rfl rfl

/-- The row that passed the session checks is the target's and is not held. -/
theorem requireSession_ok {staleMessage : String} {generationMessage : Int → String}
    {binding : WakeBinding}
    (passed : requireSession runtime args store staleMessage generationMessage = .ok binding) :
    store.bindings.find? args.targetIdentity = some binding ∧
      binding.deliveryState ≠ .staleHeld := by
  simp only [requireSession, bind_ok (WakeStore.requireBinding _ _ _), require_bind_ok, pure_ok]
    at passed
  obtain ⟨found, present, notStale, -, -, -, rfl⟩ := passed
  exact ⟨requireBinding_ok present, notStale⟩

theorem reserveInteractiveWake_move {reservationId : String} {journal : Journal}
    {answer : ReserveAnswer}
    (succeeded : reserveInteractiveWake runtime args reservationId now journal store
      = .ok (after, answer)) :
    WakeMove target (.reserveInteractiveWake args reservationId) (store.bindings.find? target)
      (after.bindings.find? target) := by
  simp only [reserveInteractiveWake, requireSessionParams, require_bind_ok,
    bind_ok (requireSession _ _ _ _ _)] at succeeded
  obtain ⟨-, binding, passed, rest⟩ := succeeded
  obtain ⟨found, -⟩ := requireSession_ok passed
  -- Every answer but the last leaves the tables as they are.
  split at rest
  · obtain ⟨rfl, -⟩ := pair_ok rest
    exact .stay
  · split at rest
    · obtain ⟨rfl, -⟩ := pair_ok rest
      exact .stay
    split at rest
    · obtain ⟨rfl, -⟩ := pair_ok rest
      exact .stay
    next wasIdle =>
    split at rest
    · obtain ⟨rfl, -⟩ := pair_ok rest
      exact .stay
    split at rest
    · obtain ⟨rfl, -⟩ := pair_ok rest
      exact .stay
    split at rest
    · obtain ⟨rfl, -⟩ := pair_ok rest
      exact .stay
    · obtain ⟨rfl, -⟩ := pair_ok rest
      rw [not_not] at wasIdle
      refine move_of_updateBinding found (fun row => ?_) fun same => ?_
      · rfl
      · exact .submit reservationId ⟨same, rfl⟩ wasIdle rfl rfl

theorem reportInteractiveWakeResult_move {accepted : Bool} {answer : ReportAnswer}
    (succeeded : reportInteractiveWakeResult runtime args wakeId accepted now store
      = .ok (after, answer)) :
    WakeMove target (.reportInteractiveWakeResult args wakeId accepted)
      (store.bindings.find? target) (after.bindings.find? target) := by
  simp only [reportInteractiveWakeResult, requireSessionParams, require_bind_ok,
    bind_ok (requireSession _ _ _ _ _)] at succeeded
  obtain ⟨-, binding, passed, rest⟩ := succeeded
  obtain ⟨found, notStale⟩ := requireSession_ok passed
  split at rest
  · obtain ⟨rfl, -⟩ := pair_ok rest
    exact .stay
  · simp only [require_bind_ok] at rest
    obtain ⟨outstanding, rest⟩ := rest
    obtain ⟨rfl, -⟩ := pair_ok rest
    refine move_of_updateBinding found (fun row => by split <;> rfl) fun _ => ?_
    rw [if_pos outstanding]
    refine .result wakeId outstanding (.inl notStale) ?_ rfl
    cases accepted with
    | true => exact .inl rfl
    | false => exact .inr rfl

theorem ackInteractiveWake_move {duplicate : Bool}
    (succeeded : ackInteractiveWake runtime args wakeId now store = .ok (after, duplicate)) :
    WakeMove target (.ackInteractiveWake args wakeId) (store.bindings.find? target)
      (after.bindings.find? target) := by
  simp only [ackInteractiveWake, requireSessionParams, require_bind_ok,
    bind_ok (requireSession _ _ _ _ _)] at succeeded
  obtain ⟨-, binding, passed, rest⟩ := succeeded
  obtain ⟨found, notStale⟩ := requireSession_ok passed
  split at rest
  · simp only [require_bind_ok] at rest
    obtain ⟨rfl, -⟩ := pair_ok rest.2
    exact .stay
  next active =>
    rw [not_not] at active
    obtain ⟨rfl, -⟩ := pair_ok rest
    refine move_of_updateBinding found (fun row => by split <;> rfl) fun same => ?_
    rw [if_pos active]
    exact .acknowledge wakeId ⟨same, rfl⟩ notStale rfl rfl

theorem setWakeSubmitting_move {fingerprint : Fingerprint}
    (succeeded : setWakeSubmitting changed wakeId fingerprint now store = .ok after) :
    WakeMove target (.setWakeSubmitting changed wakeId fingerprint) (store.bindings.find? target)
      (after.bindings.find? target) := by
  simp only [setWakeSubmitting, bind_ok (WakeStore.requireBinding _ _ _), require_bind_ok]
    at succeeded
  obtain ⟨binding, present, idle, rest⟩ := succeeded
  obtain rfl := Except.ok.inj rest
  refine move_of_updateBinding (requireBinding_ok present) (fun row => ?_) fun same => ?_
  · rfl
  · exact .submit wakeId ⟨same, rfl⟩ idle rfl rfl

/-- A result that selects its row by the active wake alone. -/
private theorem move_of_setResult
    {keeps : ∀ row, (if row.activeWakeId = some wakeId then change row else row).targetIdentity
      = row.targetIdentity} (sets : changed = target → operation.SetsResult target wakeId)
    (state : ∀ row, (change row).deliveryState = .acceptedAwaitingAck ∨
      (change row).deliveryState = .uncertain)
    (active : ∀ row, (change row).activeWakeId = row.activeWakeId) :
    WakeMove target operation (store.bindings.find? target)
      ((store.updateBinding changed
        (fun row => if row.activeWakeId = some wakeId then change row else row) keeps
          ).bindings.find? target) := by
  cases found : store.bindings.find? changed with
  | none =>
      rw [find?_updateBinding]
      by_cases same : target = changed
      · subst same
        rw [if_pos rfl, found]
        exact .stay
      · rw [if_neg same]
        exact .stay
  | some existing =>
      refine move_of_updateBinding found keeps fun same => ?_
      by_cases outstanding : existing.activeWakeId = some wakeId
      · rw [if_pos outstanding]
        exact .result wakeId outstanding (.inr (sets same)) (state existing) (active existing)
      · rw [if_neg outstanding]
        exact .stay

theorem reconcileStaleWake_move {args : ReconcileStaleWakeArgs}
    (succeeded : reconcileStaleWake args now store = .ok after) :
    WakeMove target (.reconcileStaleWake args) (store.bindings.find? target)
      (after.bindings.find? target) := by
  simp only [reconcileStaleWake, bind_ok (WakeStore.requireBinding _ _ _), require_bind_ok]
    at succeeded
  obtain ⟨binding, present, -, -, -, -, rest⟩ := succeeded
  obtain rfl := Except.ok.inj rest
  refine move_of_updateBinding (requireBinding_ok present) (fun row => ?_) fun same => ?_
  · rfl
  · exact .release same rfl rfl

theorem ackWake_move {requester wakeId : String} {generation : Int}
    (succeeded : ackWake requester wakeId generation now store = .ok after) :
    WakeMove target (.ackWake requester wakeId generation) (store.bindings.find? target)
      (after.bindings.find? target) := by
  simp only [ackWake, bind_ok (WakeStore.requireBinding _ _ _), require_bind_ok] at succeeded
  obtain ⟨-, binding, present, notStale, -, -, rest⟩ := succeeded
  obtain rfl := Except.ok.inj rest
  refine move_of_updateBinding (requireBinding_ok present) (fun row => ?_) fun same => ?_
  · rfl
  · exact .acknowledge wakeId ⟨same, rfl⟩ notStale rfl rfl

theorem recoverWakes_move :
    WakeMove target .reopen (store.bindings.find? target)
      ((recoverWakes now store).bindings.find? target) := by
  rw [recoverWakes, Table.find?_update]
  cases store.bindings.find? target with
  | none => exact .stay
  | some row =>
      by_cases submitting : row.deliveryState = .submitting
      · simp only [Option.map_some, submitting, decide_true, if_true]
        exact .interrupt submitting rfl rfl
      · simp only [Option.map_some, submitting, decide_false, Bool.false_eq_true, if_false]
        exact .stay

theorem pruneOrphanedWakes_move {liveSessions : List String} :
    WakeMove target (.pruneOrphaned liveSessions) (store.bindings.find? target)
      ((pruneOrphanedWakes liveSessions store).bindings.find? target) := by
  simp only [pruneOrphanedWakes, Table.find?_delete]
  cases store.bindings.find? target with
  | none => exact .stay
  | some row =>
      rw [Option.filter_some]
      split
      · exact .stay
      · exact .prune

/-- Every successful call moves every target's row by one of the listed moves. -/
theorem WakeCall.perform_move {operation : WakeCall} {state : WakeState}
    (succeeded : operation.perform runtime now state = .ok after) :
    WakeMove target operation (state.binding target) (after.bindings.find? target) := by
  unfold WakeState.binding
  cases operation with
  | initWakeBinding args => exact initWakeBinding_move succeeded
  | initInteractiveWakeBinding args => exact initInteractiveWakeBinding_move succeeded
  | bindAttachedSessionWake args => exact bindAttachedSessionWake_move succeeded
  | reserveInteractiveWake args reservationId =>
      obtain ⟨⟨_, answer⟩, result, rfl⟩ := map_ok succeeded
      exact reserveInteractiveWake_move result
  | reportInteractiveWakeResult args wakeId accepted =>
      obtain ⟨⟨_, answer⟩, result, rfl⟩ := map_ok succeeded
      exact reportInteractiveWakeResult_move result
  | ackInteractiveWake args wakeId =>
      obtain ⟨⟨_, duplicate⟩, result, rfl⟩ := map_ok succeeded
      exact ackInteractiveWake_move result
  | setWakeSubmitting changed wakeId fingerprint => exact setWakeSubmitting_move succeeded
  | setWakeAccepted changed wakeId receipt =>
      obtain rfl := Except.ok.inj succeeded
      exact move_of_setResult (fun same => ⟨same, rfl⟩) (fun _ => .inl rfl) fun _ => rfl
  | setWakeUncertain changed wakeId =>
      obtain rfl := Except.ok.inj succeeded
      exact move_of_setResult (fun same => ⟨same, rfl⟩) (fun _ => .inr rfl) fun _ => rfl
  | reconcileStaleWake args => exact reconcileStaleWake_move succeeded
  | ackWake requester wakeId generation => exact ackWake_move succeeded
  | reopen =>
      obtain rfl := Except.ok.inj succeeded
      exact recoverWakes_move
  | pruneOrphaned liveSessions =>
      obtain rfl := Except.ok.inj succeeded
      exact pruneOrphanedWakes_move

/-- A step moves every target's row, by its call, or leaves it. -/
theorem wakeStep_move (state : WakeState) (label : WakeLabel) (target : String) :
    (wakeStep runtime state label).binding target = state.binding target ∨
      ∃ operation now, label = .call operation now ∧
        WakeMove target operation (state.binding target)
          ((wakeStep runtime state label).binding target) := by
  cases label with
  | obligations journal => exact .inl rfl
  | call operation now =>
      cases result : operation.perform runtime now state with
      | error problem => exact .inl (by simp [wakeStep, result])
      | ok after =>
          refine .inr ⟨operation, now, rfl, ?_⟩
          have move := @WakeCall.perform_move runtime target now after operation state result
          simpa [wakeStep, result, WakeState.binding] using move

end

end Triangle.LocalMessaging
