import Triangle.WakeClient.Host

/-!
# What a task may write

A task knows facts: cursors up to which everything was delivered, poll answers,
batches and accepted wakes. It writes a cursor only for one of five
reasons, and these are what the barrier rests on.
-/

namespace Triangle.WakeClient

open Triangle.Semantics

/-- Something a task has learned. -/
inductive Fact
  | delivered (cursor : Int)
  | answered (cursor : Int) (answer : PollAnswer)
  | batch (entries : Pending)
  | accepted (wake : Wake)
  | lane (cursor : Int)

/-- Why a cursor may be written. That a lane cursor is above one that was read does
not happen once the lanes are retired. -/
inductive Justified (profiles : Profiles) (known : List Fact) (next : Int) : Prop
  | again (known : Fact.delivered next ∈ known)
  | foreign {cursor : Int} {events : List WakeEvent}
      (answered : Fact.answered cursor (.response (some next) events) ∈ known)
      (none : localEvents profiles events = []) (grows : cursor ≤ next)
  | flushed {entries : Pending} {instanceId : String} (batch : Fact.batch entries ∈ known)
      (greatest : (instanceId, next) ∈ entries) (above : ∀ entry ∈ entries, entry.2 ≤ next)
      (accepted : ∀ entry ∈ entries, ∃ wake, Fact.accepted wake ∈ known ∧
        wake.instanceId = entry.1 ∧ wake.highWatermark = entry.2)
  | migrated {cursor : Int} (isDelivered : Fact.delivered cursor ∈ known)
      (lane : Fact.lane next ∈ known) (greater : cursor < next)
  | resynced {cursor : Int} (answered : Fact.answered cursor (.resyncRequired next) ∈ known)
      (accepted : ∀ instanceId ∈ profiles.instances, ∃ wake, Fact.accepted wake ∈ known ∧
        wake.instanceId = instanceId ∧ wake.highWatermark = next)

section

variable (profiles : Profiles)

/-- The calls that a task is entitled to. -/
def Allowed (known : List Fact) : Call → Prop
  | .poll cursor => Fact.delivered cursor ∈ known
  | .acceptEvents _ events => ∃ cursor next, Fact.answered cursor (.response next events) ∈ known
  | .rename cursor => Justified profiles known cursor
  | .setCursor cursor => Justified profiles known cursor
  | _ => True

/-- `acceptEvents` counts the local events. -/
def Possible : (request : Call) → Answer request → Prop
  | .acceptEvents _ events, accepted => accepted = (localEvents profiles events).length
  | _, _ => True

/-- The facts in an answer. -/
def factsOf : (request : Call) → Answer request → List Fact
  | .loadedCursor, some cursor => [.delivered cursor]
  | .readFile, .ok cursor => [.delivered cursor]
  | .laneCursor _, .ok cursor => [.lane cursor]
  | .poll cursor, answer => [.answered cursor answer]
  | .timer _, entries => [.batch entries]
  | .takePending _, entries => [.batch entries]
  | .handler wake, .accepted => [.accepted wake]
  | _, _ => []

/-- Nothing is forgotten. -/
def learn (known : List Fact) (request : Call) (answer : Answer request) : List Fact :=
  factsOf request answer ++ known

/-- The task keeps to what it may do, and ends with more facts and a value that
meets the postcondition if it returns. -/
def Fine {α : Type} (known : List Fact) (task : Task α) (post : List Fact → α → Prop) : Prop :=
  Program.Meets (Allowed profiles) (Possible profiles) learn known task fun later result =>
    known ⊆ later ∧ ∀ value, result = .ok value → post later value

end

section

variable {profiles : Profiles} {known : List Fact} {α β : Type}

theorem Justified.grow {later : List Fact} {next : Int} (grows : known ⊆ later)
    (justified : Justified profiles known next) : Justified profiles later next := by
  cases justified with
  | again isKnown => exact .again (grows isKnown)
  | foreign answered none atLeast => exact .foreign (grows answered) none atLeast
  | flushed batch greatest above accepted =>
      refine .flushed (grows batch) greatest above fun entry member => ?_
      obtain ⟨wake, isKnown, same⟩ := accepted entry member
      exact ⟨wake, grows isKnown, same⟩
  | migrated isDelivered lane greater => exact .migrated (grows isDelivered) (grows lane) greater
  | resynced answered accepted =>
      refine .resynced (grows answered) fun instanceId member => ?_
      obtain ⟨wake, isKnown, same⟩ := accepted instanceId member
      exact ⟨wake, grows isKnown, same⟩

variable {task : Task α} {problem : WakeError} {cursor : Int} {next : Option Int}
  {events : List WakeEvent}

theorem Fine.bind {rest : α → Task β} {middle : List Fact → α → Prop} {post : List Fact → β → Prop}
    (first : Fine profiles known task middle)
    (goesOn : ∀ later value, known ⊆ later → middle later value →
      Fine profiles later (rest value) post) : Fine profiles known (task >>= rest) post := by
  apply Program.Meets.bind
  apply Program.Meets.imp _ first
  intro later result holds
  cases result with
  | ok value =>
      apply Program.Meets.imp _ (goesOn later value holds.1 (holds.2 value rfl))
      intro last result rest
      exact ⟨List.Subset.trans holds.1 rest.1, rest.2⟩
  | error problem => exact ⟨holds.1, nofun⟩

theorem Fine.imp {first second : List Fact → α → Prop}
    (implies : ∀ later value, known ⊆ later → first later value → second later value)
    (fine : Fine profiles known task first) : Fine profiles known task second := by
  apply Program.Meets.imp _ fine
  intro later result holds
  exact ⟨holds.1, fun value isValue => implies later value holds.1 (holds.2 value isValue)⟩

variable {post : List Fact → α → Prop}

theorem Fine.pure {value : α} (holds : post known value) :
    Fine profiles known (Pure.pure value : Task α) post := by
  refine ⟨List.Subset.refl known, fun other isValue => ?_⟩
  cases isValue
  exact holds

theorem Fine.fail : Fine profiles known (Program.fail problem : Task α) post :=
  ⟨List.Subset.refl known, nofun⟩

theorem Fine.outcome (fine : Fine profiles known task post) :
    Fine profiles known task.outcome fun later result =>
      ∀ value, result = .ok value → post later value := by
  apply Program.Meets.outcome
  apply Program.Meets.imp _ fine
  intro later result holds
  refine ⟨holds.1, fun other isOther => ?_⟩
  cases isOther
  exact holds.2

theorem Fine.ensure {condition : Prop} [Decidable condition] :
    Fine profiles known (Program.ensure condition problem) fun _ _ => condition := by
  by_cases holds : condition
  · rw [Program.ensure, if_pos holds]
    exact Fine.pure holds
  · rw [Program.ensure, if_neg holds]
    exact Fine.fail

section

variable (request : Call) (allowed : Allowed profiles known request)
include request allowed

/-- One call and the facts in its answer. -/
theorem Fine.ask :
    Fine profiles known (ask request) fun later answer =>
      Possible profiles request answer ∧ factsOf request answer ⊆ later := by
  refine ⟨allowed, fun answer possible => ?_⟩
  refine ⟨List.subset_append_right _ _, fun value isValue => ?_⟩
  cases isValue
  exact ⟨possible, List.subset_append_left _ _⟩

/-- One call that may throw, and the facts in its answer. -/
theorem Fine.attempt {Value Problem : Type} {read : Answer request → Except Problem Value}
    {problem : Problem → WakeError} :
    Fine profiles known (Program.attempt request read problem) fun later value =>
      ∃ answer, read answer = .ok value ∧ factsOf request answer ⊆ later := by
  refine ⟨allowed, fun answer _ => ?_⟩
  dsimp only
  cases isRead : read answer with
  | error cause => exact ⟨List.subset_append_right _ _, nofun⟩
  | ok value =>
      refine ⟨List.subset_append_right _ _, fun other isValue => ?_⟩
      cases isValue
      exact ⟨answer, isRead, List.subset_append_left _ _⟩

end

/-! ## The tasks -/

theorem ensureLoaded_fine : Fine profiles known ensureLoaded fun _ _ => True := by
  apply Fine.bind (Fine.ask .loadedCursor trivial)
  intro later answer _ facts
  cases answer with
  | some cursor => exact Fine.pure trivial
  | none =>
      apply Fine.bind (Fine.attempt .readFile trivial)
      rintro last cursor _ ⟨answer, isRead, facts⟩
      cases answer with
      | error _ => cases isRead
      | ok value =>
          obtain rfl := Except.ok.inj isRead
          exact (Fine.ask (.setCursor value) (.again (facts List.mem_cons_self))).imp fun _ _ _ _ => trivial

/-- A cursor that was read is one up to which everything was delivered. -/
theorem readCursor_fine :
    Fine profiles known readCursor fun later cursor => Fact.delivered cursor ∈ later := by
  apply ensureLoaded_fine.bind
  intro later _ _ _
  apply Fine.bind (Fine.ask .loadedCursor trivial)
  rintro last answer _ ⟨-, facts⟩
  cases answer with
  | some cursor => exact Fine.pure (facts List.mem_cons_self)
  | none => exact Fine.fail

/-- A justified cursor may be written. -/
theorem writeCursor_fine {next : Int} (justified : Justified profiles known next) :
    Fine profiles known (writeCursor next) fun _ _ => True := by
  apply ensureLoaded_fine.bind
  intro loaded _ grows _
  apply Fine.bind Fine.ensure
  intro checked _ further _
  have still := (justified.grow grows).grow further
  apply Fine.bind (Fine.attempt (.rename next) still)
  intro renamed _ last _
  exact (Fine.ask (.setCursor next) (still.grow last)).imp fun _ _ _ _ => trivial

theorem onWake_fine (wake : Wake) :
    Fine profiles known (onWake wake) fun later _ => Fact.accepted wake ∈ later := by
  apply Fine.bind (Fine.ask (.handler wake) trivial)
  rintro later answer _ ⟨-, facts⟩
  apply Fine.ensure.imp
  intro last _ grows isAccepted
  subst isAccepted
  exact grows (facts List.mem_cons_self)

/-- Handing out returns only when every wake was accepted. -/
theorem onWakes_fine (wakes : List Wake) :
    Fine profiles known (onWakes wakes) fun later _ =>
      ∀ wake ∈ wakes, Fact.accepted wake ∈ later := by
  induction wakes generalizing known with
  | nil => exact Fine.pure nofun
  | cons wake rest ih =>
      apply (onWake_fine wake).bind
      intro later _ _ isAccepted
      apply ih.imp
      intro last _ grows others other member
      rcases List.mem_cons.mp member with rfl | isRest
      · exact grows isAccepted
      · exact others other isRest

/-- The greatest watermark of a batch is that of one of its entries. -/
theorem maxCursor_mem (instanceId : String) (first : Int) (rest : Pending) :
    ∃ entry ∈ (instanceId, first) :: rest, entry.2 = maxCursor first rest := by
  induction rest generalizing instanceId first with
  | nil => exact ⟨(instanceId, first), List.mem_cons_self, rfl⟩
  | cons next rest ih =>
      obtain ⟨entry, member, isGreatest⟩ := ih instanceId (max first next.2)
      rcases List.mem_cons.mp member with rfl | isRest
      · have isMax : max first next.2 = maxCursor first (next :: rest) := isGreatest
        rcases Int.le_total next.2 first with atMost | atLeast
        · exact ⟨(instanceId, first), List.mem_cons_self, by rw [← isMax]; omega⟩
        · exact ⟨next, List.mem_cons_of_mem _ List.mem_cons_self, by rw [← isMax]; omega⟩
      · exact ⟨entry, List.mem_cons_of_mem _ (List.mem_cons_of_mem _ isRest), isGreatest⟩

theorem le_maxCursor (first : Int) (rest : Pending) :
    first ≤ maxCursor first rest ∧ ∀ entry ∈ rest, entry.2 ≤ maxCursor first rest := by
  induction rest generalizing first with
  | nil => exact ⟨Int.le_refl first, nofun⟩
  | cons next rest ih =>
      obtain ⟨greatest, others⟩ := ih (max first next.2)
      change first ≤ maxCursor (max first next.2) rest ∧
        ∀ entry ∈ next :: rest, entry.2 ≤ maxCursor (max first next.2) rest
      refine ⟨by omega, fun entry member => ?_⟩
      rcases List.mem_cons.mp member with rfl | isRest
      · omega
      · exact others entry isRest

theorem flush_fine (batch : Pending) (isBatch : Fact.batch batch ∈ known) :
    Fine profiles known (flush batch) fun _ _ => True := by
  cases batch with
  | nil => exact Fine.pure trivial
  | cons first rest =>
      obtain ⟨instanceId, highWatermark⟩ := first
      apply (onWakes_fine _).bind
      intro later _ grows accepted
      obtain ⟨entry, member, isGreatest⟩ := maxCursor_mem instanceId highWatermark rest
      obtain ⟨atLeast, others⟩ := le_maxCursor highWatermark rest
      apply writeCursor_fine
      apply Justified.flushed (grows isBatch)
      · rw [← isGreatest]
        exact member
      · intro other isOther
        rcases List.mem_cons.mp isOther with rfl | isRest
        · exact atLeast
        · exact others other isRest
      · intro other isOther
        exact ⟨_, accepted _ (List.mem_map_of_mem isOther), rfl, rfl⟩

variable (client : Nat)

theorem timerFired_fine : Fine profiles known (timerFired client) fun _ _ => True := by
  apply Fine.bind (Fine.ask (.timer client) trivial)
  rintro later batch _ ⟨-, facts⟩
  exact flush_fine batch (facts List.mem_cons_self)

theorem advanceCursor_fine {accepted : Nat}
    (answered : Fact.answered cursor (.response next events) ∈ known)
    (isCount : accepted = (localEvents profiles events).length) :
    Fine profiles known (advanceCursor accepted cursor next) fun _ _ => True := by
  cases next with
  | none => exact Fine.pure trivial
  | some next =>
      rw [advanceCursor]
      by_cases checks : accepted = 0 ∧ isSafeInteger next = true ∧ cursor ≤ next
      · rw [if_pos checks]
        have noEvents : localEvents profiles events = [] :=
          List.eq_nil_of_length_eq_zero (isCount.symm.trans checks.1)
        exact writeCursor_fine (.foreign answered noEvents checks.2.2)
      · rw [if_neg checks]
        exact Fine.pure trivial

theorem settleResponse_fine {client : Nat}
    (answered : Fact.answered cursor (.response next events) ∈ known) :
    Fine profiles known (settleResponse client cursor next events) fun _ _ => True := by
  apply Fine.bind (Fine.ask (.acceptEvents client events) ⟨cursor, next, answered⟩)
  rintro later accepted grows ⟨isCount, -⟩
  apply (advanceCursor_fine (grows answered) isCount).bind
  intro last _ _ _
  apply readCursor_fine.bind
  intro _ _ _ _
  exact Fine.pure trivial

theorem runOnce_fine : Fine profiles known (runOnce profiles client) fun _ _ => True := by
  apply Fine.bind (Fine.ask (.isStopped client) trivial)
  intro later stopped _ _
  cases stopped with
  | true => exact Fine.pure trivial
  | false =>
      apply readCursor_fine.bind
      intro read cursor _ isDelivered
      apply Fine.bind (Fine.ask (.poll cursor) isDelivered)
      rintro polled answer _ ⟨-, facts⟩
      have answered := facts List.mem_cons_self
      cases answer with
      | failed => exact Fine.fail
      | response next events => exact settleResponse_fine answered
      | resyncRequired restartCursor =>
          dsimp only
          split
          next =>
            apply (onWakes_fine _).bind
            intro reconciled _ grows accepted
            have justified : Justified profiles reconciled restartCursor := by
              refine .resynced (grows answered) fun instanceId member => ?_
              exact ⟨_, accepted _ (List.mem_map_of_mem member), rfl, rfl⟩
            apply (writeCursor_fine justified).bind
            intro _ _ _ _
            exact Fine.pure trivial
          next => exact Fine.fail

theorem watchLoop_fine (client cycles : Nat) :
    Fine profiles known (watchLoop profiles client cycles) fun _ _ => True := by
  induction cycles generalizing known with
  | zero => exact Fine.pure trivial
  | succ cycles ih =>
      apply Fine.bind (Fine.ask (.isStopped client) trivial)
      intro _ stopped _ _
      cases stopped with
      | true => exact Fine.pure trivial
      | false =>
          apply Fine.bind (Fine.ask (.isAborted client) trivial)
          intro _ aborted _ _
          cases aborted with
          | true => exact Fine.pure trivial
          | false =>
              apply (runOnce_fine client).bind
              intro _ _ _ _
              apply Fine.bind (Fine.attempt (.awaitTimer client) trivial)
              intro _ _ _ _
              exact ih

theorem watch_fine (client maxCycles : Nat) :
    Fine profiles known (watch profiles client maxCycles) fun _ _ => True := by
  apply (watchLoop_fine client maxCycles).bind
  intro _ _ _ _
  exact readCursor_fine.imp fun _ _ _ _ => trivial

theorem reconcileStartup_fine :
    Fine profiles known (reconcileStartup profiles) fun _ _ => True := by
  apply readCursor_fine.bind
  intro _ _ _ _
  apply (onWakes_fine _).bind
  intro _ _ _ _
  exact Fine.pure trivial

theorem stop_fine : Fine profiles known (stop client) fun _ _ => True := by
  apply Fine.bind (Fine.ask (.stop client) trivial)
  intro _ _ _ _
  apply Fine.bind (Fine.outcome (Fine.attempt (.awaitTimer client) trivial))
  intro _ _ _ _
  apply Fine.bind (Fine.ask (.clearTimer client) trivial)
  intro _ _ _ _
  apply Fine.bind (Fine.ask (.takePending client) trivial)
  rintro later batch _ ⟨-, facts⟩
  exact flush_fine batch (facts List.mem_cons_self)

variable (lanes : List Nat)

/-- The greatest of the lane cursors and the install cursor is the install cursor
or one of the lanes'. -/
theorem greatestLane_fine (greatest : Int) :
    Fine profiles known (greatestLane lanes greatest) fun later value =>
      value = greatest ∨ greatest < value ∧ Fact.lane value ∈ later := by
  induction lanes generalizing known greatest with
  | nil => exact Fine.pure (.inl rfl)
  | cons lane rest ih =>
      apply Fine.bind (Fine.attempt (.laneCursor lane) trivial)
      rintro later cursor _ ⟨answer, isRead, facts⟩
      cases answer with
      | error _ => cases isRead
      | ok value =>
          obtain rfl := Except.ok.inj isRead
          have isLane := facts List.mem_cons_self
          apply Fine.bind Fine.ensure
          intro checked _ grows _
          by_cases less : greatest < value
          · rw [if_pos less]
            apply (ih value).imp
            rintro last result further (rfl | ⟨greater, isLast⟩)
            · exact .inr ⟨less, further (grows isLane)⟩
            · exact .inr ⟨by omega, isLast⟩
          · rw [if_neg less]
            exact ih greatest

theorem migrateInstallWatchCursor_fine :
    Fine profiles known (migrateInstallWatchCursor lanes) fun _ _ => True := by
  apply readCursor_fine.bind
  intro read installCursor _ isDelivered
  apply Fine.bind Fine.ensure
  intro checked _ grows _
  apply (greatestLane_fine lanes installCursor).bind
  rintro later greatest further isGreatest
  by_cases same : greatest = installCursor
  · rw [if_pos same]
    exact Fine.pure trivial
  · rw [if_neg same]
    rcases isGreatest with equal | ⟨greater, isLane⟩
    · exact absurd equal same
    · apply (writeCursor_fine (.migrated (further (grows isDelivered)) isLane greater)).bind
      intro _ _ _ _
      exact Fine.pure trivial

theorem start_fine (lanes : List Nat) (reconcile : Bool) (maxCycles : Nat) :
    Fine profiles known (start profiles client lanes reconcile maxCycles) fun _ _ => True := by
  apply (migrateInstallWatchCursor_fine lanes).bind
  intro migrated _ _ _
  have watched : Fine profiles migrated
      (do
        if reconcile = true then
          let _ ← reconcileStartup profiles
          watch profiles client maxCycles
        else watch profiles client maxCycles : Task Int) fun _ _ => True := by
    cases reconcile with
    | false => exact watch_fine client maxCycles
    | true =>
        apply reconcileStartup_fine.bind
        intro _ _ _ _
        exact watch_fine client maxCycles
  apply (Fine.outcome watched).bind
  intro later result _ _
  cases result with
  | ok cursor => exact Fine.pure trivial
  | error problem =>
      apply (Fine.outcome (stop_fine client)).bind
      intro _ _ _ _
      exact Fine.fail

/-- Every task keeps to what it may do. -/
theorem code_fine (command : Command) :
    Fine profiles known (code profiles command) fun _ _ => True := by
  cases command with
  | timerFired client => exact timerFired_fine client
  | runOnce client => exact (runOnce_fine client).bind fun _ _ _ _ => Fine.pure trivial
  | watch client maxCycles =>
      exact (watch_fine client maxCycles).bind fun _ _ _ _ => Fine.pure trivial
  | reconcileStartup => exact reconcileStartup_fine.bind fun _ _ _ _ => Fine.pure trivial
  | stop client => exact stop_fine client
  | start client lanes reconcile maxCycles =>
      exact (start_fine client lanes reconcile maxCycles).bind fun _ _ _ _ => Fine.pure trivial

end

end Triangle.WakeClient
