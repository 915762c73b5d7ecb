import Triangle.CursorRuntime.Delivery

/-!
# No delivery but one kind wedges its room

Whatever fails, a delivery leaves its room idle with no active delivery, and each admission has
a higher epoch than the ones before. When everything but the load of the session is answered,
the delivery completes exactly when the room has no session yet, the session loads, or the
child happens to give out the same session again.
-/

namespace Triangle.CursorRuntime

open Triangle.Semantics Triangle.Std

/-! ## Work on a room -/

section

variable {α β : Type} {room : Room}

/-- Work after work goes on where the first has come to. -/
theorem perform_bind (work : RoomWork α) (next : α → RoomWork β) (room : Room) :
    (work >>= next).perform room =
      match work.perform room with
      | (.ok value, after) => (next value).perform after
      | (.error problem, after) => (.error problem, after) := by
  unfold Work.perform
  rw [ExceptT.run_bind, StateT.run_bind]
  rcases StateT.run (ExceptT.run work) room with ⟨value | problem, after⟩
  · rfl
  · rfl

/-- Work that keeps a property of the room, also when it throws, and what it returns. -/
def Keeps (holds : Room → Prop) (work : RoomWork α) (returns : α → Prop) : Prop :=
  ∀ room, holds room → holds (work.perform room).2 ∧
    ∀ value, (work.perform room).1 = .ok value → returns value

variable {holds : Room → Prop}

theorem Keeps.bind {work : RoomWork α} {next : α → RoomWork β} {middle : α → Prop}
    {returns : β → Prop} (first : Keeps holds work middle)
    (rest : ∀ value, middle value → Keeps holds (next value) returns) :
    Keeps holds (work >>= next) returns := by
  intro room start
  obtain ⟨between, isMiddle⟩ := first room start
  rw [perform_bind]
  generalize work.perform room = outcome at between isMiddle
  obtain ⟨problem | value, after⟩ := outcome
  · exact ⟨between, nofun⟩
  · exact rest value (isMiddle value rfl) after between

variable {returns : α → Prop}

theorem keeps_answer {result : Except RuntimeError α}
    (does : ∀ value, result = .ok value → returns value) : Keeps holds (answer result) returns :=
  fun _ start => ⟨start, does⟩

theorem keeps_any (result : Except RuntimeError α) : Keeps holds (answer result) fun _ => True :=
  keeps_answer fun _ _ => trivial

theorem keeps_read (query : Room → α) :
    Keeps holds (Work.read query : RoomWork α) fun _ => True :=
  fun _ start => ⟨start, fun _ _ => trivial⟩

theorem keeps_demand {condition : Prop} [Decidable condition] {problem : RuntimeError} :
    Keeps holds (Work.demand condition problem : RoomWork Unit) fun _ => True :=
  fun _ start => ⟨start, fun _ _ => trivial⟩

theorem keeps_pure {value : α} (does : returns value) :
    Keeps holds (pure value : RoomWork α) returns :=
  fun _ start => ⟨start, fun _ same => Except.ok.inj same ▸ does⟩

theorem perform_upsert (patch : Patch) (room : Room) :
    (upsert patch).perform room =
      match applyUpsert room.record patch with
      | .ok next => (.ok (), { room with record := next })
      | .error problem => (.error problem, room) := by
  unfold upsert Work.perform Work.within
  simp only [ExceptT.run, StateT.run]
  cases applyUpsert room.record patch with
  | ok | error => rfl

end

/-! ## The registry -/

/-- What an accepted patch makes of a record. -/
structure Applied (existing : Record) (patch : Patch) (next : Record) : Prop where
  clean : next.isClean = true
  session : next.cursorSessionId = patch.cursorSessionId.orElse fun _ => existing.cursorSessionId
  active : next.activeDeliveryId = patch.activeDeliveryId.getD existing.activeDeliveryId
  epoch : next.executionEpoch = patch.executionEpoch.getD existing.executionEpoch
  state : next.executionState = patch.executionState.getD existing.executionState

variable {patch : Patch} {sessionId slotId : String}

theorem applied_of_ok {existing next : Record} (applied : applyUpsert existing patch = .ok next) :
    Applied existing patch next := by
  obtain ⟨-, rest⟩ := require_bind_ok.mp applied
  obtain ⟨state, isState, final⟩ := (bind_ok _).mp rest
  obtain ⟨clean, same⟩ := require_bind_ok.mp final
  obtain rfl := Except.ok.inj same
  refine ⟨clean, rfl, rfl, rfl, ?_⟩
  unfold Patch.nextState at isState
  split at isState
  next unpatched =>
    rw [unpatched]
    exact (Except.ok.inj isState).symm
  next target patched =>
    rw [patched]
    split at isState
    · exact (Except.ok.inj isState).symm
    · obtain ⟨-, moved⟩ := require_bind_ok.mp isState
      exact (Except.ok.inj moved).symm

/-- When a patch is accepted. -/
theorem applyUpsert_eq_ok {existing : Record} {patch : Patch} {state : ExecutionState}
    (agrees : patch.conflicts existing = false)
    (moves : patch.nextState existing.executionState = .ok state)
    (clean : (patch.onto existing state).isClean = true) :
    applyUpsert existing patch = .ok (patch.onto existing state) :=
  require_bind_ok.mpr ⟨agrees, (bind_ok _).mpr ⟨state, moves, require_bind_ok.mpr ⟨clean, rfl⟩⟩⟩

/-- What holds of a room at every step. -/
structure Sane (room : Room) : Prop where
  clean : room.record.isClean = true
  session : room.record.cursorSessionId ≠ some ""
  increasing : room.admissions.Pairwise (· < ·)
  bounded : ∀ epoch ∈ room.admissions, epoch ≤ room.record.executionEpoch

/-- A room between two deliveries. -/
structure Settled (room : Room) : Prop extends Sane room where
  idle : room.record.executionState = .idle
  active : room.record.activeDeliveryId = none

theorem keeps_upsert (session : patch.cursorSessionId ≠ some "")
    (epoch : patch.executionEpoch = none) : Keeps Sane (upsert patch) fun _ => True := by
  intro room sane
  refine ⟨?_, fun _ _ => trivial⟩
  rw [perform_upsert]
  cases isApplied : applyUpsert room.record patch with
  | error problem => exact sane
  | ok next =>
      have applied := applied_of_ok isApplied
      refine ⟨applied.clean, ?_, sane.increasing, fun admitted member => ?_⟩
      · change next.cursorSessionId ≠ some ""
        rw [applied.session]
        cases patched : patch.cursorSessionId with
        | none => exact sane.session
        | some sessionId => exact fun same => session (patched.trans same)
      · change admitted ≤ next.executionEpoch
        rw [applied.epoch, epoch]
        exact sane.bounded admitted member

variable {config : Config} {delivery : Delivery}

theorem keeps_ensureSession : Keeps Sane (ensureSession delivery) (· ≠ "") := by
  refine .bind (keeps_read _) fun existing _ => ?_
  split
  next sessionId loaded found _ =>
    exact keeps_pure (of_decide_eq_true (Option.filter_eq_some_iff.mp found).2)
  next =>
    refine .bind (keeps_any _) fun created _ => ?_
    have isSession : Keeps Sane (answer (expect (created.filter (· ≠ "")) .sessionMissing))
        (· ≠ "") := by
      refine keeps_answer fun sessionId isSession => ?_
      cases found : created.filter (· ≠ "") with
      | none =>
          rw [found] at isSession
          cases isSession
      | some value =>
          rw [found] at isSession
          obtain rfl := Except.ok.inj isSession
          exact of_decide_eq_true (Option.filter_eq_some_iff.mp found).2
    refine isSession.bind fun sessionId notEmpty => ?_
    exact (keeps_upsert (fun same => notEmpty (Option.some.inj same)) rfl).bind fun _ _ =>
      keeps_pure notEmpty

theorem keeps_applySessionConfig : Keeps Sane (applySessionConfig config delivery) fun _ => True := by
  refine .bind (keeps_any _) fun mode _ => ?_
  refine .bind keeps_demand fun _ _ => ?_
  cases config.model with
  | none => exact keeps_pure trivial
  | some asked =>
      exact .bind (keeps_any _) fun _ _ => keeps_demand

theorem keeps_settle : Keeps Sane (settle config delivery) fun _ => True := by
  unfold settle
  split
  · refine .bind (keeps_any _) fun replyEventId _ => ?_
    refine .bind (keeps_upsert (by simp) rfl) fun _ _ => ?_
    refine .bind (keeps_any _) fun _ _ => ?_
    exact .bind (keeps_upsert nofun rfl) fun _ _ => keeps_upsert (by simp) rfl
  · exact keeps_upsert nofun rfl

theorem keeps_converse (slotId : String) :
    Keeps Sane (converse config delivery slotId) fun _ => True := by
  refine .bind keeps_ensureSession fun sessionId notEmpty => ?_
  refine .bind (keeps_upsert (fun same => notEmpty (Option.some.inj same)) rfl) fun _ _ => ?_
  refine .bind keeps_applySessionConfig fun _ _ => ?_
  refine .bind (keeps_any _) fun assistantText _ => ?_
  refine .bind keeps_demand fun _ _ => ?_
  exact .bind (keeps_upsert (by simp) rfl) fun _ _ => keeps_settle

/-! ## What a delivery leaves -/

theorem deliver_sane {room : Room} (sane : Sane room) :
    Sane ((deliver config delivery room.record.executionEpoch).perform room).2 := by
  have ready : (answer delivery.ready).perform room = (delivery.ready, room) := rfl
  rw [deliver, perform_bind, ready]
  cases delivery.ready with
  | error problem => exact sane
  | ok slotId =>
      dsimp only
      rw [perform_bind, perform_upsert]
      cases isApplied : applyUpsert room.record _ with
      | error problem => exact sane
      | ok next =>
          have applied := applied_of_ok isApplied
          have isEpoch : next.executionEpoch = room.record.executionEpoch + 1 := applied.epoch
          refine (keeps_converse slotId { record := next, admissions := _ } ?_).1
          refine ⟨applied.clean, ?_, ?_, fun epoch member => ?_⟩
          · rw [applied.session]
            exact sane.session
          · rw [List.pairwise_append]
            refine ⟨sane.increasing, List.pairwise_singleton _ _, fun earlier member new isNew => ?_⟩
            obtain rfl := List.mem_singleton.mp isNew
            have atMost := sane.bounded earlier member
            change earlier < next.executionEpoch
            omega
          · change epoch ≤ next.executionEpoch
            rcases List.mem_append.mp member with old | new
            · have atMost := sane.bounded epoch old
              omega
            · obtain rfl := List.mem_singleton.mp new
              exact Nat.le_refl _

/-- Work whose regular ends leave the room idle. -/
def EndsIdle (work : RoomWork Unit) : Prop :=
  ∀ room after, work.perform room = (.ok (), after) →
    after.record.executionState = .idle ∧ after.record.activeDeliveryId = none

theorem EndsIdle.bind {α : Type} {work : RoomWork α} {next : α → RoomWork Unit}
    (rest : ∀ value, EndsIdle (next value)) : EndsIdle (work >>= next) := by
  intro room after ends
  rw [perform_bind] at ends
  generalize work.perform room = first at ends
  obtain ⟨problem | value, between⟩ := first
  · exact nomatch (Prod.mk.inj ends).1
  · exact rest value between after ends

/-- What an accepted patch leaves. -/
theorem upsert_ok {room after : Room} (ends : (upsert patch).perform room = (.ok (), after)) :
    Applied room.record patch after.record := by
  rw [perform_upsert] at ends
  cases isApplied : applyUpsert room.record patch with
  | error problem =>
      rw [isApplied] at ends
      exact nomatch (Prod.mk.inj ends).1
  | ok next =>
      rw [isApplied] at ends
      obtain rfl := (Prod.mk.inj ends).2
      exact applied_of_ok isApplied

theorem settle_endsIdle : EndsIdle (settle config delivery) := by
  unfold settle
  split
  · refine .bind fun replyEventId => .bind fun _ => .bind fun _ => ?_
    intro room after ends
    rw [perform_bind] at ends
    generalize isFirst : (upsert _).perform room = first at ends
    obtain ⟨problem | _, between⟩ := first
    · exact nomatch (Prod.mk.inj ends).1
    · have acked := upsert_ok isFirst
      have final := upsert_ok ends
      exact ⟨final.state, final.active.trans acked.active⟩
  · intro room after ends
    have final := upsert_ok ends
    exact ⟨final.state, final.active⟩

theorem deliver_endsIdle (epoch : Nat) : EndsIdle (deliver config delivery epoch) := by
  refine .bind fun slotId => .bind fun _ => .bind fun _ => ?_
  refine .bind fun sessionId => .bind fun _ => .bind fun _ => .bind fun assistantText => ?_
  exact .bind fun _ => .bind fun _ => settle_endsIdle

/-- No string of the record leaks. -/
def Clean (text? : Option String) : Prop :=
  ∀ text ∈ text?, leaks text = false

theorem isClean_iff (record : Record) :
    record.isClean = true ↔ Clean record.cursorSessionId ∧ Clean record.activeDeliveryId ∧
      Clean record.lastWorkerSlotId ∧ Clean record.lastCompletedDeliveryId ∧
      Clean record.lastReplyEventId := by
  have member : ∀ text, text ∈ record.texts ↔ record.cursorSessionId = some text ∨
      record.activeDeliveryId = some text ∨ record.lastWorkerSlotId = some text ∨
      record.lastCompletedDeliveryId = some text ∨ record.lastReplyEventId = some text := by
    intro text
    simp [Record.texts, eq_comm]
  rw [Record.isClean, List.all_eq_true]
  simp only [member, Clean, Option.mem_def, Bool.not_eq_true', or_imp, forall_and]

/-- The reset of a delivery that threw always works. -/
theorem reset_settled {room : Room} (sane : Sane room) : Settled (reset room) := by
  have moves : ∃ state, Patch.nextState { executionState := some .idle } room.record.executionState =
      .ok state := by
    cases room.record.executionState <;> exact ⟨_, rfl⟩
  obtain ⟨state, isState⟩ := moves
  obtain ⟨session, -, slot, completed, reply⟩ := (isClean_iff room.record).mp sane.clean
  have isApplied := @applyUpsert_eq_ok room.record
    { executionState := some .idle, activeDeliveryId := some none } state rfl isState
    ((isClean_iff _).mpr ⟨session, nofun, slot, completed, reply⟩)
  have applied := applied_of_ok isApplied
  have kept : Sane (reset room) := (keeps_upsert (by simp) rfl room sane).1
  obtain ⟨next, isNext⟩ : ∃ next, reset room = { room with record := next } ∧
      Applied room.record { executionState := some .idle, activeDeliveryId := some none } next :=
    ⟨_, by rw [reset, perform_upsert, isApplied], applied⟩
  rw [isNext.1] at kept ⊢
  exact { kept with idle := isNext.2.state, active := isNext.2.active }

/-- A delivery leaves its room idle, however it ends. -/
theorem runDelivery_settled {room : Room} (settled : Settled room) :
    Settled (runDelivery config delivery room).2 := by
  unfold runDelivery
  split
  · exact settled
  · have sane := @deliver_sane config delivery _ settled.toSane
    split
    next after ends =>
      rw [ends] at sane
      obtain ⟨idle, active⟩ := deliver_endsIdle _ _ _ ends
      exact { sane with idle, active }
    next problem after ends =>
      rw [ends] at sane
      exact reset_settled sane

/-! ## When a delivery completes -/

/-- A delivery that is in order, and answered by the child and the helper at every step but the
load of its session. -/
structure Answers (config : Config) (delivery : Delivery) : Prop where
  inOrder : delivery.started = true ∧ Text.isBlank delivery.text = false ∧
    isRoomId delivery.roomId = true
  deliveryId : leaks delivery.deliveryId = false
  slotId : ∀ slotId, delivery.ready = .ok slotId → leaks slotId = false
  sessionNew : ∃ sessionId, delivery.sessionNew = .ok (some sessionId) ∧ sessionId ≠ "" ∧
    leaks sessionId = false
  setMode : ∃ mode, delivery.setMode = .ok mode ∧ Accepts config.mode mode
  setModel : ∀ asked ∈ config.model, ∃ model, delivery.setModel = .ok model ∧ Accepts asked model
  sessionPrompt : ∃ text, delivery.sessionPrompt = .ok text ∧ text ≠ "" ∧ text ≠ "[NO_REPLY]"
  reply : ∃ replyEventId, delivery.reply = .ok replyEventId ∧ Clean replyEventId
  ack : delivery.ack = .ok ()

/-- The pool hands out its slot. -/
def PoolReady (delivery : Delivery) : Prop :=
  delivery.acquire = .ok () ∧ ∃ slotId, delivery.ready = .ok slotId

/-- The room can go on with the session that this delivery would use. -/
def Resumable (room : Room) (delivery : Delivery) : Prop :=
  room.record.cursorSessionId = none ∨ delivery.sessionLoad = .ok () ∨
    delivery.sessionNew = .ok room.record.cursorSessionId

/-- No string that a patch writes leaks. -/
structure Tidy (patch : Patch) : Prop where
  session : Clean patch.cursorSessionId
  active : ∀ text? ∈ patch.activeDeliveryId, Clean text?
  slot : Clean patch.lastWorkerSlotId
  completed : Clean patch.lastCompletedDeliveryId
  reply : ∀ text? ∈ patch.lastReplyEventId, Clean text?

theorem clean_none : Clean none :=
  nofun

theorem clean_unpatched : ∀ text? ∈ (none : Option (Option String)), Clean text? :=
  nofun

theorem clean_some {text : String} (quiet : leaks text = false) : Clean (some text) :=
  fun _ same => Option.some.inj same ▸ quiet

theorem clean_orElse {first second : Option String} (isFirst : Clean first)
    (isSecond : Clean second) : Clean (first.orElse fun _ => second) := by
  cases first with
  | none => exact isSecond
  | some text => exact isFirst

theorem clean_getD {first : Option (Option String)} {second : Option String}
    (isFirst : ∀ text? ∈ first, Clean text?) (isSecond : Clean second) :
    Clean (first.getD second) := by
  cases first with
  | none => exact isSecond
  | some text? => exact isFirst text? rfl

/-- A tidy patch that moves the state and keeps the session is accepted. -/
theorem perform_upsert_ok {patch : Patch} {room : Room} {state : ExecutionState}
    (clean : room.record.isClean = true) (tidy : Tidy patch)
    (agrees : patch.conflicts room.record = false)
    (moves : patch.nextState room.record.executionState = .ok state) :
    ∃ record, (upsert patch).perform room = (.ok (), { room with record }) ∧
      Applied room.record patch record := by
  obtain ⟨session, active, slot, completed, reply⟩ := (isClean_iff room.record).mp clean
  have isClean : (patch.onto room.record state).isClean = true :=
    (isClean_iff _).mpr ⟨clean_orElse tidy.session session, clean_getD tidy.active active,
      clean_orElse tidy.slot slot, clean_orElse tidy.completed completed,
      clean_getD tidy.reply reply⟩
  have accepted := applyUpsert_eq_ok agrees moves isClean
  refine ⟨_, ?_, applied_of_ok accepted⟩
  rw [perform_upsert, accepted]

theorem perform_bind_ok {α β : Type} {work : RoomWork α} {next : α → RoomWork β}
    {room between : Room} {value : α} (first : work.perform room = (.ok value, between)) :
    (work >>= next).perform room = (next value).perform between := by
  rw [perform_bind, first]

theorem perform_answer {α : Type} {result : Except RuntimeError α} {value : α}
    (isOk : result = .ok value) (room : Room) :
    (answer result).perform room = (.ok value, room) :=
  congrArg (·, room) isOk

theorem perform_demand {condition : Prop} [Decidable condition] {problem : RuntimeError}
    (holds : condition) (room : Room) :
    (Work.demand condition problem : RoomWork Unit).perform room = (.ok (), room) :=
  congrArg (·, room) (if_pos holds)

/-- A patch that only moves the state. -/
theorem tidy_state (state : ExecutionState) : Tidy { executionState := some state } :=
  ⟨clean_none, clean_unpatched, clean_none, clean_none, clean_unpatched⟩

variable {room : Room}

theorem settle_completes (answers : Answers config delivery) (clean : room.record.isClean = true)
    (isReady : room.record.executionState = .resultReady) :
    ∃ after, (settle config delivery).perform room = (.ok (), after) := by
  have ends : ∀ state, Tidy (delivery.completion state) := fun _ =>
    ⟨clean_none, fun _ same => Option.some.inj same ▸ clean_none, clean_none,
      clean_some answers.deliveryId, clean_unpatched⟩
  unfold settle
  split
  · obtain ⟨replyEventId, isReply, quiet⟩ := answers.reply
    obtain ⟨replied, first, isReplied⟩ := @perform_upsert_ok
      { executionState := some .replyPersisted, lastReplyEventId := some replyEventId } room
      .replyPersisted clean
      ⟨clean_none, clean_unpatched, clean_none, clean_none, fun _ same => Option.some.inj same ▸ quiet⟩
      rfl (by rw [isReady]; rfl)
    obtain ⟨acked, second, isAcked⟩ := @perform_upsert_ok (delivery.completion .acked)
      { room with record := replied } .acked isReplied.clean (ends .acked) rfl
      (congrArg (Patch.nextState _) isReplied.state)
    obtain ⟨final, third, -⟩ := @perform_upsert_ok { executionState := some .idle }
      { room with record := acked } .idle isAcked.clean (tidy_state .idle) rfl
      (congrArg (Patch.nextState _) isAcked.state)
    refine ⟨{ room with record := final }, ?_⟩
    rw [perform_bind_ok (perform_answer isReply room), perform_bind_ok first,
      perform_bind_ok (perform_answer answers.ack _), perform_bind_ok second]
    exact third
  · obtain ⟨final, only, -⟩ := @perform_upsert_ok (delivery.completion .idle) room .idle clean
      (ends .idle) rfl (by rw [isReady]; rfl)
    exact ⟨_, only⟩

theorem applySessionConfig_completes (answers : Answers config delivery) (room : Room) :
    (applySessionConfig config delivery).perform room = (.ok (), room) := by
  obtain ⟨mode, isMode, accepted⟩ := answers.setMode
  rw [applySessionConfig, perform_bind_ok (perform_answer isMode room),
    perform_bind_ok (perform_demand accepted room)]
  cases isModel : config.model with
  | none => rfl
  | some asked =>
      obtain ⟨model, found, fits⟩ := answers.setModel asked isModel
      dsimp only
      rw [perform_bind_ok (perform_answer found room)]
      exact perform_demand fits room

/-- A session that loads is used again. -/
theorem ensureSession_loads (existing : room.record.cursorSessionId = some sessionId)
    (notEmpty : sessionId ≠ "") (loads : delivery.sessionLoad = .ok ()) :
    (ensureSession delivery).perform room = (.ok sessionId, room) := by
  have read : (Work.read fun room => room.record.cursorSessionId : RoomWork _).perform room =
      (.ok (some sessionId), room) := congrArg (fun id => (Except.ok id, room)) existing
  rw [ensureSession, perform_bind_ok read, Option.filter_some,
    if_pos (decide_eq_true notEmpty), loads]
  rfl

/-- Without a session that loads, the child is asked for a new one. -/
theorem ensureSession_creates
    (unloaded : room.record.cursorSessionId = none ∨ delivery.sessionLoad ≠ .ok ())
    (isNew : delivery.sessionNew = .ok (some sessionId)) (notEmpty : sessionId ≠ "") :
    (ensureSession delivery).perform room =
      (do upsert { cursorSessionId := some sessionId }; pure sessionId : RoomWork _).perform
        room := by
  have read : (Work.read fun room => room.record.cursorSessionId : RoomWork _).perform room =
      (.ok room.record.cursorSessionId, room) := rfl
  have expected : expect ((some sessionId).filter (· ≠ "")) RuntimeError.sessionMissing =
      .ok sessionId := by
    rw [Option.filter_some, if_pos (decide_eq_true notEmpty)]
    rfl
  rw [ensureSession, perform_bind_ok read]
  split
  next loaded found loads =>
    rcases unloaded with absent | fails
    · rw [absent] at found
      cases found
    · exact absurd loads fails
  next =>
    rw [perform_bind_ok (perform_answer isNew room), perform_bind_ok (perform_answer expected room)]

section

variable (answers : Answers config delivery)
include answers

theorem ensureSession_completes (clean : room.record.isClean = true)
    (session : room.record.cursorSessionId ≠ some "") (resumable : Resumable room delivery) :
    ∃ sessionId record, (ensureSession delivery).perform room = (.ok sessionId, { room with record })
      ∧ record.isClean = true ∧ record.cursorSessionId = some sessionId ∧
        record.executionState = room.record.executionState := by
  by_cases loaded : room.record.cursorSessionId ≠ none ∧ delivery.sessionLoad = .ok ()
  · obtain ⟨sessionId, existing⟩ := Option.ne_none_iff_exists'.mp loaded.1
    refine ⟨sessionId, room.record, ?_, clean, existing, rfl⟩
    exact ensureSession_loads existing (fun same => session (same ▸ existing)) loaded.2
  · obtain ⟨sessionId, isNew, notEmpty, quiet⟩ := answers.sessionNew
    have unloaded : room.record.cursorSessionId = none ∨ delivery.sessionLoad ≠ .ok () := by
      rw [not_and_or, not_not] at loaded
      exact loaded
    have agrees : ({ cursorSessionId := some sessionId } : Patch).conflicts room.record = false := by
      cases existing : room.record.cursorSessionId with
      | none => simp [Patch.conflicts, existing]
      | some old =>
          rcases resumable with absent | loads | again
          · rw [absent] at existing
            cases existing
          · exact absurd ⟨by rw [existing]; nofun, loads⟩ loaded
          · have same := Except.ok.inj (isNew.symm.trans again)
            simp [Patch.conflicts, ← same]
    obtain ⟨record, stored, applied⟩ := @perform_upsert_ok _ room _ clean
      ⟨clean_some quiet, clean_unpatched, clean_none, clean_none, clean_unpatched⟩ agrees rfl
    refine ⟨sessionId, record, ?_, applied.clean, applied.session, applied.state⟩
    rw [ensureSession_creates unloaded isNew notEmpty, perform_bind_ok stored]
    rfl

/-- The registry refuses a second session of a room. -/
theorem ensureSession_conflicts (stuck : ¬Resumable room delivery) :
    (ensureSession delivery).perform room = (.error .sessionConflict, room) := by
  obtain ⟨sessionId, isNew, notEmpty, -⟩ := answers.sessionNew
  obtain ⟨present, fails, differs⟩ : room.record.cursorSessionId ≠ none ∧
      delivery.sessionLoad ≠ .ok () ∧ delivery.sessionNew ≠ .ok room.record.cursorSessionId := by
    simpa only [Resumable, not_or] using stuck
  obtain ⟨old, existing⟩ := Option.ne_none_iff_exists'.mp present
  have conflicts : ({ cursorSessionId := some sessionId } : Patch).conflicts room.record = true := by
    rw [isNew, existing] at differs
    simpa [Patch.conflicts, existing] using fun same => differs (congrArg _ (congrArg _ same))
  have refused : (upsert { cursorSessionId := some sessionId }).perform room =
      (.error .sessionConflict, room) := by
    rw [perform_upsert, applyUpsert, conflicts]
    rfl
  rw [ensureSession_creates (.inr fails) isNew notEmpty, perform_bind, refused]

theorem converse_completes (quietSlot : leaks slotId = false) (clean : room.record.isClean = true)
    (session : room.record.cursorSessionId ≠ some "")
    (isAdmitted : room.record.executionState = .admitted) (resumable : Resumable room delivery) :
    ∃ after, (converse config delivery slotId).perform room = (.ok (), after) := by
  obtain ⟨sessionId, mapped, ensured, mappedClean, isSession, sameState⟩ :=
    ensureSession_completes answers clean session resumable
  have quiet : Clean (some sessionId) := isSession ▸ ((isClean_iff mapped).mp mappedClean).1
  obtain ⟨running, first, isRunning⟩ := @perform_upsert_ok
    { cursorSessionId := some sessionId, executionState := some .running,
      lastWorkerSlotId := some slotId } { room with record := mapped } .running mappedClean
    ⟨quiet, clean_unpatched, clean_some quietSlot, clean_none, clean_unpatched⟩
    (by simp [Patch.conflicts, isSession]) (by rw [sameState, isAdmitted]; rfl)
  obtain ⟨text, isText, hasText⟩ := answers.sessionPrompt
  obtain ⟨ready, second, isReady⟩ := @perform_upsert_ok { executionState := some .resultReady }
    { room with record := running } .resultReady isRunning.clean (tidy_state _) rfl
    (congrArg (Patch.nextState _) isRunning.state)
  obtain ⟨after, settled⟩ :=
    @settle_completes config delivery { room with record := ready } answers isReady.clean
      isReady.state
  refine ⟨after, ?_⟩
  rw [converse, perform_bind_ok ensured, perform_bind_ok first,
    perform_bind_ok (applySessionConfig_completes answers _),
    perform_bind_ok (perform_answer isText _), perform_bind_ok (perform_demand hasText _),
    perform_bind_ok second]
  exact settled

end

/-- A delivery that finds a slot, and is answered at every step but the load, completes exactly
when its room is resumable. -/
theorem deliver_ok_iff (settled : Settled room) (answers : Answers config delivery)
    (isReady : delivery.ready = .ok slotId) :
    ((deliver config delivery room.record.executionEpoch).perform room).1 = .ok () ↔
      Resumable room delivery := by
  obtain ⟨admitted, first, isAdmitted⟩ := @perform_upsert_ok
    { executionState := some .admitted, activeDeliveryId := some (some delivery.deliveryId),
      lastWorkerSlotId := some slotId, executionEpoch := some (room.record.executionEpoch + 1) }
    room .admitted settled.clean
    ⟨clean_none, fun _ same => Option.some.inj same ▸ clean_some answers.deliveryId,
      clean_some (answers.slotId slotId isReady), clean_none, clean_unpatched⟩ rfl
    (by rw [settled.idle]; rfl)
  have sameSession : admitted.cursorSessionId = room.record.cursorSessionId := isAdmitted.session
  obtain ⟨between, isBetween⟩ : ∃ between : Room, between =
      { record := admitted, admissions := room.admissions ++ [admitted.executionEpoch] } :=
    ⟨_, rfl⟩
  have isRecord : between.record = admitted := by rw [isBetween]
  have same : Resumable between delivery ↔ Resumable room delivery := by
    rw [Resumable, Resumable, isRecord, sameSession]
  have isDelivered : (deliver config delivery room.record.executionEpoch).perform room =
      (converse config delivery slotId).perform between := by
    rw [deliver, perform_bind_ok (perform_answer isReady room), perform_bind_ok first, isBetween]
    rfl
  rw [← same, isDelivered]
  constructor
  · intro completes
    by_contra stuck
    rw [converse, perform_bind, ensureSession_conflicts answers stuck] at completes
    cases completes
  · intro resumable
    obtain ⟨after, ends⟩ := converse_completes answers (answers.slotId slotId isReady)
      (isRecord ▸ isAdmitted.clean) (by rw [isRecord, sameSession]; exact settled.session)
      (by rw [isRecord]; exact isAdmitted.state) resumable
    rw [ends]

/-- Answered at every step but the load, a delivery completes exactly when the pool hands out its
slot and the room is resumable. -/
theorem completes_iff (settled : Settled room) (answers : Answers config delivery) :
    (runDelivery config delivery room).1 = .ok () ↔
      PoolReady delivery ∧ Resumable room delivery := by
  have admits : admitDelivery delivery = delivery.acquire := by
    obtain ⟨isStarted, hasText, isRoom⟩ := answers.inOrder
    rw [admitDelivery, isStarted, hasText, isRoom]
    rfl
  have outcome : (runDelivery config delivery room).1 = .ok () ↔ delivery.acquire = .ok () ∧
      ((deliver config delivery room.record.executionEpoch).perform room).1 = .ok () := by
    rw [runDelivery, admits]
    cases delivery.acquire with
    | error problem => simp
    | ok done =>
        generalize (deliver config delivery _).perform room = result
        obtain ⟨problem | value, after⟩ := result
        · simp
        · simp
  rw [outcome, PoolReady, and_assoc, and_congr_right_iff]
  intro _
  cases isReady : delivery.ready with
  | error problem =>
      have failed : (answer delivery.ready).perform room = (.error problem, room) :=
        congrArg (·, room) isReady
      rw [deliver, perform_bind, failed]
      simp
  | ok slotId =>
      rw [deliver_ok_iff settled answers isReady]
      simp

/-! ## Runs -/

/-- After any deliveries, failed or not, every room is idle without an active delivery, and was
admitted with ever higher epochs. A delivery that is answered but for the load of its session
then completes exactly when the pool hands out its slot and the room has no session, the session
loads or the child gives it out again. -/
theorem rooms_recover (config : Config) (earlier : List Delivery) (roomId : String) :
    let room := (runtimeMachine config).run earlier roomId
    room.record.executionState = .idle ∧ room.record.activeDeliveryId = none ∧
      room.admissions.Pairwise (· < ·) ∧
        ∀ delivery, Answers config delivery →
          ((runDelivery config delivery room).1 = .ok () ↔
            PoolReady delivery ∧ Resumable room delivery) := by
  have fresh : Settled {} :=
    { clean := rfl, session := nofun, increasing := .nil, bounded := nofun, idle := rfl,
      active := rfl }
  have settled : Settled ((runtimeMachine config).run earlier roomId) := by
    refine @Machine.invariant_runFrom _ _ (runtimeMachine config)
      (fun rooms => ∀ roomId, Settled (rooms roomId)) ?_ _ (fun _ => fresh) earlier roomId
    intro rooms delivery all other
    change Settled (Function.update rooms delivery.roomId _ other)
    by_cases same : other = delivery.roomId
    · rw [same, Function.update_self]
      exact runDelivery_settled (all delivery.roomId)
    · rw [Function.update_of_ne same]
      exact all other
  exact ⟨settled.idle, settled.active, settled.increasing,
    fun delivery answers => completes_iff settled answers⟩

/-- A delivery to which the child gives out a session that it does not load again. -/
def lostSession (sessionId : String) : Delivery where
  roomId := "room_00000000000000000000000000000000"
  deliveryId := "delivery_1"
  text := "hello"
  acquire := .ok ()
  ready := .ok "acp_slot_0"
  sessionLoad := .error .failed
  sessionNew := .ok (some sessionId)
  setMode := .ok none
  setModel := .ok none
  sessionPrompt := .ok "done"
  reply := .ok (some "event_1")
  ack := .ok ()

/-- Where the helper settles and no model is asked for. -/
def plainConfig : Config where
  mode := "agent"
  model := none
  hasProxy := true

theorem lostSession_answers :
    Answers plainConfig (lostSession "first") ∧ Answers plainConfig (lostSession "second") :=
  ⟨⟨by decide +kernel, by decide +kernel, fun _ same => Except.ok.inj same ▸ by decide +kernel,
      ⟨_, rfl, by decide, by decide +kernel⟩, ⟨_, rfl, nofun⟩, nofun, ⟨_, rfl, by decide⟩,
      ⟨_, rfl, clean_some (by decide +kernel)⟩, rfl⟩,
    ⟨by decide +kernel, by decide +kernel, fun _ same => Except.ok.inj same ▸ by decide +kernel,
      ⟨_, rfl, by decide, by decide +kernel⟩, ⟨_, rfl, nofun⟩, nofun, ⟨_, rfl, by decide⟩,
      ⟨_, rfl, clean_some (by decide +kernel)⟩, rfl⟩⟩

/-- The first delivery of a room completes, as the room has no session. -/
theorem rooms_recover_first :
    (runDelivery plainConfig (lostSession "first")
      ((runtimeMachine plainConfig).run [] (lostSession "first").roomId)).1 = .ok () :=
  ((rooms_recover plainConfig [] _).2.2.2 _ lostSession_answers.1).mpr
    ⟨⟨rfl, _, rfl⟩, .inl rfl⟩

/-- After it, the session is lost, and a delivery that is answered throws. -/
theorem lostSession_wedges :
    Answers plainConfig (lostSession "second") ∧ PoolReady (lostSession "second") ∧
      (runDelivery plainConfig (lostSession "second")
        ((runtimeMachine plainConfig).run [lostSession "first"]
          (lostSession "second").roomId)).1 = .error .sessionConflict :=
  ⟨lostSession_answers.2, ⟨rfl, _, rfl⟩, by decide +kernel⟩

end Triangle.CursorRuntime
