import Triangle.HeadlessDrain.Kicks

/-!
# Skipped ticks of a drain

With `createDrainIdlePolicy`, a tick is skipped only while the lane is known to be idle. What
the policy remembers is what it read when the last attempt ended, also while the failure of
the attempt in flight is recorded.
-/

namespace Triangle.HeadlessDrain

open Triangle.Semantics

variable {Sense State : Type}

/-- The last attempt that ended, with whether it found the mailbox empty. -/
def lastEnded : List (Entry Sense) → Option (Nat × Bool × Sense)
  | [] => none
  | .ended attempt empty sense :: _ => some (attempt, empty, sense)
  | .kicked _ _ :: older => lastEnded older
  | .began _ _ :: older => lastEnded older
  | .skipped _ :: older => lastEnded older
  | .stopCalled :: older => lastEnded older

/-- Before a tick the last attempt that ended found the mailbox empty, and the tick reads a
healthy wake channel less than the jittered safety interval later. -/
def SkipJustified (options : IdleOptions) (reading : Reading) (older : List (Entry Reading)) :
    Prop :=
  reading.wakeChannelHealthy = some true ∧
    ∃ attempt ended, lastEnded older = some (attempt, true, ended) ∧ Covered options ended reading

/-- The entry is neither of an attempt that ended nor of a skipped tick. -/
def Entry.isPlain : Entry Sense → Bool
  | .kicked _ _ | .began _ _ | .stopCalled => true
  | .ended _ _ _ | .skipped _ => false

theorem lastEnded_append {newer older : List (Entry Sense)}
    (plain : ∀ entry ∈ newer, entry.isPlain = true) :
    lastEnded (newer ++ older) = lastEnded older := by
  induction newer with
  | nil => rfl
  | cons entry newer ih =>
      have rest := ih (fun entry isIn => plain entry (.tail _ isIn))
      have isPlain := plain entry (.head _)
      cases entry with
      | kicked | began | stopCalled => exact rest
      | ended | skipped => exact absurd isPlain Bool.false_ne_true

/-- A tick that was skipped is not among entries that are none. -/
theorem skipped_suffix_append {newer older rest : List (Entry Sense)} {sense : Sense}
    (noSkip : ∀ entry ∈ newer, entry ≠ .skipped sense)
    (isSuffix : .skipped sense :: rest <:+ newer ++ older) : .skipped sense :: rest <:+ older := by
  induction newer with
  | nil => exact isSuffix
  | cons entry newer ih =>
      rcases List.suffix_cons_iff.1 isSuffix with same | earlier
      · exact absurd (List.cons.inj same).1.symm (noSkip entry (.head _))
      · exact ih (fun entry isIn => noSkip entry (.tail _ isIn)) earlier

namespace Drain

/-! ## Steps that do not concern the idle policy -/

/-- A step leaves the idle policy alone: no attempt ends and no tick is skipped in it, and no
failure begins to be recorded. -/
structure Undisturbed (drain other : Drain Sense State) : Prop where
  idle : other.idle = drain.idle
  recordings : ∀ attempt ∈ other.attempts, ∀ sense, attempt.phase = .recording sense →
    attempt ∈ drain.attempts
  entries : ∃ newer, other.history = newer ++ drain.history ∧
    ∀ entry ∈ newer, entry.isPlain = true

variable {drain middle other : Drain Sense State}

theorem Undisturbed.refl (drain : Drain Sense State) : Undisturbed drain drain :=
  ⟨rfl, fun _ isIn _ _ => isIn, [], rfl, nofun⟩

theorem Undisturbed.trans (first : Undisturbed drain middle) (second : Undisturbed middle other) :
    Undisturbed drain other := by
  refine ⟨second.idle.trans first.idle, ?_, ?_⟩
  · intro attempt isIn sense isRecording
    have between := second.recordings attempt isIn sense isRecording
    exact first.recordings attempt between sense isRecording
  · obtain ⟨newer, isNewer, plain⟩ := first.entries
    obtain ⟨newest, isNewest, newestPlain⟩ := second.entries
    refine ⟨newest ++ newer, by rw [isNewest, isNewer, List.append_assoc], ?_⟩
    intro entry isIn
    rcases List.mem_append.1 isIn with isIn | isIn
    · exact newestPlain entry isIn
    · exact plain entry isIn

/-- One more entry leaves the idle policy alone. -/
theorem Undisturbed.entry {entry : Entry Sense} (idle : other.idle = drain.idle)
    (attempts : other.attempts = drain.attempts) (history : other.history = entry :: drain.history)
    (plain : entry.isPlain = true) : Undisturbed drain other := by
  refine ⟨idle, fun attempt isIn _ _ => attempts ▸ isIn, [entry], history, ?_⟩
  intro other isIn
  rw [List.mem_singleton.1 isIn]
  exact plain

/-- A step on the other fields leaves the idle policy alone. -/
theorem Undisturbed.same (idle : other.idle = drain.idle)
    (attempts : ∀ attempt ∈ other.attempts, attempt ∈ drain.attempts)
    (history : other.history = drain.history) : Undisturbed drain other :=
  ⟨idle, fun attempt isIn _ _ => attempts attempt isIn, [], history, nofun⟩

theorem undisturbed_drainOnce (drain : Drain Sense State) (reason : String) :
    Undisturbed drain (drain.drainOnce reason).2 := by
  unfold Drain.drainOnce
  split_ifs
  · exact .refl drain
  · exact .same rfl (fun _ isIn => isIn) rfl
  · exact .refl drain
  · rename_i isOn _
    rw [runDrainAttempt, if_neg isOn]
    refine ⟨rfl, ?_, [.began drain.nextAttempt reason], rfl, by simp [Entry.isPlain]⟩
    intro attempt isIn sense isRecording
    rcases List.mem_append.1 isIn with isIn | isNew
    · exact isIn
    · rw [List.mem_singleton.1 isNew] at isRecording
      cases isRecording

theorem undisturbed_kick (drain : Drain Sense State) (reason : String) :
    Undisturbed drain (drain.kick reason) := by
  unfold Drain.kick
  split_ifs
  · exact .entry rfl rfl rfl rfl
  · exact .entry rfl rfl rfl rfl
  · exact .entry rfl rfl rfl rfl
  · exact .entry rfl rfl rfl rfl
  · refine .trans ?_ (undisturbed_drainOnce _ reason)
    exact .entry rfl rfl rfl rfl

theorem undisturbed_schedule (drain : Drain Sense State) : Undisturbed drain drain.schedule := by
  unfold schedule
  split_ifs
  · exact .refl drain
  · exact .same rfl (fun _ isIn => isIn) rfl

theorem undisturbed_callbackEnds (drain : Drain Sense State) (index : Nat) :
    Undisturbed drain (drain.callbackEnds index) := by
  unfold Drain.callbackEnds
  split
  · exact .refl drain
  · split_ifs
    · exact .refl drain
    · refine .trans ?_ (undisturbed_schedule _)
      exact .same rfl (fun _ isIn => isIn) rfl

theorem undisturbed_settles (drain : Drain Sense State) (id : Nat) :
    Undisturbed drain (drain.settles id) := by
  unfold Drain.settles
  split
  · have released (later : Drain Sense State) : Undisturbed later (later.releaseStops id) := by
      unfold releaseStops
      split_ifs
      · exact .same rfl (fun _ isIn => isIn) rfl
      · exact .refl later
    refine .trans ?_ (released _)
    unfold finallyBlock
    simp only
    cases drain.pendingKickReason with
    | none => exact .same rfl (fun _ isIn => (List.mem_filter.1 isIn).1) rfl
    | some trailingReason =>
        simp only
        split
        · exact .same rfl (fun _ isIn => (List.mem_filter.1 isIn).1) rfl
        · exact .same rfl (fun _ isIn => (List.mem_filter.1 isIn).1) rfl
  · exact .refl drain

theorem undisturbed_microtask (drain : Drain Sense State) : Undisturbed drain drain.microtask := by
  unfold Drain.microtask
  split
  · exact .refl drain
  · simp only
    split
    · exact .same rfl (fun _ isIn => isIn) rfl
    · refine .trans ?_ (undisturbed_drainOnce _ _)
      exact .same rfl (fun _ isIn => isIn) rfl

theorem undisturbed_start (drain : Drain Sense State) (runLoop : Bool) :
    Undisturbed drain (drain.start runLoop) := by
  unfold Drain.start
  split_ifs
  · exact .refl drain
  · exact .same rfl (fun _ isIn => isIn) rfl

theorem undisturbed_recovers (drain : Drain Sense State) (index : Nat) (succeeds : Bool) :
    Undisturbed drain (drain.recovers index succeeds) := by
  unfold Drain.recovers
  split
  · exact .refl drain
  · simp only
    split_ifs
    · exact .same rfl (fun _ isIn => isIn) rfl
    · refine .trans ?_ (undisturbed_schedule _)
      exact .same rfl (fun _ isIn => isIn) rfl
    · exact .same rfl (fun _ isIn => isIn) rfl

theorem undisturbed_stop (drain : Drain Sense State) : Undisturbed drain drain.stop := by
  unfold Drain.stop
  simp only
  split
  · exact .entry rfl rfl rfl rfl
  · exact .entry rfl rfl rfl rfl

/-! ## What the policy remembers -/

/-- What the idle policy remembers: where it calls the mailbox empty, the last attempt that
ended found it so, and its end gave the time and the interval. It does not call it empty while
a failure is recorded. -/
structure Remembers (options : IdleOptions) (drain : Drain Reading IdleState) : Prop where
  memory : drain.idle.lastAttemptEmpty = true → ∃ attempt ended,
    lastEnded drain.history = some (attempt, true, ended) ∧
    drain.idle.lastAttemptAt = some ended.now ∧
    drain.idle.safetyDueInMs = options.safetyDueInMs ended
  recording : ∀ attempt ∈ drain.attempts, ∀ reading, attempt.phase = .recording reading →
    drain.idle.lastAttemptEmpty = false
  justified : ∀ reading older, .skipped reading :: older <:+ drain.history →
    SkipJustified options reading older

section

variable {options : IdleOptions} {drain other : Drain Reading IdleState} {recordsFailures : Bool}

theorem Remembers.undisturbed (remembers : drain.Remembers options)
    (undisturbed : Undisturbed drain other) : other.Remembers options := by
  obtain ⟨newer, isNewer, plain⟩ := undisturbed.entries
  refine ⟨?_, ?_, ?_⟩
  · rw [undisturbed.idle, isNewer, lastEnded_append plain]
    exact remembers.memory
  · intro attempt isIn reading isRecording
    rw [undisturbed.idle]
    exact remembers.recording attempt (undisturbed.recordings attempt isIn reading isRecording)
      reading isRecording
  · intro reading older isSuffix
    rw [isNewer] at isSuffix
    refine remembers.justified reading older (skipped_suffix_append ?_ isSuffix)
    rintro entry isIn rfl
    exact absurd (plain _ isIn) Bool.false_ne_true

/-- An attempt whose phase is known is the only one. -/
theorem Sound.attempts_of_phase {State : Type} {drain : Drain Sense State} (sound : drain.Sound)
    {id : Nat} {phase : Phase Sense} (found : drain.phase? id = some phase) :
    drain.attempts = [{ id := id, phase := phase }] := by
  have isFlight := sound.inFlight_of_phase found
  have ids := sound.single
  rw [isFlight, Option.toList_some] at ids
  obtain ⟨attempt, isAttempt, isId⟩ := List.map_eq_singleton_iff.1 ids
  simp only [phase?, isAttempt, List.find?_singleton, isId, decide_true, if_true,
    Option.map_some, Option.some.injEq] at found
  rw [isAttempt, ← isId, ← found]

/-- An attempt ends: the policy remembers its end, or does not call the mailbox empty. -/
theorem Remembers.finish (remembers : drain.Remembers options) {id : Nat} {phase : Phase Reading}
    (only : drain.attempts = [{ id := id, phase := phase }]) {idle : IdleState} {empty : Bool}
    {reading : Reading}
    (memory : idle.lastAttemptEmpty = true → empty = true ∧
      idle.lastAttemptAt = some reading.now ∧
      idle.safetyDueInMs = options.safetyDueInMs reading) :
    (Drain.finish { drain with idle := idle } id empty reading).Remembers options := by
  refine ⟨?_, ?_, ?_⟩
  · intro isEmpty
    obtain ⟨rfl, remembered⟩ := memory isEmpty
    exact ⟨id, reading, rfl, remembered⟩
  · intro attempt isIn other isRecording
    simp only [Drain.finish, setPhase, only, List.map_cons, List.map_nil, if_true,
      List.mem_singleton] at isIn
    rw [isIn] at isRecording
    cases isRecording
  · intro other older isSuffix
    rcases List.suffix_cons_iff.1 isSuffix with same | earlier
    · cases (List.cons.inj same).1
    · exact remembers.justified other older earlier

section

variable (remembers : drain.Remembers options)
include remembers

/-- A tick reads what the policy remembers; when it is skipped, the reading justifies it. -/
theorem Remembers.tick (reading : Reading) :
    (drain.tick (createDrainIdlePolicy options) reading).Remembers options := by
  unfold Drain.tick
  split
  · exact remembers
  · obtain ⟨sameAt, sameEmpty, sameDue⟩ :=
      @evaluateTick_remembers options drain.idle reading
    have memory := remembers.memory
    have recording := remembers.recording
    rw [← sameEmpty, ← sameAt, ← sameDue] at memory
    rw [← sameEmpty] at recording
    simp only
    split
    · rename_i skipped
      obtain ⟨-, isEmpty, healthy, lastAttemptAt, isLast, quiet⟩ := evaluateTick_skip.1 skipped
      refine ⟨memory, recording, ?_⟩
      intro other older isSuffix
      rcases List.suffix_cons_iff.1 isSuffix with isThis | earlier
      · obtain ⟨isReading, rfl⟩ := List.cons.inj isThis
        rw [Entry.skipped.inj isReading]
        obtain ⟨attempt, ended, isEnded, isAt, isDue⟩ := remembers.memory isEmpty
        rw [isLast, Option.some.injEq] at isAt
        obtain ⟨last, now, isLastReading, isNow, elapsed⟩ := isQuiet_iff.1 quiet
        rw [isDue] at elapsed
        exact ⟨healthy, attempt, ended, isEnded, last, now, isAt ▸ isLastReading, isNow, elapsed⟩
      · exact remembers.justified other older earlier
    · have evaluated : Remembers options { drain with
          timer := false
          idle := ((createDrainIdlePolicy options).evaluateTick reading drain.idle).2 } :=
        ⟨memory, recording, remembers.justified⟩
      have drained := evaluated.undisturbed (undisturbed_drainOnce _
        ((createDrainIdlePolicy options).evaluateTick reading drain.idle).1.reason)
      split
      · rename_i isAnswer
        rw [isAnswer] at drained
        exact drained.undisturbed (.same rfl (fun _ isIn => isIn) rfl)
      · rename_i isAnswer
        rw [isAnswer] at drained
        exact drained.undisturbed (.same rfl (fun _ isIn => isIn) rfl)

section

variable (sound : drain.Sound) (id : Nat)
include sound id

theorem Remembers.resolved (resolution : Resolution) (reading : Reading) :
    (drain.resolved (createDrainIdlePolicy options) id resolution reading).Remembers options := by
  unfold Drain.resolved
  split
  · rename_i found
    have only := sound.attempts_of_phase found
    cases resolution with
    | failed => exact remembers.finish only (by intros; contradiction)
    | none empty => exact remembers.finish only (fun isEmpty => ⟨isEmpty, rfl, rfl⟩)
    | delivery =>
        refine remembers.undisturbed ⟨rfl, ?_, [], rfl, by intros; contradiction⟩
        intro attempt isIn other isRecording
        simp only [setPhase, only, List.map_cons, List.map_nil, if_true,
          List.mem_singleton] at isIn
        rw [isIn] at isRecording
        cases isRecording
  · exact remembers

theorem Remembers.delivered (succeeds : Bool) (reading : Reading) :
    (drain.delivered (createDrainIdlePolicy options) recordsFailures id succeeds
      reading).Remembers options := by
  unfold Drain.delivered
  split
  · rename_i found
    have only := sound.attempts_of_phase found
    simp only
    split
    · exact ⟨nofun, fun _ _ _ _ => rfl, remembers.justified⟩
    · exact remembers.finish only nofun
  · exact remembers

theorem Remembers.failureRecorded : (drain.failureRecorded id).Remembers options := by
  unfold Drain.failureRecorded
  split
  · rename_i reading found
    have only := sound.attempts_of_phase found
    have notEmpty : drain.idle.lastAttemptEmpty = false :=
      remembers.recording _ (only ▸ List.mem_singleton_self _) reading rfl
    have memory : drain.idle.lastAttemptEmpty = true → false = true ∧
        drain.idle.lastAttemptAt = some reading.now ∧
        drain.idle.safetyDueInMs = options.safetyDueInMs reading := by
      intro isEmpty
      exact absurd (notEmpty.symm.trans isEmpty) Bool.false_ne_true
    exact remembers.finish only memory
  · exact remembers

end

end

theorem Remembers.step (remembers : drain.Remembers options) (sound : drain.Sound)
    (event : Event Reading) :
    (drain.step (createDrainIdlePolicy options) recordsFailures event).Remembers options := by
  cases event with
  | kick reason => exact remembers.undisturbed (undisturbed_kick drain reason)
  | drainOnce reason => exact remembers.undisturbed (undisturbed_drainOnce drain reason)
  | tick reading => exact remembers.tick reading
  | callbackEnds index => exact remembers.undisturbed (undisturbed_callbackEnds drain index)
  | resolved id resolution reading => exact remembers.resolved sound id resolution reading
  | delivered id succeeds reading => exact remembers.delivered sound id succeeds reading
  | failureRecorded id => exact remembers.failureRecorded sound id
  | settles id => exact remembers.undisturbed (undisturbed_settles drain id)
  | microtask => exact remembers.undisturbed (undisturbed_microtask drain)
  | start runLoop => exact remembers.undisturbed (undisturbed_start drain runLoop)
  | recovers index succeeds =>
      exact remembers.undisturbed (undisturbed_recovers drain index succeeds)
  | stop => exact remembers.undisturbed (undisturbed_stop drain)

/-- The policy remembers the last attempt in every state of every run. -/
theorem remembers_of_reachable
    (reached : (drainMachine (createDrainIdlePolicy options) recordsFailures).Reachable drain) :
    drain.Remembers options := by
  let machine := drainMachine (createDrainIdlePolicy options) recordsFailures
  have start : machine.initial.Sound ∧ machine.initial.Remembers options := by
    refine ⟨sound_of_reachable ⟨[], rfl⟩, nofun, nofun, fun reading older isSuffix => ?_⟩
    exact absurd (List.suffix_nil.1 isSuffix) (List.cons_ne_nil _ _)
  have kept : ∀ drain event, drain.Sound ∧ drain.Remembers options →
      (machine.step drain event).Sound ∧ (machine.step drain event).Remembers options := by
    rintro drain event ⟨sound, remembers⟩
    exact ⟨sound.step event, remembers.step sound event⟩
  exact (@Machine.Reachable.invariant _ _ machine
    (fun drain => drain.Sound ∧ drain.Remembers options) start kept drain reached).2

end

end Drain

/-! ## Runs -/

/-- In every run of a drain, whatever its idle policy answers, at most one attempt is in flight,
and at rest every kick that was taken since the last call of `stop` was followed by an attempt
that began at or after it. With `createDrainIdlePolicy` a tick is skipped only when the last
attempt that ended found the mailbox empty, the wake channel is healthy and less than the
jittered safety interval has elapsed since. -/
theorem drain_serves_kicks :
    (∀ {Sense State : Type} (policy : IdlePolicy Sense State) (recordsFailures : Bool)
      (drain : Drain Sense State), (drainMachine policy recordsFailures).Reachable drain →
      drain.attempts.length ≤ 1 ∧ (drain.IsAtRest → KicksServed drain.history)) ∧
    (∀ (options : IdleOptions) (recordsFailures : Bool) (drain : Drain Reading IdleState),
      (drainMachine (createDrainIdlePolicy options) recordsFailures).Reachable drain →
      ∀ reading older, .skipped reading :: older <:+ drain.history →
        SkipJustified options reading older) := by
  refine ⟨?_, ?_⟩
  · intro Sense State policy recordsFailures drain reached
    have sound := Drain.sound_of_reachable reached
    exact ⟨sound.attempts_le_one, sound.kicksServed⟩
  · intro options recordsFailures drain reached reading older isSuffix
    exact (Drain.remembers_of_reachable reached).justified reading older isSuffix

/-- A drain whose mailbox is found empty, and whose next tick is skipped. -/
def quietOptions : IdleOptions where
  pollIntervalMs := 1000
  safetyPollIntervalMs := 300000
  jitterRatio := 1 / 5
  pollPositive := by decide
  safetyPositive := by decide
  ratioBounded := by norm_num

/-- A reading of a healthy lane at a time. -/
def readingAt (now : ℚ) : Reading where
  now := some now
  random := some (1 / 2)
  wakeChannelHealthy := some true

/-- A kick during an attempt, a trailing attempt, and a tick that is skipped. -/
def quietRun : List (Event Reading) :=
  [.start true, .recovers 0 true, .kick "watch_hint", .kick "watch_hint",
    .resolved 0 .delivery (readingAt 0), .delivered 0 true (readingAt 5), .settles 0, .microtask,
    .resolved 1 (.none true) (readingAt 10), .settles 1, .tick (readingAt 1010)]

theorem quietRun_serves :
    KicksServed ((drainMachine (createDrainIdlePolicy quietOptions) true).run quietRun).history ∧
    SkipJustified quietOptions (readingAt 1010)
      ((drainMachine (createDrainIdlePolicy quietOptions) true).run quietRun).history.tail :=
  ⟨(drain_serves_kicks.1 _ _ _ ⟨quietRun, rfl⟩).2 (by refine ⟨?_, ?_, ?_, ?_⟩ <;> decide +kernel),
    drain_serves_kicks.2 quietOptions true _ ⟨quietRun, rfl⟩ _ _ (by decide +kernel)⟩

/-- Every kick that was taken was followed by an attempt that began at or after it. -/
def EveryKickServed (history : List (Entry Sense)) : Prop :=
  ∀ newer reason status older, history = newer ++ .kicked reason status :: older →
    status.isTaken = true → ∃ attempt reason, .began attempt reason ∈ newer

/-- A kick during an attempt, after which the drain is stopped and started again. -/
def restartedRun : List (Event Unit) :=
  [.start false, .recovers 0 true, .kick "watch_hint", .kick "watch_hint", .stop,
    .resolved 0 (.none true) (), .settles 0, .start false, .recovers 0 true]

/-- `stop` drops the pending kick, so that a drain that is started again is at rest and has
begun no attempt since the kick. -/
theorem restartedRun_drops_kick :
    ((drainMachine noPolicy false).run restartedRun).IsAtRest ∧
      ¬ EveryKickServed ((drainMachine noPolicy false).run restartedRun).history := by
  refine ⟨by refine ⟨?_, ?_, ?_, ?_⟩ <;> decide +kernel, fun served => ?_⟩
  obtain ⟨attempt, reason, isIn⟩ := served [.ended 0 true (), .stopCalled] "watch_hint" .pending
    [.began 0 "watch_hint", .kicked "watch_hint" .accepted] (by decide +kernel) rfl
  simp at isIn

end Triangle.HeadlessDrain
