import Mathlib.Data.Rat.Floor
import Triangle.Std.JsonParse

/-!
# The idle policy of a drain

`createDrainIdlePolicy` decides at each timer tick whether a lane claims. A lane that the
wake channel covers stays quiet after an attempt that found its mailbox empty, until the
jittered safety interval has passed. Readings of the clock and of the random source are
exact rationals.
-/

namespace Triangle.HeadlessDrain

open Triangle.Std

/-- What `evaluateTick` answers. -/
structure Tick where
  skip : Bool
  reason : String
  deriving DecidableEq, Repr

/-- The `idlePolicy` of a drain. What its two methods read from outside is a `Sense`; where
this is the answer itself, a tick may be answered in any way. -/
structure IdlePolicy (Sense State : Type) where
  initial : State
  evaluateTick : Sense → State → Tick × State
  recordAttempt : Sense → Bool → State → State

/-- `idlePolicy = null`: every tick claims. -/
def noPolicy : IdlePolicy Unit Unit where
  initial := ()
  evaluateTick := fun _ state => ({ skip := false, reason := "timer" }, state)
  recordAttempt := fun _ _ state => state

/-- What the policy reads at a call: `now()` and `Number(random())`, `none` where they are
not finite numbers, and `wakeChannelHealthy()`, `none` where it throws. -/
structure Reading where
  now : Option ℚ
  random : Option ℚ
  wakeChannelHealthy : Option Bool
  deriving DecidableEq

/-- The checked options of `createDrainIdlePolicy`. -/
structure IdleOptions where
  pollIntervalMs : Int
  safetyPollIntervalMs : Int
  jitterRatio : ℚ
  pollPositive : 1 ≤ pollIntervalMs
  safetyPositive : 1 ≤ safetyPollIntervalMs
  ratioBounded : 0 ≤ jitterRatio ∧ jitterRatio ≤ 1

/-- The checks of `createDrainIdlePolicy`, by the message of the `TypeError`. -/
def checkIdleOptions (pollIntervalMs safetyPollIntervalMs : Int) (jitterRatio : ℚ) :
    Except String IdleOptions :=
  if poll : Json.isSafe pollIntervalMs = true ∧ 1 ≤ pollIntervalMs then
    if safety : Json.isSafe safetyPollIntervalMs = true ∧ 1 ≤ safetyPollIntervalMs then
      if ratio : 0 ≤ jitterRatio ∧ jitterRatio ≤ 1 then
        .ok {
          pollIntervalMs := pollIntervalMs
          safetyPollIntervalMs := safetyPollIntervalMs
          jitterRatio := jitterRatio
          pollPositive := poll.2
          safetyPositive := safety.2
          ratioBounded := ratio }
      else .error "jitterRatio must be between 0 and 1"
    else .error "safetyPollIntervalMs must be a positive integer"
  else .error "pollIntervalMs must be a positive integer"

namespace IdleOptions

variable (options : IdleOptions)

/-- A safety interval at or below the timer period never skips a tick. -/
def active : Bool :=
  options.pollIntervalMs < options.safetyPollIntervalMs

/-- `Math.max(0, Math.min(1, Number(random()) || 0))`. -/
def clampedRandom (reading : Reading) : ℚ :=
  max 0 (min 1 (reading.random.getD 0))

/-- The safety interval with the jitter drawn at a reading. -/
def safetyDueInMs (reading : Reading) : Int :=
  options.safetyPollIntervalMs +
    ⌊clampedRandom reading * options.safetyPollIntervalMs * options.jitterRatio⌋

end IdleOptions

/-- What `createDrainIdlePolicy` keeps; `lastAttemptAt` is a reading of `now()`. -/
structure IdleState where
  lastAttemptAt : Option (Option ℚ)
  lastAttemptEmpty : Bool
  safetyDueInMs : Int
  skippedTicks : Nat
  safetyPolls : Nat

/-- Whether `now() - lastAttemptAt` is a finite number, not negative and below the interval. -/
def isQuiet (safetyDueInMs : Int) : Option ℚ → Option ℚ → Bool
  | some now, some lastAttemptAt =>
      0 ≤ now - lastAttemptAt ∧ now - lastAttemptAt < safetyDueInMs
  | _, _ => false

theorem isQuiet_iff {safetyDueInMs : Int} {now lastAttemptAt : Option ℚ} :
    isQuiet safetyDueInMs now lastAttemptAt = true ↔
      ∃ last current, lastAttemptAt = some last ∧ now = some current ∧
        0 ≤ current - last ∧ current - last < safetyDueInMs := by
  unfold isQuiet
  split
  · simp
  · rename_i notBoth
    refine ⟨nofun, ?_⟩
    rintro ⟨last, current, rfl, rfl, -⟩
    exact absurd rfl (notBoth current last rfl)

/-- `createDrainIdlePolicy`. -/
def createDrainIdlePolicy (options : IdleOptions) : IdlePolicy Reading IdleState where
  initial := {
    lastAttemptAt := none
    lastAttemptEmpty := false
    safetyDueInMs := options.safetyPollIntervalMs
    skippedTicks := 0
    safetyPolls := 0 }
  recordAttempt := fun reading empty state =>
    { state with
      lastAttemptAt := some reading.now
      lastAttemptEmpty := empty
      safetyDueInMs := options.safetyDueInMs reading }
  evaluateTick := fun reading state =>
    match state.lastAttemptAt with
    | none => ({ skip := false, reason := "timer" }, state)
    | some lastAttemptAt =>
      if options.active = false ∨ state.lastAttemptEmpty = false then
        ({ skip := false, reason := "timer" }, state)
      else if reading.wakeChannelHealthy ≠ some true then
        ({ skip := false, reason := "timer" }, state)
      else if isQuiet state.safetyDueInMs reading.now lastAttemptAt = true then
        ({ skip := true, reason := "wake_driven_idle" },
          { state with skippedTicks := state.skippedTicks + 1 })
      else
        ({ skip := false, reason := "safety_poll" },
          { state with safetyPolls := state.safetyPolls + 1 })

/-- Less than the safety interval drawn at the end of an attempt lies between this end and a
later reading. -/
def Covered (options : IdleOptions) (ended reading : Reading) : Prop :=
  ∃ lastAttemptAt now, ended.now = some lastAttemptAt ∧ reading.now = some now ∧
    0 ≤ now - lastAttemptAt ∧ now - lastAttemptAt < options.safetyDueInMs ended

section

variable {options : IdleOptions} {state : IdleState} {reading : Reading}

/-- A tick counts itself and leaves what the policy remembers of attempts. -/
theorem evaluateTick_remembers :
    (((createDrainIdlePolicy options).evaluateTick reading state).2.lastAttemptAt =
      state.lastAttemptAt) ∧
    (((createDrainIdlePolicy options).evaluateTick reading state).2.lastAttemptEmpty =
      state.lastAttemptEmpty) ∧
    ((createDrainIdlePolicy options).evaluateTick reading state).2.safetyDueInMs =
      state.safetyDueInMs := by
  simp only [createDrainIdlePolicy]
  split
  · exact ⟨rfl, rfl, rfl⟩
  · split_ifs <;> exact ⟨rfl, rfl, rfl⟩

/-- When a tick is skipped. -/
theorem evaluateTick_skip :
    ((createDrainIdlePolicy options).evaluateTick reading state).1.skip = true ↔
      options.active = true ∧ state.lastAttemptEmpty = true ∧
      reading.wakeChannelHealthy = some true ∧
      ∃ lastAttemptAt, state.lastAttemptAt = some lastAttemptAt ∧
        isQuiet state.safetyDueInMs reading.now lastAttemptAt = true := by
  simp only [createDrainIdlePolicy]
  cases state.lastAttemptAt with
  | none => simp
  | some lastAttemptAt =>
      split_ifs with isOff notHealthy
      · rcases isOff with isOff | isOff <;> simp [isOff]
      · simp [notHealthy]
      · simp only [not_or, Bool.not_eq_false, not_not] at isOff notHealthy
        cases quiet : isQuiet state.safetyDueInMs reading.now lastAttemptAt <;>
          simp [isOff, notHealthy, quiet]

end

end Triangle.HeadlessDrain
