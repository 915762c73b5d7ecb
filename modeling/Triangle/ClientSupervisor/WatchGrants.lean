import Triangle.Semantics.Machine

/-!
# Watch grant renewals

One installation in `createWatchGrantRenewalRegistry`: the callers of `renew` share one
`ensureWatchGrant`. Of `runProactive` there is what it does once its renewal has failed; its
waits, and the abort that a caller's signal may cause, are events that come at any time.
-/

namespace Triangle.ClientSupervisor

open Triangle.Semantics

/-- `parseGrantExpiry`, on the instant that is read from an accepted text;
`MAX_TRUSTED_GRANT_LIFETIME_MS` is a week. -/
def parseGrantExpiry (parsed : Option Int) (nowMs : Int) : Option Int :=
  parsed.filter fun ms => nowMs < ms && ms - nowMs ≤ 7 * 24 * 60 * 60000

inductive Phase
  | scheduled
  | ensuring
  | ended (renewed : Bool)
  deriving DecidableEq

@[simp] def Phase.hasEnded : Phase → Bool
  | .ended _ => true
  | _ => false

/-- A caller that joined a renewal: the generation it observed, and whether `ensureWatchGrant`
had been answered before. -/
structure Caller where
  observed : Nat
  late : Bool

/-- The generation that a renewal leaves a caller with: what it observed, or the next. -/
def Caller.after (caller : Caller) (renewed : Bool) : Nat :=
  if renewed && !caller.late then caller.observed + 1 else caller.observed

/-- `inFlight`. -/
structure Flight where
  phase : Phase
  callers : List Caller

inductive Outcome
  | reusedRenewal
  | renewed
  | failed
  deriving DecidableEq

/-- What a caller came to, and the generation then. -/
structure Answer extends Caller where
  outcome : Outcome
  generation : Nat

/-- `states.get(installationId)`, with how many calls of `ensureWatchGrant` began, succeeded and
failed, and what was answered. -/
structure Entry where
  generation : Nat := 0
  inFlight : Option Flight := none
  expiresAtMs : Option Int := none
  renewAtMs : Option Int := none
  expiryVersion : Nat := 0
  began : Nat := 0
  succeeded : Nat := 0
  failed : Nat := 0
  answers : List Answer := []

inductive Event
  | renew (observedGeneration : Nat)
  | begins
  | succeeds (expiresAt : Option Int) (now : Int)
  | fails
  | settles
  | recordEnsure (expiresAt : Option Int) (now : Int)
  | proactiveFails (version : Nat) (now : Int)

namespace Entry

variable (entry : Entry)

/-- `recordEnsure`. A lifetime below `PROACTIVE_MIN_LIFETIME_MS` is not scheduled, any other at
`PROACTIVE_RENEWAL_FRACTION` of it. -/
def recordEnsure (expiresAt : Option Int) (recordedAt : Int) : Entry :=
  let expiresAtMs := parseGrantExpiry expiresAt recordedAt
  { entry with
    expiryVersion := entry.expiryVersion + 1
    expiresAtMs
    renewAtMs := (expiresAtMs.filter (10000 ≤ · - recordedAt)).map fun ms =>
      recordedAt + (ms - recordedAt) * 85 / 100 }

/-- `renew`. -/
def renew (observedGeneration : Nat) : Entry :=
  if entry.generation ≠ observedGeneration then
    { entry with
      answers := ⟨⟨observedGeneration, false⟩, .reusedRenewal, entry.generation⟩ :: entry.answers }
  else
    let flight := entry.inFlight.getD ⟨.scheduled, []⟩
    let caller := ⟨observedGeneration, flight.phase.hasEnded⟩
    { entry with inFlight := some { flight with callers := caller :: flight.callers } }

/-- The `catch` block of `runProactive`. -/
def proactiveFails (version : Nat) (t : Int) : Entry :=
  match entry.expiresAtMs with
  | some expiresAtMs =>
      let retryAt := t + max 15000 ((expiresAtMs - t) / 2)
      if entry.expiryVersion = version then
        { entry with renewAtMs := if retryAt < expiresAtMs - 5000 then some retryAt else none }
      else entry
  | none => entry

/-- One event; one that cannot come now changes nothing. -/
def step : Event → Entry
  | .renew observedGeneration => entry.renew observedGeneration
  | .begins =>
      match entry.inFlight with
      | some ⟨.scheduled, callers⟩ =>
          { entry with inFlight := some ⟨.ensuring, callers⟩, began := entry.began + 1 }
      | _ => entry
  | .succeeds expiresAt now =>
      match entry.inFlight with
      | some ⟨.ensuring, callers⟩ =>
          { entry with
            generation := entry.generation + 1
            inFlight := some ⟨.ended true, callers⟩
            succeeded := entry.succeeded + 1 }.recordEnsure expiresAt now
      | _ => entry
  | .fails =>
      match entry.inFlight with
      | some ⟨.ensuring, callers⟩ =>
          { entry with inFlight := some ⟨.ended false, callers⟩, failed := entry.failed + 1 }
      | _ => entry
  | .settles =>
      match entry.inFlight with
      | some ⟨.ended renewed, callers⟩ =>
          { entry with
            inFlight := none
            answers := callers.map (fun caller =>
              ⟨caller, if renewed then .renewed else .failed, entry.generation⟩) ++ entry.answers }
      | _ => entry
  | .recordEnsure expiresAt now => entry.recordEnsure expiresAt now
  | .proactiveFails version now => entry.proactiveFails version now

end Entry

def Flight.Sound (generation : Nat) (flight : Flight) : Prop :=
  ∀ caller ∈ flight.callers, caller.after (flight.phase = .ended true) = generation ∧
    (caller.late → flight.phase.hasEnded)

/-- One `ensureWatchGrant` at a time, and a generation for each that succeeded. A caller is told
of the renewal that took its own generation to the next, and a renewal is due in the lifetime of
the grant. -/
structure Entry.Sound (entry : Entry) : Prop where
  count : entry.began = entry.succeeded + entry.failed +
    if entry.inFlight.any (·.phase = .ensuring) then 1 else 0
  generation : entry.generation = entry.succeeded
  flight : ∀ flight, entry.inFlight = some flight → flight.Sound entry.generation
  answers : ∀ answer ∈ entry.answers,
    if answer.outcome = .reusedRenewal then answer.observed ≠ answer.generation
    else answer.after (answer.outcome = .renewed) = answer.generation
  schedule : ∀ renewAt, entry.renewAtMs = some renewAt →
    ∃ expiresAt, entry.expiresAtMs = some expiresAt ∧ renewAt + 1500 ≤ expiresAt

variable {entry : Entry}

theorem Entry.Sound.recordEnsure (sound : entry.Sound) (expiresAt : Option Int) (now : Int) :
    (entry.recordEnsure expiresAt now).Sound := by
  refine { sound with schedule := ?_ }
  intro renewAt isScheduled
  obtain ⟨ms, isExpiry, rfl⟩ := Option.map_eq_some_iff.mp isScheduled
  obtain ⟨isExpiry, isLong⟩ := Option.filter_eq_some_iff.mp isExpiry
  have atLeast := of_decide_eq_true isLong
  exact ⟨ms, isExpiry, by omega⟩

theorem Entry.Sound.step (sound : entry.Sound) (event : Event) : (entry.step event).Sound := by
  have count := sound.count
  have flight := sound.flight
  cases event with
  | renew observed =>
      rw [Entry.step, Entry.renew]
      split
      case isTrue isOther =>
        exact { sound with
          answers := List.forall_mem_cons.mpr ⟨by simpa using Ne.symm isOther, sound.answers⟩ }
      case isFalse isSame =>
        refine { sound with count := ?_, flight := ?_ }
        · cases isIn : entry.inFlight <;> simp_all
        · rintro _ ⟨⟩ caller isCaller
          have joined : (entry.inFlight.getD ⟨.scheduled, []⟩).Sound entry.generation := by
            cases isIn : entry.inFlight with
            | none => nofun
            | some => exact flight _ isIn
          rcases List.mem_cons.mp isCaller with rfl | isOld
          · grind [Caller.after, Phase.hasEnded]
          · exact joined caller isOld
  | begins =>
      rw [Entry.step]
      split
      case h_1 callers isIn =>
        refine { sound with count := by simpa [isIn] using count, flight := ?_ }
        rintro _ ⟨⟩
        simpa [Flight.Sound] using flight _ isIn
      case h_2 => exact sound
  | succeeds expiresAt now =>
      rw [Entry.step]
      split
      case h_1 callers isIn =>
        have next : Entry.Sound { entry with
            generation := entry.generation + 1
            inFlight := some ⟨.ended true, callers⟩
            succeeded := entry.succeeded + 1 } := by
          refine { sound with
            count := by simp_all; omega
            generation := by simpa using sound.generation
            flight := ?_ }
          rintro _ ⟨⟩ caller isCaller
          obtain ⟨isSame, inTime⟩ := flight _ isIn caller isCaller
          simp_all [Caller.after]
        exact next.recordEnsure expiresAt now
      case h_2 => exact sound
  | fails =>
      rw [Entry.step]
      split
      case h_1 callers isIn =>
        refine { sound with count := by simp_all; omega, flight := ?_ }
        rintro _ ⟨⟩ caller isCaller
        exact ⟨by simpa using (flight _ isIn caller isCaller).1, fun _ => rfl⟩
      case h_2 => exact sound
  | settles =>
      rw [Entry.step]
      split
      case h_1 renewed callers isIn =>
        refine { sound with count := by simp_all, flight := nofun, answers := ?_ }
        intro answer isAnswer
        rcases List.mem_append.mp isAnswer with isNew | isOld
        · obtain ⟨caller, isCaller, rfl⟩ := List.mem_map.mp isNew
          have := flight _ isIn caller isCaller
          cases renewed <;> simp_all
        · exact sound.answers answer isOld
      case h_2 => exact sound
  | recordEnsure expiresAt now => exact sound.recordEnsure expiresAt now
  | proactiveFails version now =>
      rw [Entry.step, Entry.proactiveFails]
      split
      case h_1 ms isExpiry =>
        split
        · refine { sound with schedule := ?_ }
          intro renewAt isScheduled
          obtain ⟨isEarly, isAt⟩ := Option.ite_none_right_eq_some.mp isScheduled
          cases isAt
          exact ⟨ms, isExpiry, by omega⟩
        · exact sound
      case h_2 => exact sound

end Triangle.ClientSupervisor
